/-
**The texts of devices.**

A text of a device is its kind, its two numbers and its path, with a colon between them, and options
behind them. Each option sets a detail; the last one that sets it counts, so the options may stand
in any order and be given again.

* `Device.Detail`, `Device.Setting`: what an option sets, and to which value.
* `Device.last`: the value that counts.
* `Device.Written`, `Device.write`: the texts of a device, and the plain ones.
* `Device.readOption_eq_ok_iff`: what is read as an option.
* `Device.foldlM_readOption_eq_ok_iff`, `Device.of_foldl_assign`: a run over all options.
* `Device.read_iff_written`: what is read as a device.
-/

import Mathlib.Data.List.Induction
import OciBundle.Config.Notation
import OciBundle.Proofs.Text.Numeral
import OciBundle.Proofs.Text.Separated

namespace OciBundle.Device

open Text (behind)

variable {device other result : Device} {input option : String} {options : List String}

/-! ### Details -/

/-- What an option of a device sets. -/
inductive Detail where
  | fileMode | uid | gid
  deriving DecidableEq

namespace Detail

/-- The key of an option. -/
def key : Detail → String
  | .fileMode => "fileMode"
  | .uid => "uid"
  | .gid => "gid"

/-- The base that its values are written in. -/
def base : Detail → Nat
  | .fileMode => 8
  | .uid | .gid => 10

/-- The value of a detail, where it is set. -/
def of (device : Device) : Detail → Option UInt32
  | .fileMode => device.fileMode
  | .uid => device.uid
  | .gid => device.gid

/-- Reads a value of a detail. -/
def read (text : String) : Detail → Except Numeral.Fault UInt32
  | .fileMode => Word.readOctal text
  | .uid | .gid => Word.read text

variable {detail : Detail} {text : String} {value : UInt32}

theorem read_eq_ok_iff : detail.read text = .ok value ↔ Word.Spells detail.base text value := by
  cases detail with
  | fileMode => exact Word.readOctal_eq_ok_iff (by decide)
  | uid => exact Word.read_eq_ok_iff (by decide)
  | gid => exact Word.read_eq_ok_iff (by decide)

theorem base_le (detail : Detail) : detail.base ≤ 10 := by
  cases detail <;> decide

theorem one_lt_base (detail : Detail) : 1 < detail.base := by
  cases detail <;> decide

/-- A key has no separator in it. -/
theorem key_free (detail : Detail) : '=' ∉ detail.key.toList ∧ ':' ∉ detail.key.toList := by
  cases detail <;> decide

end Detail

/-- A detail and the value that an option gives it. -/
structure Setting where
  detail : Detail
  value : UInt32

namespace Setting

/-- Sets the detail of a device. -/
def assign (device : Device) (setting : Setting) : Device :=
  match setting.detail with
  | .fileMode => { device with fileMode := some setting.value }
  | .uid => { device with uid := some setting.value }
  | .gid => { device with gid := some setting.value }

/-- **The options that set a detail to a value**: its key, an equals sign and a numeral. -/
def Spelled (setting : Setting) (option : String) : Prop :=
  ∃ numeral, Word.Spells setting.detail.base numeral setting.value ∧
    option = setting.detail.key ++ "=" ++ numeral

/-- The plain option: its numeral has the digits that the value is written in. -/
def write (setting : Setting) : String :=
  setting.detail.key ++ "=" ++
    String.ofList (Nat.toDigits setting.detail.base setting.value.toNat)

variable {setting : Setting}

theorem spelled_write (setting : Setting) : setting.Spelled setting.write := by
  refine ⟨_, ?_, rfl⟩
  rw [Word.Spells, String.toList_ofList]
  exact .bare (Numeral.spellsDigits_toDigits setting.detail.one_lt_base setting.value.toNat)

/-- An option stays within its field. -/
theorem Spelled.not_mem (spelled : setting.Spelled option) : ':' ∉ option.toList := by
  obtain ⟨numeral, spelled, rfl⟩ := spelled
  have digits := spelled.not_mem_colon setting.detail.base_le
  have key := setting.detail.key_free.2
  simp only [String.toList_append, List.mem_append, not_or]
  exact ⟨⟨key, by decide⟩, digits⟩

theorem forall_not_mem {settings : List Setting} (each : List.Forall₂ Spelled settings options) :
    ∀ option ∈ options, ':' ∉ option.toList := by
  induction each with
  | nil => exact List.forall_mem_nil _
  | cons first _ hypothesis => exact List.forall_mem_cons.mpr ⟨first.not_mem, hypothesis⟩

end Setting

/-- The value of the last setting of a detail. -/
def last (settings : List Setting) (detail : Detail) : Option UInt32 :=
  (settings.filter (·.detail = detail)).getLast?.map (·.value)

/-! ### Assignments -/

theorem of_assign (device : Device) (setting : Setting) (detail : Detail) :
    detail.of (setting.assign device) =
      if setting.detail = detail then some setting.value else detail.of device := by
  obtain ⟨set, value⟩ := setting
  cases set <;> cases detail <;> rfl

theorem last_concat (settings : List Setting) (setting : Setting) (detail : Detail) :
    last (settings ++ [setting]) detail =
      if setting.detail = detail then some setting.value else last settings detail := by
  by_cases same : setting.detail = detail
  · simp [last, same]
  · simp [last, same]

/-- **The last setting of a detail counts**; one that is not set again stays. By induction from the
last setting. -/
theorem of_foldl_assign (device : Device) (settings : List Setting) (detail : Detail) :
    detail.of (settings.foldl Setting.assign device) =
      (last settings detail).or (detail.of device) := by
  induction settings using List.reverseRecOn with
  | nil => rfl
  | append_singleton settings setting hypothesis =>
    rw [List.foldl_append, List.foldl_cons, List.foldl_nil, of_assign, last_concat, hypothesis]
    by_cases same : setting.detail = detail
    · rw [if_pos same, if_pos same, Option.some_or]
    · rw [if_neg same, if_neg same]

/-- What no option sets. -/
def head (device : Device) : String × Int64 × Int64 × String :=
  (device.kind, device.major, device.minor, device.path)

theorem head_foldl_assign (device : Device) (settings : List Setting) :
    (settings.foldl Setting.assign device).head = device.head := by
  induction settings generalizing device with
  | nil => rfl
  | cons setting settings hypothesis =>
    rw [List.foldl_cons, hypothesis]
    obtain ⟨set, value⟩ := setting
    cases set <;> rfl

/-- A device is told by its head and its details. -/
theorem eq_iff_head_of : device = other ↔
    device.head = other.head ∧ ∀ detail : Detail, detail.of device = detail.of other := by
  constructor
  · rintro rfl
    exact ⟨rfl, fun _ => rfl⟩
  · rintro ⟨same, each⟩
    have fileMode : device.fileMode = other.fileMode := each .fileMode
    have uid : device.uid = other.uid := each .uid
    have gid : device.gid = other.gid := each .gid
    obtain ⟨⟩ := device
    obtain ⟨⟩ := other
    cases same
    cases fileMode
    cases uid
    cases gid
    rfl

/-! ### Options -/

/-- An option with a known key is read as a value of its detail. -/
theorem readOption_of_key {detail : Detail} {text : String}
    (cut : Text.cut '=' option = some (detail.key, text)) : readOption input device option =
      ((detail.read text).mapError fun _ =>
        .malformed "device" input ("bad " ++ detail.key ++ " " ++ Text.quoted text)).map
          fun value => Setting.assign device ⟨detail, value⟩ := by
  cases detail <;> (rw [readOption, cut]; rfl)

/-- Nothing else is read. -/
theorem exists_key_of_readOption {key text : String} (cut : Text.cut '=' option = some (key, text))
    (done : readOption input device option = .ok result) : ∃ detail : Detail, detail.key = key := by
  rw [readOption, cut] at done
  dsimp only at done
  split at done
  next same => exact ⟨.fileMode, same.symm⟩
  next =>
    split at done
    next same => exact ⟨.uid, same.symm⟩
    next =>
      split at done
      next same => exact ⟨.gid, same.symm⟩
      next => cases done

/-- **What is read as an option.** -/
theorem readOption_eq_ok_iff : readOption input device option = .ok result ↔
    ∃ setting : Setting, setting.Spelled option ∧ setting.assign device = result := by
  constructor
  · intro done
    cases cut : Text.cut '=' option with
    | none =>
      rw [readOption, cut] at done
      cases done
    | some parts =>
      obtain ⟨key, text⟩ := parts
      obtain ⟨detail, rfl⟩ := exists_key_of_readOption cut done
      rw [readOption_of_key cut, map_eq_ok_iff] at done
      obtain ⟨value, read, rfl⟩ := done
      have spelled := Detail.read_eq_ok_iff.mp (mapError_eq_ok_iff.mp read)
      exact ⟨⟨detail, value⟩, ⟨text, spelled, (Text.cut_eq_some_iff.mp cut).1⟩, rfl⟩
  · rintro ⟨setting, ⟨numeral, spelled, rfl⟩, rfl⟩
    have cut : Text.cut '=' (setting.detail.key ++ "=" ++ numeral) =
        some (setting.detail.key, numeral) :=
      Text.cut_eq_some_iff.mpr ⟨rfl, setting.detail.key_free.1⟩
    rw [readOption_of_key cut, map_eq_ok_iff]
    exact ⟨setting.value, mapError_eq_ok_iff.mpr (Detail.read_eq_ok_iff.mpr spelled), rfl⟩

/-- **What is read as options**: their settings are made one after the other. -/
theorem foldlM_readOption_eq_ok_iff : options.foldlM (readOption input) device = .ok result ↔
    ∃ settings, List.Forall₂ Setting.Spelled settings options ∧
      settings.foldl Setting.assign device = result := by
  induction options generalizing device with
  | nil =>
    constructor
    · intro done
      cases done
      exact ⟨[], .nil, rfl⟩
    · rintro ⟨settings, each, rfl⟩
      cases each
      rfl
  | cons option options hypothesis =>
    rw [List.foldlM_cons, bind_eq_ok_iff]
    simp only [readOption_eq_ok_iff, hypothesis]
    constructor
    · rintro ⟨_, ⟨setting, spelled, rfl⟩, settings, each, rfl⟩
      exact ⟨setting :: settings, .cons spelled each, rfl⟩
    · rintro ⟨settings, each, rfl⟩
      cases each with
      | cons spelled each => exact ⟨_, ⟨_, spelled, rfl⟩, _, each, rfl⟩

/-! ### Texts of devices -/

/-- **The texts of a device**: its kind, its numbers and its path, neither kind nor path with a
colon, and options of which the last ones give it its details. -/
def Written (device : Device) (input : String) : Prop :=
  ∃ (major minor : String) (settings : List Setting) (options : List String),
    Word.Spells 10 major device.major ∧ Word.Spells 10 minor device.minor ∧
      ':' ∉ device.kind.toList ∧ ':' ∉ device.path.toList ∧
      List.Forall₂ Setting.Spelled settings options ∧
      (∀ detail, detail.of device = last settings detail) ∧
      input =
        device.kind ++ ":" ++ major ++ ":" ++ minor ++ ":" ++ device.path ++ behind ':' options

/-- The plain text of a device with settings of its details. -/
def write (device : Device) (settings : List Setting) : String :=
  device.kind ++ ":" ++ Word.text device.major ++ ":" ++ Word.text device.minor ++ ":" ++
    device.path ++ behind ':' (settings.map Setting.write)

/-- A device without details. -/
def plain (kind : String) (major minor : Int64) (path : String) : Device :=
  { path, kind, major, minor, fileMode := none, uid := none, gid := none }

theorem foldl_assign_plain_eq_iff {kind path : String} {major minor : Int64}
    {settings : List Setting} :
    settings.foldl Setting.assign (plain kind major minor path) = device ↔
      (kind, major, minor, path) = device.head ∧
        ∀ detail, detail.of device = last settings detail := by
  have unset (detail : Detail) : detail.of (plain kind major minor path) = none := by
    cases detail <;> rfl
  rw [eq_iff_head_of, head_foldl_assign]
  simp only [of_foldl_assign, unset, Option.or_none, eq_comm (b := Detail.of _ _)]
  rfl

/-- A text is put together of its fields. -/
theorem fields_eq_iff {kind major minor path : String} :
    Text.fields ':' input = kind :: major :: minor :: path :: options ↔
      input = kind ++ ":" ++ major ++ ":" ++ minor ++ ":" ++ path ++ behind ':' options ∧
        ∀ field ∈ kind :: major :: minor :: path :: options, ':' ∉ field.toList := by
  have text : kind ++ behind ':' (major :: minor :: path :: options) =
      kind ++ ":" ++ major ++ ":" ++ minor ++ ":" ++ path ++ behind ':' options := by
    simp only [Text.behind_cons, String.append_assoc]
    rfl
  rw [Text.fields_eq_cons_iff, text]

/-- What is read as a device, by the fields of the text. -/
theorem read_eq_ok_iff : read input = .ok device ↔
    ∃ (major minor : String) (settings : List Setting) (options : List String),
      Text.fields ':' input = device.kind :: major :: minor :: device.path :: options ∧
        Word.Spells 10 major device.major ∧ Word.Spells 10 minor device.minor ∧
        List.Forall₂ Setting.Spelled settings options ∧
        ∀ detail, detail.of device = last settings detail := by
  have number {field : String} {value : Int64} {rename : Numeral.Fault → ParseFault} :
      (Word.read field).mapError rename = .ok value ↔ Word.Spells 10 field value := by
    rw [mapError_eq_ok_iff, Word.read_eq_ok_iff (by decide)]
  constructor
  · intro done
    unfold read at done
    dsimp only at done
    split at done
    next kind major minor path options cut =>
      obtain ⟨first, spelled, done⟩ := exists_of_bind_eq_ok done
      obtain ⟨second, spelled', done⟩ := exists_of_bind_eq_ok done
      obtain ⟨settings, each, done⟩ := foldlM_readOption_eq_ok_iff.mp done
      obtain ⟨same, details⟩ := foldl_assign_plain_eq_iff.mp done
      cases same
      exact ⟨major, minor, settings, options, cut, number.mp spelled, number.mp spelled', each,
        details⟩
    next => cases done
  · rintro ⟨major, minor, settings, options, cut, spelled, spelled', each, details⟩
    have assigned := foldl_assign_plain_eq_iff.mpr ⟨rfl, details⟩
    unfold read
    simp only [cut, number.mpr spelled, number.mpr spelled']
    exact foldlM_readOption_eq_ok_iff.mpr ⟨settings, each, assigned⟩

/-- **What is read are the texts of devices.** -/
theorem read_eq_ok_iff_written : read input = .ok device ↔ device.Written input := by
  rw [read_eq_ok_iff]
  constructor
  · rintro ⟨major, minor, settings, options, cut, spelled, spelled', each, details⟩
    obtain ⟨text, free⟩ := fields_eq_iff.mp cut
    simp only [List.forall_mem_cons] at free
    obtain ⟨kind, _, _, path, _⟩ := free
    exact ⟨major, minor, settings, options, spelled, spelled', kind, path, each, details, text⟩
  · rintro ⟨major, minor, settings, options, spelled, spelled', kind, path, each, details, text⟩
    refine ⟨major, minor, settings, options, fields_eq_iff.mpr ⟨text, ?_⟩, spelled, spelled', each,
      details⟩
    simp only [List.forall_mem_cons]
    exact ⟨kind, spelled.not_mem_colon (by decide), spelled'.not_mem_colon (by decide), path,
      Setting.forall_not_mem each⟩

/-- **What is read as a device.** A text is read exactly if it is one of a device, and this one is
read; and the plain text of a device is read as it, whatever the order of its settings and the ones
that later ones replace. -/
theorem read_iff_written :
    (∀ input device, read input = .ok device ↔ device.Written input) ∧
    ∀ (device : Device) (settings : List Setting),
      ':' ∉ device.kind.toList → ':' ∉ device.path.toList →
      (∀ detail, last settings detail = detail.of device) →
        read (device.write settings) = .ok device := by
  refine ⟨fun _ _ => read_eq_ok_iff_written, fun device settings kind path details => ?_⟩
  have each : List.Forall₂ Setting.Spelled settings (settings.map Setting.write) := by
    rw [List.forall₂_map_right_iff]
    exact List.forall₂_same.mpr fun setting _ => setting.spelled_write
  exact read_eq_ok_iff_written.mpr ⟨_, _, settings, _, Word.spells_text _, Word.spells_text _, kind,
    path, each, fun detail => (details detail).symm, rfl⟩

/-- The extreme numbers, a group that is given twice and no user. -/
theorem read_iff_written_twice :
    read "c:-9223372036854775808:9223372036854775807:/dev/x:gid=0:fileMode=666:gid=4294967295" =
      .ok ⟨"/dev/x", "c", -9223372036854775808, 9223372036854775807, some 0o666, none,
        some 4294967295⟩ :=
  read_iff_written.2 ⟨"/dev/x", "c", -9223372036854775808, 9223372036854775807, some 0o666, none,
    some 4294967295⟩ [⟨.gid, 0⟩, ⟨.fileMode, 0o666⟩, ⟨.gid, 4294967295⟩] (by decide) (by decide)
    fun detail => by cases detail <;> decide

end OciBundle.Device
