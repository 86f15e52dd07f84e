/-
**The validator points at every item that breaks a rule.**

Rules about the items of a list name the item by its index. An item whose key is outside its
vocabulary is reported as invalid, one whose key an earlier item has is reported as repeated, and no
other item is reported for these reasons; an item without a mandatory key is only missing it.

* `Violation.Pinpoints`: a rule is reported about just the items that break it.
* `Violation.Judges`, `Violation.judges_each`: the two rules about the keys of a list.
* `Process.judges_checkCapabilities`, `Linux.judges_checkNamespaces`, …: the lists of keys.
* `Config.lacks_rlimits`, …: the mandatory keys that are not given.
* `Bundle.pinpointed_validate`: all of them in the violations of a bundle, none reported twice.
-/

import OciBundle.Proofs.Outline.Missing
import OciBundle.Proofs.Validation.Once

namespace OciBundle

open Keyed (any_eq_iff_mem_map)
open Outline (itemPath memberPath)
open Violation (ReportsAt)

/-! ### Rules about items -/

namespace Violation

variable {α : Type} {code invalid duplicate : Code} {subject base : String}
  {found part : List Violation} {keys : List String} {valid given : String → Prop}

/-- **A rule is reported about just the items that break it.** -/
structure Pinpoints (found : List Violation) (code : Code) (base : String) (breaks : Nat → Prop) :
    Prop where
  exact : ∀ index, ReportsAt found code (itemPath base index) ↔ breaks index
  only : ∀ subject, ReportsAt found code subject → ∃ index, subject = itemPath base index

/-- The key at an index is wrong. -/
def Unfit (keys : List String) (wrong : String → Prop) (index : Nat) : Prop :=
  ∃ key, keys[index]? = some key ∧ wrong key

/-- The key at an index is valid and stands at an earlier index too. -/
def Repeated (keys : List String) (valid : String → Prop) (index : Nat) : Prop :=
  ∃ key, keys[index]? = some key ∧ valid key ∧ ∃ earlier < index, keys[earlier]? = some key

/-- **The rules about the keys of a list**: keys that are given are valid, and no valid one stands
twice. -/
structure Judges (found : List Violation) (invalid duplicate : Code) (base : String)
    (keys : List String) (valid given : String → Prop) : Prop where
  unfit : Pinpoints found invalid base (Unfit keys fun key => given key ∧ ¬ valid key)
  repeated : Pinpoints found duplicate base (Repeated keys valid)

theorem Pinpoints.of_iff {breaks : Nat → Prop}
    (same : ∀ subject, ReportsAt found code subject ↔ ReportsAt part code subject)
    (pinpoints : Pinpoints part code base breaks) : Pinpoints found code base breaks where
  exact index := (same _).trans (pinpoints.exact index)
  only subject reported := pinpoints.only subject ((same subject).mp reported)

theorem Pinpoints.congr {breaks breaks' : Nat → Prop} (pinpoints : Pinpoints found code base breaks)
    (same : ∀ index, breaks index ↔ breaks' index) : Pinpoints found code base breaks' where
  exact index := (pinpoints.exact index).trans (same index)
  only := pinpoints.only

theorem Judges.of_iff (same : ∀ code ∈ [invalid, duplicate], ∀ subject,
      ReportsAt found code subject ↔ ReportsAt part code subject)
    (judges : Judges part invalid duplicate base keys valid given) :
    Judges found invalid duplicate base keys valid given where
  unfit := judges.unfit.of_iff (same invalid List.mem_cons_self)
  repeated := judges.repeated.of_iff (same duplicate (List.mem_cons_of_mem _ List.mem_cons_self))

/-- A check of items that reports a rule about the item itself. -/
theorem pinpoints_each {items : List α} {check : Nat → α → List Violation}
    {breaks : Nat → α → Prop} (means : ∀ index item subject,
      ReportsAt (check index item) code subject ↔ breaks index item ∧ itemPath base index = subject) :
    Pinpoints (each items check) code base
      fun index => ∃ item, items[index]? = some item ∧ breaks index item where
  exact index := by
    rw [reportsAt_each]
    constructor
    · rintro ⟨place, item, placed, found⟩
      obtain ⟨fault, same⟩ := (means place item _).mp found
      obtain rfl := itemPath_injective same
      exact ⟨item, placed, fault⟩
    · rintro ⟨item, placed, fault⟩
      exact ⟨index, item, placed, (means index item _).mpr ⟨fault, rfl⟩⟩
  only subject found := by
    obtain ⟨index, item, _, found⟩ := reportsAt_each.mp found
    exact ⟨index, ((means index item subject).mp found).2.symm⟩

theorem pinpoints_nil {breaks : Nat → Prop} (none : ∀ index, ¬ breaks index) :
    Pinpoints [] code base breaks where
  exact index := iff_of_false not_reportsAt_nil (none index)
  only _ found := absurd found not_reportsAt_nil

theorem judges_nil : Judges [] invalid duplicate base [] valid given where
  unfit := pinpoints_nil fun _ => nofun
  repeated := pinpoints_nil fun _ => nofun

theorem unfit_map {items : List α} {key : α → String} (wrong : String → Prop) (index : Nat) :
    (∃ item, items[index]? = some item ∧ wrong (key item)) ↔ Unfit (items.map key) wrong index := by
  simp only [Unfit, List.getElem?_map, Option.map_eq_some_iff]
  exact ⟨fun ⟨item, placed, fault⟩ => ⟨key item, ⟨item, placed, rfl⟩, fault⟩,
    fun ⟨_, ⟨item, placed, same⟩, fault⟩ => ⟨item, placed, same ▸ fault⟩⟩

/-- Keys in front of an index are keys at earlier indices. -/
theorem mem_take_iff_getElem? {index : Nat} {key : String} :
    key ∈ keys.take index ↔ ∃ earlier < index, keys[earlier]? = some key := by
  rw [List.mem_iff_getElem?]
  refine exists_congr fun earlier => ?_
  rw [List.getElem?_take]
  by_cases early : earlier < index
  · rw [if_pos early, and_iff_right early]
  · rw [if_neg early]
    exact iff_of_false nofun fun found => early found.1

theorem repeated_map {items : List α} {key : α → String} (valid : String → Prop) (index : Nat) :
    (∃ item, items[index]? = some item ∧ valid (key item) ∧
      key item ∈ (items.take index).map key) ↔ Repeated (items.map key) valid index := by
  simp only [List.map_take, mem_take_iff_getElem?]
  exact unfit_map (fun text => valid text ∧ ∃ earlier < index, (items.map key)[earlier]? = some text)
    index

/-- **A check of keyed items** that tells apart unknown and repeated keys. -/
theorem judges_each {items : List α} {key : α → String} {check : Nat → α → List Violation}
    (different : invalid ≠ duplicate) (means : ∀ index item, ∀ code ∈ [invalid, duplicate], ∀ subject,
      ReportsAt (check index item) code subject ↔
        (given (key item) ∧ ¬ valid (key item)) ∧ invalid = code ∧ itemPath base index = subject ∨
        (valid (key item) ∧ key item ∈ (items.take index).map key) ∧ duplicate = code ∧
          itemPath base index = subject) :
    Judges (each items check) invalid duplicate base (items.map key) valid given where
  unfit := by
    refine (pinpoints_each fun index item subject => ?_).congr (unfit_map _)
    rw [means index item invalid List.mem_cons_self]
    simp [different.symm]
  repeated := by
    refine (pinpoints_each fun index item subject => ?_).congr (repeated_map valid)
    rw [means index item duplicate (List.mem_cons_of_mem _ List.mem_cons_self)]
    simp [different]

/-- A value is unknown, or else it may be repeated. -/
theorem reportsAt_unknown_or_repeated {known : Prop} [Decidable known] {early : Bool}
    {unknown repeated : Violation} :
    ReportsAt (if ¬ known then [unknown] else require (!early) repeated) code subject ↔
      ¬ known ∧ unknown.code = code ∧ unknown.subject = subject ∨
        known ∧ early = true ∧ repeated.code = code ∧ repeated.subject = subject := by
  by_cases holds : known
  · rw [if_neg (not_not_intro holds), reportsAt_require]
    simp [holds]
  · rw [if_pos holds]
    simp [holds]

end Violation

open Violation (Judges Pinpoints Unfit judges_each judges_nil pinpoints_each pinpoints_nil unfit_map
  reportsAt_unknown_or_repeated reportsAt_require reportsAt_append)

theorem Capability.check_eq_ok_iff {name : String} : check name none = .ok () ↔ name ∈ all := by
  have prefixed : ∀ known ∈ all, Text.startsWith "CAP_" known = true := by decide +kernel
  unfold check isKnown
  by_cases known : name ∈ all
  · simp [known, prefixed name known]
  · by_cases marked : Text.startsWith "CAP_" name = true
    · simp [known, marked]
    · simp [known, marked]

theorem Vocabulary.isKnown_iff {α : Type} [Vocabulary α] {value : String} :
    isKnown α value = true ↔ ∃ word : α, text word = value := by
  rw [isKnown, Option.isSome_iff_exists]
  exact exists_congr fun word => ofText?_eq_some_iff

/-! ### The keys of a process -/

namespace Process

variable {process : Process}

theorem judges_checkCapabilities (host : Option Host) :
    Judges (process.checkCapabilities host) .procCapInvalid .procCapDuplicate
      "process.capabilities" process.capabilities (· ∈ Capability.all) fun _ => True := by
  have judges : Judges (process.checkCapabilities host) .procCapInvalid .procCapDuplicate
      "process.capabilities" (process.capabilities.map id) (· ∈ Capability.all) fun _ => True := by
    refine judges_each (by decide) fun index name code inside subject => ?_
    rw [List.map_id]
    split
    next rejection refused =>
      have unknown : name ∉ Capability.all := by
        rw [← Capability.check_eq_ok_iff, refused]
        nofun
      simp [unknown]
    next accepted =>
      have known : name ∈ Capability.all := Capability.check_eq_ok_iff.mp accepted
      split
      next early => simp [known, List.contains_iff_mem.mp early]
      next fresh =>
        have absent : name ∉ process.capabilities.take index :=
          fun member => fresh (List.contains_iff_mem.mpr member)
        have other : Code.procCapNotSupported ≠ code := by
          rintro rfl
          exact absurd inside (by decide)
        simp [known, absent, other]
  rwa [List.map_id] at judges

theorem judges_checkRlimits :
    Judges process.checkRlimits .procRlimitTypeInvalid .procRlimitDuplicate "process.rlimits"
      (process.rlimits.map (·.kind)) (· ∈ rlimitKinds) (· ≠ "") := by
  refine judges_each (by decide) fun index limit code inside subject => ?_
  have other : Code.procRlimitSoftExceedsHard ≠ code := by
    rintro rfl
    exact absurd inside (by decide)
  by_cases empty : limit.kind = ""
  · have unknown : "" ∉ rlimitKinds := by decide
    simp [empty, unknown]
  · rw [if_neg empty, reportsAt_append, checkRlimitBounds, reportsAt_require, checkRlimitKind,
      reportsAt_unknown_or_repeated, any_eq_iff_mem_map, List.contains_iff_mem]
    simp [empty, other, and_assoc]

end Process

/-! ### The keys of what is configured for Linux -/

namespace Linux

variable {linux : Linux}

theorem judges_checkNamespaces :
    Judges linux.checkNamespaces .nsTypeInvalid .nsTypeDuplicate "linux.namespaces"
      (linux.namespaces.map (·.kind)) (fun key => ∃ kind : NamespaceKind, kind.text = key)
      (· ≠ "") := by
  refine judges_each (by decide) fun index entry code inside subject => ?_
  have other : Code.nsPathAbs ≠ code := by
    rintro rfl
    exact absurd inside (by decide)
  have known : Vocabulary.isKnown NamespaceKind entry.kind = true ↔
      ∃ kind : NamespaceKind, kind.text = entry.kind := Vocabulary.isKnown_iff
  by_cases empty : entry.kind = ""
  · have unknown : ¬ ∃ kind : NamespaceKind, kind.text = "" :=
      fun known => absurd (Vocabulary.isKnown_iff.mpr known) (by decide)
    simp [empty, unknown]
  · rw [if_neg empty, reportsAt_append, checkNamespacePath, reportsAt_require, checkNamespaceKind,
      reportsAt_unknown_or_repeated, any_eq_iff_mem_map, known]
    simp [empty, other, and_assoc]

theorem reportsAt_checkDeviceKind {index : Nat} {device : Device} {subject : String} :
    ReportsAt (checkDeviceKind index device) .deviceTypeInvalid subject ↔
      (device.kind ≠ "" ∧ ¬ ∃ kind : DeviceKind, kind.text = device.kind) ∧
        itemPath "linux.devices" index = subject := by
  unfold checkDeviceKind
  by_cases empty : device.kind = ""
  · simp [empty]
  · rw [if_neg empty]
    split
    next unknown =>
      have outside : ¬ ∃ kind : DeviceKind, kind.text = device.kind := by
        rintro ⟨kind, same⟩
        rw [Vocabulary.ofText?_eq_some_iff.mpr same] at unknown
        cases unknown
      simp [empty, outside]
    next kind known =>
      have inside : ∃ kind : DeviceKind, kind.text = device.kind :=
        ⟨kind, Vocabulary.ofText?_eq_some_iff.mp known⟩
      simp [inside]

theorem judges_checkDevices :
    Judges linux.checkDevices .devicePathAbs .devicePathDuplicate "linux.devices"
      (linux.devices.map (·.path)) (fun path => Text.isAbsolute path = true) (· ≠ "") := by
  refine judges_each (by decide) fun index device code inside subject => ?_
  have other : ¬ ReportsAt (checkDeviceKind index device) code subject :=
    (neat_checkDeviceKind index device).within.not_reportsAt fun member => by
      revert inside member
      revert code
      decide
  rw [reportsAt_append, or_iff_right other, checkDevicePath]
  by_cases empty : device.path = ""
  · have relative : Text.isAbsolute "" = false := rfl
    simp [empty, relative]
  · rw [if_neg empty, reportsAt_unknown_or_repeated, any_eq_iff_mem_map]
    simp [empty, and_assoc]

theorem pinpoints_checkDevices :
    Pinpoints linux.checkDevices .deviceTypeInvalid "linux.devices"
      (Unfit (linux.devices.map (·.kind)) fun key =>
        key ≠ "" ∧ ¬ ∃ kind : DeviceKind, kind.text = key) := by
  refine (pinpoints_each fun index device subject => ?_).congr (unfit_map _)
  rw [reportsAt_append, reportsAt_checkDeviceKind, or_iff_left]
  exact (linux.neat_checkDevicePath index device).within.not_reportsAt (by decide)

end Linux

theorem Seccomp.judges_checkArchitectures {seccomp : Seccomp} :
    Judges seccomp.checkArchitectures .seccompArchInvalid .seccompArchDuplicate
      "linux.seccomp.architectures" seccomp.architectures
      (fun key => ∃ arch : SeccompArch, arch.text = key) fun _ => True := by
  have judges : Judges seccomp.checkArchitectures .seccompArchInvalid .seccompArchDuplicate
      "linux.seccomp.architectures" (seccomp.architectures.map id)
      (fun key => ∃ arch : SeccompArch, arch.text = key) fun _ => True := by
    refine judges_each (by decide) fun index arch code inside subject => ?_
    have known : Vocabulary.isKnown SeccompArch arch = true ↔
        ∃ word : SeccompArch, word.text = arch := Vocabulary.isKnown_iff
    rw [List.map_id, reportsAt_unknown_or_repeated, known, List.contains_iff_mem]
    simp [and_assoc]
  rwa [List.map_id] at judges

/-! ### The keys among other rules -/

namespace Process

variable {process : Process} {host : Option Host} {code : Code} {subject : String}

theorem reportsAt_check (inside : code ∈ [Code.procCapInvalid, .procCapDuplicate,
      .procRlimitTypeInvalid, .procRlimitDuplicate]) :
    ReportsAt (process.check host) code subject ↔
      ReportsAt (process.checkCapabilities host) code subject ∨
        ReportsAt process.checkRlimits code subject := by
  have apart : ∀ code ∈ [Code.procCapInvalid, .procCapDuplicate, .procRlimitTypeInvalid,
      .procRlimitDuplicate], code ∉ [Code.procCwdAbs] ∧ code ∉ [Code.procEnvInvalid] := by decide
  obtain ⟨noCwd, noEnv⟩ := apart code inside
  rw [check, reportsAt_append, reportsAt_append, reportsAt_append,
    or_iff_right (process.neat_checkCwd.within.not_reportsAt noCwd),
    or_iff_right (process.neat_checkEnv.within.not_reportsAt noEnv)]

theorem judges_check_capabilities :
    Judges (process.check host) .procCapInvalid .procCapDuplicate "process.capabilities"
      process.capabilities (· ∈ Capability.all) fun _ => True := by
  refine (process.judges_checkCapabilities host).of_iff fun code inside subject => ?_
  rw [reportsAt_check (List.mem_append_left [_, _] inside), or_iff_left]
  exact process.neat_checkRlimits.within.not_reportsAt (by revert code; decide)

theorem judges_check_rlimits :
    Judges (process.check host) .procRlimitTypeInvalid .procRlimitDuplicate
      "process.rlimits" (process.rlimits.map (·.kind)) (· ∈ rlimitKinds) (· ≠ "") := by
  refine process.judges_checkRlimits.of_iff fun code inside subject => ?_
  rw [reportsAt_check (List.mem_append_right [_, _] inside), or_iff_right]
  exact (process.neat_checkCapabilities host).within.not_reportsAt (by revert code; decide)

end Process

theorem Seccomp.judges_check {seccomp : Seccomp} :
    Judges seccomp.check .seccompArchInvalid .seccompArchDuplicate "linux.seccomp.architectures"
      seccomp.architectures (fun key => ∃ arch : SeccompArch, arch.text = key) fun _ => True := by
  refine seccomp.judges_checkArchitectures.of_iff fun code inside subject => ?_
  have apart : ∀ code ∈ [Code.seccompArchInvalid, .seccompArchDuplicate],
      Code.seccompDefaultActionInvalid ≠ code ∧
        code ∉ [Code.seccompActionInvalid, .seccompOperatorInvalid] := by decide
  obtain ⟨noAction, noRule⟩ := apart code inside
  have rules : Violation.Within [.seccompActionInvalid, .seccompOperatorInvalid]
      (Violation.each seccomp.syscalls checkRule) :=
    (Violation.Neat.each neat_checkRule).within
  rw [check, reportsAt_append, reportsAt_append, reportsAt_require,
    or_iff_left (rules.not_reportsAt noRule), or_iff_right fun found => noAction found.2.1]

namespace Linux

variable {linux : Linux} {hostname : String} {code : Code} {subject : String}

/-- The rules about namespaces, devices and architectures are in three checks. -/
theorem reportsAt_check (inside : code ∈ [Code.nsTypeInvalid, .nsTypeDuplicate, .deviceTypeInvalid,
      .devicePathAbs, .devicePathDuplicate, .seccompArchInvalid, .seccompArchDuplicate]) :
    ReportsAt (linux.check hostname) code subject ↔
      ReportsAt linux.checkNamespaces code subject ∨ ReportsAt linux.checkDevices code subject ∨
        ReportsAt ((linux.seccomp.map Seccomp.check).getD []) code subject := by
  have other (codes : List Code) (apart : ∀ code ∈ [Code.nsTypeInvalid, .nsTypeDuplicate,
      .deviceTypeInvalid, .devicePathAbs, .devicePathDuplicate, .seccompArchInvalid,
      .seccompArchDuplicate], code ∉ codes) : code ∉ codes := apart code inside
  simp only [check, reportsAt_append,
    (linux.neat_checkHostname hostname).within.not_reportsAt (other _ (by decide)),
    linux.neat_checkMappings.within.not_reportsAt (other _ (by decide)),
    linux.neat_checkSysctl.within.not_reportsAt (other _ (by decide)),
    linux.neat_checkPropagation.within.not_reportsAt (other _ (by decide)),
    (neat_checkDeviceRules _).within.not_reportsAt (other _ (by decide)),
    (neat_checkPaths .maskedPathAbs _ _).within.not_reportsAt (other _ (by decide)),
    (neat_checkPaths .readonlyPathAbs _ _).within.not_reportsAt (other _ (by decide)),
    or_false, or_assoc]

theorem reportsAt_check_namespaces (inside : code ∈ [Code.nsTypeInvalid, .nsTypeDuplicate]) :
    ReportsAt (linux.check hostname) code subject ↔ ReportsAt linux.checkNamespaces code subject := by
  rw [reportsAt_check (List.mem_append_left [_, _, _, _, _] inside), ← or_assoc, or_iff_left,
    or_iff_left]
  · exact linux.neat_checkDevices.within.not_reportsAt (by revert code; decide)
  · exact linux.neat_checkFilter.within.not_reportsAt (by revert code; decide)

theorem reportsAt_check_devices
    (inside : code ∈ [Code.deviceTypeInvalid, .devicePathAbs, .devicePathDuplicate]) :
    ReportsAt (linux.check hostname) code subject ↔ ReportsAt linux.checkDevices code subject := by
  have known : code ∈ [Code.nsTypeInvalid, .nsTypeDuplicate] ++
      ([.deviceTypeInvalid, .devicePathAbs, .devicePathDuplicate] ++
        [.seccompArchInvalid, .seccompArchDuplicate]) :=
    List.mem_append_right _ (List.mem_append_left _ inside)
  rw [reportsAt_check known, or_iff_right, or_iff_left]
  · exact linux.neat_checkFilter.within.not_reportsAt (by revert code; decide)
  · exact linux.neat_checkNamespaces.within.not_reportsAt (by revert code; decide)

theorem reportsAt_check_filter (inside : code ∈ [Code.seccompArchInvalid, .seccompArchDuplicate]) :
    ReportsAt (linux.check hostname) code subject ↔
      ReportsAt ((linux.seccomp.map Seccomp.check).getD []) code subject := by
  rw [reportsAt_check (List.mem_append_right [_, _, _, _, _] inside), or_iff_right, or_iff_right]
  · exact linux.neat_checkDevices.within.not_reportsAt (by revert code; decide)
  · exact linux.neat_checkNamespaces.within.not_reportsAt (by revert code; decide)

end Linux

/-! ### Bundles -/

namespace Config

/-- The keys of a list that is configured for Linux, none where nothing is. -/
def linuxKeys (config : Config) (keys : Linux → List String) : List String :=
  (config.linux.map keys).getD []

/-- A mandatory key is missing at just the items whose key is empty. -/
def Lacks (found : List Violation) (base name : String) (keys : List String) : Prop :=
  ∀ index, ReportsAt found .mandatoryFieldMissing (memberPath (itemPath base index) name) ↔
    keys[index]? = some ""

/-- **What is reported about the keys in a configuration.** -/
structure Pinpointed (config : Config) (found : List Violation) : Prop where
  capabilities : Judges found .procCapInvalid .procCapDuplicate "process.capabilities"
    config.process.capabilities (· ∈ Capability.all) fun _ => True
  rlimits : Judges found .procRlimitTypeInvalid .procRlimitDuplicate "process.rlimits"
    (config.process.rlimits.map (·.kind)) (· ∈ rlimitKinds) (· ≠ "")
  namespaces : Judges found .nsTypeInvalid .nsTypeDuplicate "linux.namespaces"
    (config.linuxKeys fun linux => linux.namespaces.map (·.kind))
    (fun key => ∃ kind : NamespaceKind, kind.text = key) (· ≠ "")
  devices : Judges found .devicePathAbs .devicePathDuplicate "linux.devices"
    (config.linuxKeys fun linux => linux.devices.map (·.path))
    (fun key => Text.isAbsolute key = true) (· ≠ "")
  deviceKinds : Pinpoints found .deviceTypeInvalid "linux.devices"
    (Unfit (config.linuxKeys fun linux => linux.devices.map (·.kind)) fun key =>
      key ≠ "" ∧ ¬ ∃ kind : DeviceKind, kind.text = key)
  architectures : Judges found .seccompArchInvalid .seccompArchDuplicate
    "linux.seccomp.architectures"
    (config.linuxKeys fun linux => (linux.seccomp.map (·.architectures)).getD [])
    (fun key => ∃ arch : SeccompArch, arch.text = key) fun _ => True
  noRlimit : Lacks found "process.rlimits" "type" (config.process.rlimits.map (·.kind))
  noNamespace : Lacks found "linux.namespaces" "type"
    (config.linuxKeys fun linux => linux.namespaces.map (·.kind))
  noDevice : Lacks found "linux.devices" "path"
    (config.linuxKeys fun linux => linux.devices.map (·.path))
  noDeviceKind : Lacks found "linux.devices" "type"
    (config.linuxKeys fun linux => linux.devices.map (·.kind))

variable {config : Config}

/-- What is reported about the keys of a list for Linux is reported where anything is configured. -/
theorem judges_checkLinux {keys : Linux → List String} {invalid duplicate : Code} {base : String}
    {valid given : String → Prop} (judges : ∀ linux : Linux,
      Judges (linux.check config.hostname) invalid duplicate base (keys linux) valid given) :
    Judges config.checkLinux invalid duplicate base (config.linuxKeys keys) valid given := by
  unfold checkLinux linuxKeys
  cases config.linux with
  | none => exact judges_nil
  | some linux => exact judges linux

theorem pinpoints_checkLinux_deviceKinds :
    Pinpoints config.checkLinux .deviceTypeInvalid "linux.devices"
      (Unfit (config.linuxKeys fun linux => linux.devices.map (·.kind)) fun key =>
        key ≠ "" ∧ ¬ ∃ kind : DeviceKind, kind.text = key) := by
  unfold checkLinux linuxKeys
  cases config.linux with
  | none => exact pinpoints_nil fun _ => nofun
  | some linux =>
    exact linux.pinpoints_checkDevices.of_iff fun _ => Linux.reportsAt_check_devices (by decide)

theorem judges_checkLinux_architectures :
    Judges config.checkLinux .seccompArchInvalid .seccompArchDuplicate
      "linux.seccomp.architectures"
      (config.linuxKeys fun linux => (linux.seccomp.map (·.architectures)).getD [])
      (fun key => ∃ arch : SeccompArch, arch.text = key) fun _ => True := by
  refine judges_checkLinux fun linux => ?_
  have filter : Judges ((linux.seccomp.map Seccomp.check).getD []) .seccompArchInvalid
      .seccompArchDuplicate "linux.seccomp.architectures"
      ((linux.seccomp.map (·.architectures)).getD [])
      (fun key => ∃ arch : SeccompArch, arch.text = key) fun _ => True := by
    cases linux.seccomp with
    | none => exact judges_nil
    | some seccomp => exact seccomp.judges_check
  exact filter.of_iff fun code inside subject => Linux.reportsAt_check_filter inside

/-! ### Keys that are not given -/

theorem reportsAt_checkMandatory {path : String} :
    ReportsAt config.checkMandatory .mandatoryFieldMissing path ↔ path ∈ config.missing := by
  constructor
  · rintro ⟨violation, inside, _, rfl⟩
    obtain ⟨path, missing, rfl⟩ := List.mem_map.mp inside
    exact missing
  · exact fun missing => ⟨_, List.mem_map_of_mem missing, rfl, rfl⟩

/-- The path of an address is missing where nothing is given at the address. -/
theorem mem_missing_iff {path : String} (name : String) (address : Json.Address)
    (plain : Outline.PlainAddress (.member name :: address))
    (same : Outline.addressPath "" (.member name :: address) = path) :
    path ∈ config.missing ↔ config.outline.MissesAt (.member name :: address) :=
  same ▸ Outline.addressPath_mem_missing config.distinct_outline plain

theorem lacks_rlimits :
    Lacks config.checkMandatory "process.rlimits" "type" (config.process.rlimits.map (·.kind)) := by
  intro index
  refine reportsAt_checkMandatory.trans ?_
  refine (mem_missing_iff "process" [.member "rlimits", .item index, .member "type"]
    (by simp +decide) rfl).trans ?_
  simp [outline, Process.outline, Rlimit.outline]

/-- The keys of a list for Linux are missing where the members of the items are. -/
theorem lacks_linux {α : Type} {list : Linux → List α} {key : α → String} {base name : String}
    (missing : ∀ index, memberPath (itemPath base index) name ∈ config.missing ↔
      ∃ linux item, config.linux = some linux ∧ (list linux)[index]? = some item ∧ key item = "") :
    Lacks config.checkMandatory base name (config.linuxKeys fun linux => (list linux).map key) := by
  intro index
  rw [reportsAt_checkMandatory, missing, linuxKeys]
  cases config.linux with
  | none => simp
  | some linux => simp

theorem lacks_namespaces :
    Lacks config.checkMandatory "linux.namespaces" "type"
      (config.linuxKeys fun linux => linux.namespaces.map (·.kind)) := by
  refine lacks_linux fun index => ?_
  refine (mem_missing_iff "linux" [.member "namespaces", .item index, .member "type"]
    (by simp +decide) rfl).trans ?_
  simp [outline, Linux.outline, Namespace.outline]

theorem lacks_devices :
    Lacks config.checkMandatory "linux.devices" "path"
      (config.linuxKeys fun linux => linux.devices.map (·.path)) := by
  refine lacks_linux fun index => ?_
  refine (mem_missing_iff "linux" [.member "devices", .item index, .member "path"]
    (by simp +decide) rfl).trans ?_
  simp [outline, Linux.outline, Device.outline]

theorem lacks_deviceKinds :
    Lacks config.checkMandatory "linux.devices" "type"
      (config.linuxKeys fun linux => linux.devices.map (·.kind)) := by
  refine lacks_linux fun index => ?_
  refine (mem_missing_iff "linux" [.member "devices", .item index, .member "type"]
    (by simp +decide) rfl).trans ?_
  simp [outline, Linux.outline, Device.outline]

end Config

namespace Bundle

variable {bundle : Bundle} {tree : FileTree} {found : List Violation}

theorem lacks_of_mandatory {base name : String} {keys : List String}
    (done : bundle.validate tree = .ok found)
    (lacks : Config.Lacks bundle.config.checkMandatory base name keys) :
    Config.Lacks found base name keys :=
  fun index => (reportsAt_mandatory done).trans (lacks index)

/-- **The validator points at every key that is not valid, repeated or missing**, and at no other.
Without a comparison with the host it reports no rule twice about the same member, the variables of
hooks aside. -/
theorem pinpointed_validate (done : bundle.validate tree = .ok found) :
    bundle.config.Pinpointed found ∧
      (bundle.host = none → found.Pairwise Violation.Apart) := by
  have process {codes : List Code} (known : ∀ code ∈ codes, code ∈ Code.process) :
      ∀ code ∈ codes, ∀ subject, ReportsAt found code subject ↔
        ReportsAt (bundle.config.process.check bundle.host) code subject :=
    fun code inside _ => reportsAt_process done (known code inside)
  have linux {codes : List Code} (known : ∀ code ∈ codes, code ∈ Code.linux) :
      ∀ code ∈ codes, ∀ subject, ReportsAt found code subject ↔
        ReportsAt bundle.config.checkLinux code subject :=
    fun code inside _ => reportsAt_linux done (known code inside)
  have namespaces := bundle.config.judges_checkLinux fun _ => Linux.judges_checkNamespaces.of_iff
    fun _ inside _ => Linux.reportsAt_check_namespaces inside
  have devices := bundle.config.judges_checkLinux fun _ => Linux.judges_checkDevices.of_iff
    fun _ inside _ => Linux.reportsAt_check_devices (List.mem_cons_of_mem _ inside)
  refine ⟨?_, once_validate done⟩
  exact {
    capabilities := Process.judges_check_capabilities.of_iff (process (by decide))
    rlimits := Process.judges_check_rlimits.of_iff (process (by decide))
    namespaces := namespaces.of_iff (linux (by decide))
    devices := devices.of_iff (linux (by decide))
    deviceKinds := Config.pinpoints_checkLinux_deviceKinds.of_iff
      (linux (by decide) _ (List.mem_singleton.mpr rfl))
    architectures := Config.judges_checkLinux_architectures.of_iff (linux (by decide))
    noRlimit := lacks_of_mandatory done Config.lacks_rlimits
    noNamespace := lacks_of_mandatory done Config.lacks_namespaces
    noDevice := lacks_of_mandatory done Config.lacks_devices
    noDeviceKind := lacks_of_mandatory done Config.lacks_deviceKinds }

/-- Of three capabilities the second one is unknown, and the third one repeats the first one. -/
theorem pinpointed_validate_capabilities :
    let process : Process :=
      { (default : Process) with capabilities := ["CAP_KILL", "KILL", "CAP_KILL"] }
    let bundle : Bundle := ⟨"/bundle", { (default : Config) with process }, none⟩
    ∃ found, bundle.validate ⟨[], []⟩ = .ok found ∧ found.Pairwise Violation.Apart ∧
      ReportsAt found .procCapInvalid (itemPath "process.capabilities" 1) ∧
      ReportsAt found .procCapDuplicate (itemPath "process.capabilities" 2) := by
  intro process bundle
  obtain ⟨found, done⟩ : ∃ found, bundle.validate ⟨[], []⟩ = .ok found := ⟨_, rfl⟩
  obtain ⟨pinpointed, once⟩ := pinpointed_validate done
  have keys := pinpointed.capabilities
  have unknown : ReportsAt found .procCapInvalid (itemPath "process.capabilities" 1) :=
    (keys.unfit.exact 1).mpr ⟨"KILL", rfl, trivial, by decide⟩
  have twice : ReportsAt found .procCapDuplicate (itemPath "process.capabilities" 2) :=
    (keys.repeated.exact 2).mpr ⟨"CAP_KILL", rfl, by decide, 0, by decide, rfl⟩
  exact ⟨found, done, once rfl, unknown, twice⟩

end Bundle

end OciBundle
