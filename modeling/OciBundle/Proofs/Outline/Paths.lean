/-
**The path of a member tells where it is.**

A walk names each member by the text of its address. No two members have the same text: names hold
neither of the marks that begin a step, and the number of an item ends at its bracket.

* `Outline.isPlain`: the names that can be told from what is around them.
* `Outline.addressPath_injective`: addresses with plain names are told by their texts.
* `Outline.Inside`, `Outline.exists_append_of_inside`: so are the addresses below an address.
* `Outline.Distinct`: members with addresses of their own, for outlines of every form.
* `Outline.nodup_paths`: a walk from any path on comes by no path twice.
* `Config.distinct_outline`, `Config.nodup_missing`: the members of a configuration.
-/

import Mathlib.Data.List.Nodup
import OciBundle.Proofs.Outline.Agreement

namespace OciBundle

open Json (Address)

namespace Outline

/-! ### Texts of addresses -/

/-- Whether a character begins a step in the text of an address. -/
def beginsStep (char : Char) : Bool :=
  char = '.' || char = '['

/-- Whether a name can be told from the steps around it. -/
def isPlain (name : String) : Bool :=
  name ≠ "" && name.toList.all fun char => !beginsStep char

/-- The text of a step behind others. -/
def stepChars : Json.Step → List Char
  | .member name => '.' :: name.toList
  | .item index => '[' :: (Nat.toDigits 10 index ++ [']'])

/-- An address whose names are plain. -/
def PlainAddress (address : Address) : Prop :=
  ∀ name, .member name ∈ address → isPlain name = true

@[simp] theorem plainAddress_nil : PlainAddress [] :=
  fun _ inside => absurd inside List.not_mem_nil

@[simp] theorem plainAddress_member {name : String} {rest : Address} :
    PlainAddress (.member name :: rest) ↔ isPlain name = true ∧ PlainAddress rest := by
  simp [PlainAddress]

@[simp] theorem plainAddress_item {index : Nat} {rest : Address} :
    PlainAddress (.item index :: rest) ↔ PlainAddress rest := by
  simp [PlainAddress]

theorem toList_memberPath {path : String} (given : path ≠ "") (name : String) :
    (memberPath path name).toList = path.toList ++ stepChars (.member name) := by
  rw [memberPath, if_neg given, String.toList_append, String.toList_append, List.append_assoc]
  rfl

theorem toList_itemPath (path : String) (index : Nat) :
    (itemPath path index).toList = path.toList ++ stepChars (.item index) := by
  have digits : (toString index).toList = Nat.toDigits 10 index := Nat.toList_repr
  rw [itemPath, String.toList_append, String.toList_append, String.toList_append, digits,
    List.append_assoc, List.append_assoc]
  rfl

theorem ne_empty_of_toList {text : String} {chars : List Char} {first : Char} {rest : List Char}
    (same : text.toList = chars ++ first :: rest) : text ≠ "" := by
  rintro rfl
  simp at same

theorem toList_addressPath {path : String} {address : Address} (given : path ≠ "") :
    (addressPath path address).toList = path.toList ++ address.flatMap stepChars := by
  induction address generalizing path with
  | nil => exact (List.append_nil _).symm
  | cons step rest hypothesis =>
    cases step with
    | member name =>
      have here := toList_memberPath given name
      rw [addressPath, hypothesis (ne_empty_of_toList here), here, List.append_assoc]
      rfl
    | item index =>
      have here := toList_itemPath path index
      rw [addressPath, hypothesis (ne_empty_of_toList here), here, List.append_assoc]
      rfl

/-- What can stand behind a step: nothing, or the beginning of a step. -/
def Behind (chars : List Char) : Prop :=
  ∀ char, chars.head? = some char → beginsStep char = true

theorem behind_nil : Behind [] :=
  nofun

theorem behind_flatMap_append {behind : List Char} (address : Address) (last : Behind behind) :
    Behind (address.flatMap stepChars ++ behind) := by
  cases address with
  | nil => exact last
  | cons step rest =>
    cases step with
    | member name | item index =>
      rintro _ ⟨⟩
      rfl

theorem behind_flatMap (address : Address) : Behind (address.flatMap stepChars) := by
  rw [← List.append_nil (address.flatMap stepChars)]
  exact behind_flatMap_append address behind_nil

/-- Two texts with something behind them are told apart where what is behind begins. -/
theorem eq_of_append_eq_append {inside : Char → Bool} {first second rest rest' : List Char}
    (all : ∀ char ∈ first, inside char = true) (all' : ∀ char ∈ second, inside char = true)
    (behind : ∀ char, rest.head? = some char → inside char = false)
    (behind' : ∀ char, rest'.head? = some char → inside char = false)
    (same : first ++ rest = second ++ rest') : first = second ∧ rest = rest' := by
  induction first generalizing second with
  | nil =>
    cases second with
    | nil => exact ⟨rfl, same⟩
    | cons char second =>
      have outside := behind char (by rw [List.nil_append] at same; rw [same]; rfl)
      rw [all' char List.mem_cons_self] at outside
      cases outside
  | cons char first hypothesis =>
    cases second with
    | nil =>
      have outside := behind' char (by rw [List.nil_append] at same; rw [← same]; rfl)
      rw [all char List.mem_cons_self] at outside
      cases outside
    | cons other second =>
      obtain ⟨rfl, later⟩ := List.cons.inj same
      obtain ⟨rfl, rest⟩ := hypothesis (fun char member => all char (List.mem_cons_of_mem _ member))
        (fun char member => all' char (List.mem_cons_of_mem _ member)) later
      exact ⟨rfl, rest⟩

/-- The step to an item is told by its text, whatever is behind it. -/
theorem item_eq_of_append_eq {index index' : Nat} {rest rest' : List Char}
    (same : stepChars (.item index) ++ rest = stepChars (.item index') ++ rest') :
    index = index' ∧ rest = rest' := by
  have digits (number : Nat) (char : Char) (member : char ∈ Nat.toDigits 10 number) :
      char.isDigit = true := Nat.isDigit_of_mem_toDigits (by decide) (by decide) member
  have closes (others : List Char) (char : Char)
      (first : (']' :: others).head? = some char) : char.isDigit = false := by
    cases first
    rfl
  have inner : Nat.toDigits 10 index ++ (']' :: rest) = Nat.toDigits 10 index' ++ (']' :: rest') := by
    simpa [stepChars] using same
  obtain ⟨figures, behind⟩ :=
    eq_of_append_eq_append (digits index) (digits index') (closes rest) (closes rest') inner
  refine ⟨?_, (List.cons.inj behind).2⟩
  rw [← Nat.ofDigitChars_ten_toDigits (n := index), figures, Nat.ofDigitChars_ten_toDigits]

/-- A plain name is told by its text, whatever steps are behind it. -/
theorem name_eq_of_append_eq {name name' : String} {rest rest' : List Char}
    (plain : isPlain name = true) (plain' : isPlain name' = true) (behind : Behind rest)
    (behind' : Behind rest') (same : name.toList ++ rest = name'.toList ++ rest') :
    name = name' ∧ rest = rest' := by
  have inside (text : String) (plain : isPlain text = true) :
      ∀ char ∈ text.toList, (!beginsStep char) = true :=
    List.all_eq_true.mp (Bool.and_eq_true_iff.mp plain).2
  have outside {chars : List Char} (behind : Behind chars) (char : Char)
      (first : chars.head? = some char) : (!beginsStep char) = false := by
    rw [behind char first]
    rfl
  obtain ⟨chars, later⟩ := eq_of_append_eq_append (inside name plain) (inside name' plain')
    (outside behind) (outside behind') same
  exact ⟨String.toList_inj.mp chars, later⟩

/-- **An address with a text that goes on behind the text of another one** goes on behind that
address. -/
theorem exists_append_of_flatMap_eq {first second : Address} {behind : List Char}
    (plain : PlainAddress first) (plain' : PlainAddress second) (last : Behind behind)
    (same : second.flatMap stepChars = first.flatMap stepChars ++ behind) :
    ∃ rest, second = first ++ rest := by
  induction first generalizing second with
  | nil => exact ⟨second, rfl⟩
  | cons step first hypothesis =>
    cases second with
    | nil => cases step <;> cases same
    | cons other second =>
      have later : PlainAddress first :=
        fun name member => plain name (List.mem_cons_of_mem _ member)
      have later' : PlainAddress second :=
        fun name member => plain' name (List.mem_cons_of_mem _ member)
      rw [List.flatMap_cons, List.flatMap_cons, List.append_assoc] at same
      cases step with
      | member name =>
        cases other with
        | member name' =>
          obtain ⟨rfl, further⟩ := name_eq_of_append_eq (plain' name' List.mem_cons_self)
            (plain name List.mem_cons_self) (behind_flatMap second)
            (behind_flatMap_append first last) (List.cons.inj same).2
          obtain ⟨rest, rfl⟩ := hypothesis later later' further
          exact ⟨rest, rfl⟩
        | item index => cases (List.cons.inj same).1
      | item index =>
        cases other with
        | member name => cases (List.cons.inj same).1
        | item index' =>
          obtain ⟨rfl, further⟩ := item_eq_of_append_eq same
          obtain ⟨rest, rfl⟩ := hypothesis later later' further
          exact ⟨rest, rfl⟩

theorem flatMap_stepChars_injective {first second : Address} (plain : PlainAddress first)
    (plain' : PlainAddress second)
    (same : first.flatMap stepChars = second.flatMap stepChars) : first = second := by
  obtain ⟨rest, rfl⟩ := exists_append_of_flatMap_eq plain plain' behind_nil
    (same.symm.trans (List.append_nil _).symm)
  rw [List.flatMap_append, List.self_eq_append_right] at same
  cases rest with
  | nil => exact (List.append_nil first).symm
  | cons step rest => cases step <;> cases same

/-- What the text of an address lacks below a path: below the empty one, the first mark. -/
def lacking (path : String) : List Char :=
  if path = "" then ['.'] else []

/-- The text of an address that begins with a plain name is, with what it lacks, the path and behind
it the texts of the steps. -/
theorem lacking_append_toList_addressPath {path name : String} {rest : Address}
    (plain : PlainAddress (.member name :: rest)) :
    lacking path ++ (addressPath path (.member name :: rest)).toList =
      path.toList ++ (Json.Step.member name :: rest).flatMap stepChars := by
  by_cases empty : path = ""
  · subst empty
    have given : name ≠ "" :=
      of_decide_eq_true (Bool.and_eq_true_iff.mp (plain name List.mem_cons_self)).1
    have chars : (addressPath "" (.member name :: rest)).toList =
        name.toList ++ rest.flatMap stepChars := toList_addressPath given
    rw [chars]
    rfl
  · rw [lacking, if_neg empty, toList_addressPath empty]
    rfl

/-- A path that is another one, or goes on behind it with a step: what is there is the member at
that path, or inside of it. -/
def Inside (path subject : String) : Prop :=
  ∃ behind, subject = path ++ behind ∧ Behind behind.toList

theorem inside_self (path : String) : Inside path path :=
  ⟨"", by rw [String.append_empty], behind_nil⟩

theorem inside_append {path behind : String} (begins : Behind behind.toList) :
    Inside path (path ++ behind) :=
  ⟨behind, rfl, begins⟩

section Texts

variable {path name name' : String} {rest rest' : Address}

/-- **An address is told by its text** below any path, if it begins with a member and all its names
are plain. -/
theorem addressPath_injective
    (plain : PlainAddress (.member name :: rest)) (plain' : PlainAddress (.member name' :: rest'))
    (same : addressPath path (.member name :: rest) = addressPath path (.member name' :: rest')) :
    Json.Step.member name :: rest = .member name' :: rest' := by
  have texts : path.toList ++ (Json.Step.member name :: rest).flatMap stepChars =
      path.toList ++ (Json.Step.member name' :: rest').flatMap stepChars := by
    rw [← lacking_append_toList_addressPath plain, ← lacking_append_toList_addressPath plain', same]
  exact flatMap_stepChars_injective plain plain' (List.append_cancel_left texts)

/-- What is inside of the member at an address has an address that goes on behind it. -/
theorem exists_append_of_inside
    (plain : PlainAddress (.member name :: rest)) (plain' : PlainAddress (.member name' :: rest'))
    (inside : Inside (addressPath path (.member name :: rest))
      (addressPath path (.member name' :: rest'))) :
    ∃ below, Json.Step.member name' :: rest' = .member name :: (rest ++ below) := by
  obtain ⟨behind, same, begins⟩ := inside
  have texts : path.toList ++ (Json.Step.member name' :: rest').flatMap stepChars =
      path.toList ++ ((Json.Step.member name :: rest).flatMap stepChars ++ behind.toList) := by
    rw [← List.append_assoc, ← lacking_append_toList_addressPath plain,
      ← lacking_append_toList_addressPath plain', same, String.toList_append, List.append_assoc]
  exact exists_append_of_flatMap_eq plain plain' begins (List.append_cancel_left texts)

theorem inside_addressPath {below : Address} (plain : PlainAddress (.member name :: rest))
    (plain' : PlainAddress (.member name :: (rest ++ below))) :
    Inside (addressPath path (.member name :: rest))
      (addressPath path (.member name :: (rest ++ below))) := by
  have chars : lacking path ++ (addressPath path (.member name :: (rest ++ below))).toList =
      lacking path ++ (addressPath path (.member name :: rest) ++
        String.ofList (below.flatMap stepChars)).toList := by
    rw [lacking_append_toList_addressPath plain', String.toList_append, ← List.append_assoc,
      lacking_append_toList_addressPath plain, ← List.cons_append, List.flatMap_append,
      String.toList_ofList, List.append_assoc]
  refine ⟨_, String.toList_inj.mp (List.append_cancel_left chars), ?_⟩
  rw [String.toList_ofList]
  exact behind_flatMap below

end Texts

/-! ### Members with addresses of their own -/

/-- No two members have the same address, and all names are plain. -/
structure Distinct (outline : Outline) : Prop where
  below : ∀ member ∈ outline.members, member.address ≠ []
  plain : ∀ member ∈ outline.members, PlainAddress member.address
  nodup : (outline.members.map Member.address).Nodup

variable {α : Type}

theorem distinct_of_members_eq_nil {outline : Outline} (none : outline.members = []) :
    outline.Distinct where
  below member inside := absurd (none ▸ inside) List.not_mem_nil
  plain member inside := absurd (none ▸ inside) List.not_mem_nil
  nodup := by
    rw [none]
    exact .nil

@[simp] theorem distinct_scalar : Outline.scalar.Distinct := distinct_of_members_eq_nil rfl

@[simp] theorem distinct_text {value : String} : (Outline.text value).Distinct :=
  distinct_of_members_eq_nil rfl

@[simp] theorem distinct_ofValues (items : List α) : (ofValues items).Distinct :=
  distinct_of_members_eq_nil rfl

@[simp] theorem distinct_ofDict (dict : Dict String) : (ofDict dict).Distinct :=
  distinct_of_members_eq_nil rfl

@[simp] theorem distinct_ofOption {outline : α → Outline} {part : Option α}
    (each : ∀ value, (outline value).Distinct) : (ofOption outline part).Distinct := by
  cases part with
  | none => exact distinct_of_members_eq_nil rfl
  | some value => exact ⟨(each value).below, (each value).plain, (each value).nodup⟩

section Under

variable {found : List Member} {step : Json.Step}

theorem map_address_under :
    (found.map (Member.under step)).map Member.address =
      (found.map Member.address).map (step :: ·) := by
  rw [List.map_map, List.map_map]
  rfl

theorem plain_under (here : ∀ name, step = .member name → isPlain name = true)
    (plain : ∀ member ∈ found, PlainAddress member.address) :
    ∀ member ∈ found.map (Member.under step), PlainAddress member.address := by
  intro member inside name named
  obtain ⟨old, before, rfl⟩ := List.mem_map.mp inside
  rcases List.mem_cons.mp named with same | later
  · exact here name same.symm
  · exact plain old before name later

end Under

theorem map_address_fieldMembers_cons {name : String} {presence : Presence} {value : Outline}
    {fields : List (String × Presence × Outline)} :
    (fieldMembers ((name, presence, value) :: fields)).map Member.address =
      ([] :: value.members.map Member.address).map (.member name :: ·) ++
        (fieldMembers fields).map Member.address := by
  rw [fieldMembers, List.map_cons, List.map_append, map_address_under]
  rfl

theorem map_address_itemMembers_cons {start : Nat} {item : Outline} {items : List Outline} :
    (itemMembers start (item :: items)).map Member.address =
      (item.members.map Member.address).map (.item start :: ·) ++
        (itemMembers (start + 1) items).map Member.address := by
  rw [itemMembers, List.map_append, map_address_under]

/-- The items of a list, from an index on. -/
theorem distinct_itemMembers {items : List Outline} (each : ∀ item ∈ items, item.Distinct)
    (start : Nat) : (∀ member ∈ itemMembers start items, PlainAddress member.address) ∧
      ((itemMembers start items).map Member.address).Nodup := by
  induction items generalizing start with
  | nil => exact ⟨fun _ member => absurd member List.not_mem_nil, .nil⟩
  | cons item items hypothesis =>
    have here := each item List.mem_cons_self
    obtain ⟨plain, nodup⟩ :=
      hypothesis (fun item member => each item (List.mem_cons_of_mem _ member)) (start + 1)
    constructor
    · rw [itemMembers]
      exact List.forall_mem_append.mpr ⟨plain_under nofun here.plain, plain⟩
    · rw [map_address_itemMembers_cons]
      refine (here.nodup.map List.cons_injective).append nodup fun address inside later => ?_
      -- The addresses of later items begin with a later index.
      obtain ⟨rest, _, rfl⟩ := List.mem_map.mp inside
      obtain ⟨member, found, same⟩ := List.mem_map.mp later
      obtain ⟨index, rest', after, address⟩ := start_itemMembers _ _ member found
      rw [address] at same
      have equal : index = start := Json.Step.item.inj (List.cons.inj same).1
      omega

@[simp] theorem distinct_ofParts {outline : α → Outline} {items : List α}
    (each : ∀ item, (outline item).Distinct) : (ofParts outline items).Distinct := by
  have all : ∀ item ∈ items.map outline, item.Distinct := by
    intro item inside
    obtain ⟨part, _, rfl⟩ := List.mem_map.mp inside
    exact each part
  obtain ⟨plain, nodup⟩ := distinct_itemMembers all 0
  refine ⟨fun member inside => ?_, plain, nodup⟩
  obtain ⟨_, _, _, address⟩ := start_itemMembers _ _ member inside
  rw [address]
  exact List.cons_ne_nil _ _

/-- The members of a record, one after the other. -/
theorem distinct_fieldMembers {fields : List (String × Presence × Outline)}
    (each : ∀ field ∈ fields, field.2.2.Distinct)
    (plain : (fields.map Prod.fst).all isPlain = true) (nodup : (fields.map Prod.fst).Nodup) :
    (∀ member ∈ fieldMembers fields, PlainAddress member.address) ∧
      ((fieldMembers fields).map Member.address).Nodup := by
  induction fields with
  | nil => exact ⟨fun _ member => absurd member List.not_mem_nil, .nil⟩
  | cons field fields hypothesis =>
    obtain ⟨name, presence, value⟩ := field
    obtain ⟨named, names⟩ := Bool.and_eq_true_iff.mp plain
    obtain ⟨fresh, others⟩ := List.nodup_cons.mp nodup
    obtain ⟨later, different⟩ :=
      hypothesis (fun field member => each field (List.mem_cons_of_mem _ member)) names others
    have here : value.Distinct := each _ List.mem_cons_self
    have called (text : String) (same : Json.Step.member name = .member text) :
        isPlain text = true := Json.Step.member.inj same ▸ named
    -- The addresses of the other members begin with other names.
    have apart (address : Address) (inside : address ∈ (fieldMembers fields).map Member.address) :
        ∀ rest, address ≠ .member name :: rest := by
      rintro rest rfl
      obtain ⟨member, found, same⟩ := List.mem_map.mp inside
      obtain ⟨name', known, rest', address⟩ := start_fieldMembers fields member found
      rw [address] at same
      have equal : name' = name := Json.Step.member.inj (List.cons.inj same).1
      exact fresh (equal ▸ known)
    constructor
    · rw [fieldMembers]
      refine List.forall_mem_cons.mpr ⟨fun text inside => ?_, List.forall_mem_append.mpr ⟨?_, later⟩⟩
      · exact called text (List.mem_singleton.mp inside).symm
      · exact plain_under called here.plain
    · have strictly : [] ∉ value.members.map Member.address := by
        intro inside
        obtain ⟨member, found, empty⟩ := List.mem_map.mp inside
        exact here.below member found empty
      rw [map_address_fieldMembers_cons]
      refine ((List.nodup_cons.mpr ⟨strictly, here.nodup⟩).map List.cons_injective).append different
        fun address inside other => ?_
      obtain ⟨rest, _, rfl⟩ := List.mem_map.mp inside
      exact apart _ other rest rfl

theorem distinct_record {fields : List (String × Presence × Outline)}
    (each : ∀ field ∈ fields, field.2.2.Distinct)
    (names : (fields.map Prod.fst).all isPlain = true ∧ (fields.map Prod.fst).Nodup) :
    (Outline.record fields).Distinct := by
  obtain ⟨plain, nodup⟩ := distinct_fieldMembers each names.1 names.2
  refine ⟨fun member inside => ?_, plain, nodup⟩
  obtain ⟨_, _, _, address⟩ := start_fieldMembers fields member inside
  rw [address]
  exact List.cons_ne_nil _ _

end Outline

/-! ### The records of a configuration -/

open Outline (distinct_record needs allows)

@[simp] theorem ConsoleSize.distinct_outline (size : ConsoleSize) : size.outline.Distinct :=
  distinct_record (by simp [needs]) (by decide)

@[simp] theorem User.distinct_outline (user : User) : user.outline.Distinct :=
  distinct_record (by simp [needs, allows]) (by simp +decide [needs, allows])

@[simp] theorem Rlimit.distinct_outline (limit : Rlimit) : limit.outline.Distinct :=
  distinct_record (by simp [needs]) (by simp +decide [needs])

@[simp] theorem Process.distinct_outline (process : Process) : process.outline.Distinct :=
  distinct_record (by simp [needs, allows]) (by simp +decide [needs, allows])

@[simp] theorem Root.distinct_outline (root : Root) : root.outline.Distinct :=
  distinct_record (by simp [needs, allows]) (by simp +decide [needs, allows])

@[simp] theorem Mount.distinct_outline (mount : Mount) : mount.outline.Distinct :=
  distinct_record (by simp [needs, allows]) (by simp +decide [needs, allows])

@[simp] theorem Hook.distinct_outline (hook : Hook) : hook.outline.Distinct :=
  distinct_record (by simp [needs, allows]) (by simp +decide [needs, allows])

@[simp] theorem Hooks.distinct_outline (hooks : Hooks) : hooks.outline.Distinct :=
  distinct_record (by simp [allows]) (by simp +decide [allows])

@[simp] theorem DeviceRule.distinct_outline (rule : DeviceRule) : rule.outline.Distinct :=
  distinct_record (by simp [needs, allows]) (by simp +decide [needs, allows])

@[simp] theorem Memory.distinct_outline (memory : Memory) : memory.outline.Distinct :=
  distinct_record (by simp [allows]) (by decide)

@[simp] theorem Cpu.distinct_outline (cpu : Cpu) : cpu.outline.Distinct :=
  distinct_record (by simp [allows]) (by simp +decide [allows])

@[simp] theorem Pids.distinct_outline (pids : Pids) : pids.outline.Distinct :=
  distinct_record (by simp [needs]) (by decide)

@[simp] theorem BlockIo.distinct_outline (limits : BlockIo) : limits.outline.Distinct :=
  distinct_record (by simp [allows]) (by simp +decide [allows])

@[simp] theorem HugepageLimit.distinct_outline (limit : HugepageLimit) : limit.outline.Distinct :=
  distinct_record (by simp [needs]) (by simp +decide [needs])

@[simp] theorem InterfacePriority.distinct_outline (entry : InterfacePriority) : entry.outline.Distinct :=
  distinct_record (by simp [needs]) (by simp +decide [needs])

@[simp] theorem Network.distinct_outline (network : Network) : network.outline.Distinct :=
  distinct_record (by simp [allows]) (by simp +decide [allows])

@[simp] theorem Resources.distinct_outline (limits : Resources) : limits.outline.Distinct :=
  distinct_record (by simp [allows]) (by simp +decide [allows])

@[simp] theorem ArgCondition.distinct_outline (condition : ArgCondition) : condition.outline.Distinct :=
  distinct_record (by simp [needs, allows]) (by simp +decide [needs, allows])

@[simp] theorem SyscallRule.distinct_outline (rule : SyscallRule) : rule.outline.Distinct :=
  distinct_record (by simp [needs, allows]) (by simp +decide [needs, allows])

@[simp] theorem Seccomp.distinct_outline (seccomp : Seccomp) : seccomp.outline.Distinct :=
  distinct_record (by simp [needs, allows]) (by simp +decide [needs, allows])

@[simp] theorem IdMapping.distinct_outline (mapping : IdMapping) : mapping.outline.Distinct :=
  distinct_record (by simp [needs]) (by decide)

@[simp] theorem Namespace.distinct_outline (entry : Namespace) : entry.outline.Distinct :=
  distinct_record (by simp [needs, allows]) (by simp +decide [needs, allows])

@[simp] theorem Device.distinct_outline (device : Device) : device.outline.Distinct :=
  distinct_record (by simp [needs, allows]) (by simp +decide [needs, allows])

@[simp] theorem Linux.distinct_outline (linux : Linux) : linux.outline.Distinct :=
  distinct_record (by simp [allows]) (by simp +decide [allows])

@[simp] theorem Platform.distinct_outline (platform : Platform) : platform.outline.Distinct :=
  distinct_record (by simp [needs]) (by simp +decide [needs])

@[simp] theorem Config.distinct_outline (config : Config) : config.outline.Distinct :=
  distinct_record (by simp [needs, allows]) (by simp +decide [needs, allows])

/-! ### Paths of members -/

namespace Outline

variable {fields : List (String × Presence × Outline)}

/-- Members of a record have different paths when they have different addresses. -/
theorem path_injective (distinct : (Outline.record fields).Distinct) {path : String}
    {member other : Member} (inside : member ∈ (Outline.record fields).members)
    (inside' : other ∈ (Outline.record fields).members)
    (same : addressPath path member.address = addressPath path other.address) :
    member.address = other.address := by
  obtain ⟨name, _, rest, address⟩ := start_fieldMembers fields member inside
  obtain ⟨name', _, rest', address'⟩ := start_fieldMembers fields other inside'
  have plain := distinct.plain member inside
  have plain' := distinct.plain other inside'
  rw [address] at plain same ⊢
  rw [address'] at plain' same ⊢
  exact addressPath_injective plain plain' same

/-- **A walk over a record names each member by a path of its own**, whatever path it begins with. -/
theorem nodup_paths (distinct : (Outline.record fields).Distinct) (path : String) :
    ((walk path (Outline.record fields)).map Visit.path).Nodup := by
  rw [map_path_walk, List.map_map]
  have addresses := List.inj_on_of_nodup_map distinct.nodup
  refine (List.Nodup.of_map _ distinct.nodup).map_on ?_
  intro member inside other inside' same
  exact addresses inside inside' (path_injective distinct inside inside' same)

/-- The mandatory members that are empty have paths of their own. -/
theorem nodup_missing (distinct : (Outline.record fields).Distinct) :
    (Outline.record fields).missing.Nodup :=
  (nodup_paths distinct "").sublist (List.filter_sublist.map _)

end Outline

namespace Config

variable {config : Config}

/-- **No member is missing twice.** -/
theorem nodup_missing : config.missing.Nodup :=
  Outline.nodup_missing config.distinct_outline

end Config

end OciBundle
