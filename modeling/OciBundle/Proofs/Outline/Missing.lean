/-
**Which members are missing, by their addresses.**

The paths of the mandatory members that are empty are texts. As every address has a text of its own,
whether a path is among them is a question about the member at one address, and each form of outline
answers it for the addresses that begin there.

* `Outline.MissesAt`: the member at an address is mandatory and empty.
* `Outline.addressPath_mem_missing`: a path is missing where its member is.
* `Outline.exists_inside_mem_missing_iff`: something inside of a member is missing.
* `Outline.missesAt_record_cons`, `Outline.missesAt_ofParts`, …: one step down.
-/

import OciBundle.Proofs.Outline.Paths

namespace OciBundle.Outline

open Json (Address)

variable {address : Address} {name wanted : String} {presence : Presence} {value : Outline}
  {fields rest : List (String × Presence × Outline)} {α : Type}

/-- The member with an address is mandatory and empty. -/
def Misses (found : List Member) (address : Address) : Prop :=
  ∃ member ∈ found, member.address = address ∧ member.presence = .required ∧
    member.shape.isEmpty = true

/-- The member at an address is mandatory and empty. -/
def MissesAt (outline : Outline) (address : Address) : Prop :=
  Misses outline.members address

/-- A missing path is the text of an address with plain names whose member is missing. -/
theorem exists_missesAt_of_mem_missing {path : String} (distinct : (Outline.record fields).Distinct)
    (inside : path ∈ (Outline.record fields).missing) :
    ∃ name rest, PlainAddress (.member name :: rest) ∧
      addressPath "" (.member name :: rest) = path ∧
      (Outline.record fields).MissesAt (.member name :: rest) := by
  rw [missing, walk_eq_map_members, List.filter_map, List.map_map] at inside
  obtain ⟨member, found, same⟩ := List.mem_map.mp inside
  obtain ⟨known, empty⟩ := List.mem_filter.mp found
  obtain ⟨required, blank⟩ := Bool.and_eq_true_iff.mp empty
  obtain ⟨name, _, rest, address⟩ := start_fieldMembers fields member known
  exact ⟨name, rest, address ▸ distinct.plain member known, address ▸ same, member, known, address,
    of_decide_eq_true required, blank⟩

/-- **A path is missing** when the member at its address is. -/
theorem addressPath_mem_missing (distinct : (Outline.record fields).Distinct)
    (plain : PlainAddress (.member name :: address)) :
    addressPath "" (.member name :: address) ∈ (Outline.record fields).missing ↔
      (Outline.record fields).MissesAt (.member name :: address) := by
  constructor
  · intro inside
    obtain ⟨_, _, plain', same, misses⟩ := exists_missesAt_of_mem_missing distinct inside
    rwa [addressPath_injective plain' plain same] at misses
  · rintro ⟨member, known, here, required, blank⟩
    rw [missing, walk_eq_map_members, List.filter_map, List.map_map]
    refine List.mem_map.mpr ⟨member, List.mem_filter.mpr ⟨known, ?_⟩, congrArg _ here⟩
    exact Bool.and_eq_true_iff.mpr ⟨decide_eq_true required, blank⟩

/-- **Something inside of the member at an address is missing** when a member at an address that
goes on behind it is. -/
theorem exists_inside_mem_missing_iff (distinct : (Outline.record fields).Distinct)
    (plain : PlainAddress (.member name :: address)) :
    (∃ path ∈ (Outline.record fields).missing,
        Inside (addressPath "" (.member name :: address)) path) ↔
      ∃ below, (Outline.record fields).MissesAt (.member name :: (address ++ below)) := by
  constructor
  · rintro ⟨path, found, inside⟩
    obtain ⟨_, _, plain', rfl, misses⟩ := exists_missesAt_of_mem_missing distinct found
    obtain ⟨below, same⟩ := exists_append_of_inside plain plain' inside
    exact ⟨below, same ▸ misses⟩
  · rintro ⟨below, misses⟩
    have plain' : PlainAddress (.member name :: (address ++ below)) := by
      obtain ⟨member, known, here, _⟩ := misses
      exact here ▸ distinct.plain member known
    exact ⟨_, (addressPath_mem_missing distinct plain').mpr misses, inside_addressPath plain plain'⟩

/-! ### Lists of members -/

section Lists

variable {found later : List Member} {step : Json.Step}

@[simp] theorem misses_singleton {shape : Shape} {here : Address} :
    Misses [⟨here, presence, shape⟩] address ↔
      here = address ∧ presence = .required ∧ shape.isEmpty = true := by
  simp only [Misses, List.mem_singleton, exists_eq_left]

@[simp] theorem misses_append :
    Misses (found ++ later) address ↔ Misses found address ∨ Misses later address := by
  simp only [Misses, List.mem_append, or_and_right, exists_or]

/-- Below a step, members are missed one step further down. -/
@[simp] theorem misses_under {wanted : Json.Step} :
    Misses (found.map (Member.under step)) (wanted :: address) ↔
      step = wanted ∧ Misses found address := by
  constructor
  · rintro ⟨_, inside, same, missed⟩
    obtain ⟨member, known, rfl⟩ := List.mem_map.mp inside
    obtain ⟨here, below⟩ := List.cons.inj same
    exact ⟨here, member, known, below, missed⟩
  · rintro ⟨rfl, member, known, rfl, missed⟩
    exact ⟨member.under step, List.mem_map_of_mem known, rfl, missed⟩

theorem misses_itemMembers {items : List Outline} {start index : Nat} :
    Misses (itemMembers start items) (.item index :: address) ↔
      start ≤ index ∧ ∃ item, items[index - start]? = some item ∧ item.MissesAt address := by
  induction items generalizing start with
  | nil => simp [itemMembers, Misses]
  | cons item items hypothesis =>
    rw [itemMembers, misses_append, misses_under, hypothesis, Json.Step.item.injEq]
    rcases Nat.lt_trichotomy index start with before | rfl | after
    · have fresh : start ≠ index := by omega
      have behind : ¬ start ≤ index := by omega
      have later : ¬ start + 1 ≤ index := by omega
      simp [fresh, behind, later]
    · simp [MissesAt, show ¬ index + 1 ≤ index by omega]
    · have other : start ≠ index := by omega
      have far : index - start = (index - (start + 1)) + 1 := by omega
      simp [other, far, Nat.le_of_lt after, Nat.succ_le_of_lt after]

end Lists

/-! ### One step down -/

@[simp] theorem not_missesAt_scalar : ¬ Outline.scalar.MissesAt address :=
  fun ⟨_, inside, _⟩ => absurd inside List.not_mem_nil

@[simp] theorem not_missesAt_text {text : String} : ¬ (Outline.text text).MissesAt address :=
  fun ⟨_, inside, _⟩ => absurd inside List.not_mem_nil

@[simp] theorem not_missesAt_ofValues {items : List α} :
    ¬ (ofValues items).MissesAt address :=
  fun ⟨_, inside, _⟩ => absurd inside List.not_mem_nil

@[simp] theorem text_isEmpty {text : String} :
    (Outline.text text).shape.isEmpty = true ↔ text = "" :=
  decide_eq_true_iff

@[simp] theorem missesAt_ofOption {outline : α → Outline} {part : Option α} :
    (ofOption outline part).MissesAt address ↔
      ∃ value, part = some value ∧ (outline value).MissesAt address := by
  cases part with
  | none => exact ⟨fun ⟨_, inside, _⟩ => absurd inside List.not_mem_nil, nofun⟩
  | some value => exact ⟨fun misses => ⟨value, rfl, misses⟩, fun ⟨_, same, misses⟩ =>
      Option.some.inj same ▸ misses⟩

@[simp] theorem missesAt_ofParts {outline : α → Outline} {items : List α} {index : Nat} :
    (ofParts outline items).MissesAt (.item index :: address) ↔
      ∃ item, items[index]? = some item ∧ (outline item).MissesAt address := by
  show Misses (itemMembers 0 (items.map outline)) _ ↔ _
  rw [misses_itemMembers, Nat.sub_zero, List.getElem?_map]
  simp

@[simp] theorem not_missesAt_record_nil : ¬ (Outline.record []).MissesAt address :=
  fun ⟨_, inside, _⟩ => absurd inside List.not_mem_nil

theorem missesAt_record_cons :
    (Outline.record ((name, presence, value) :: rest)).MissesAt (.member wanted :: address) ↔
      name = wanted ∧ (address = [] ∧ presence = .required ∧ value.shape.isEmpty = true ∨
          value.MissesAt address) ∨
        (Outline.record rest).MissesAt (.member wanted :: address) := by
  show Misses ([(⟨[], presence, value.shape⟩ : Member)].map (Member.under (.member name)) ++
    (value.members.map (Member.under (.member name)) ++ fieldMembers rest)) _ ↔ _
  rw [misses_append, misses_append, misses_under, misses_under, Json.Step.member.injEq, ← or_assoc,
    ← and_or_left, misses_singleton, eq_comm (a := [])]
  rfl

@[simp] theorem missesAt_record_needs :
    (Outline.record (needs name value :: rest)).MissesAt (.member wanted :: address) ↔
      name = wanted ∧ (address = [] ∧ value.shape.isEmpty = true ∨ value.MissesAt address) ∨
        (Outline.record rest).MissesAt (.member wanted :: address) := by
  rw [needs, missesAt_record_cons, eq_self_iff_true, true_and]

@[simp] theorem missesAt_record_allows :
    (Outline.record (allows name value :: rest)).MissesAt (.member wanted :: address) ↔
      name = wanted ∧ value.MissesAt address ∨
        (Outline.record rest).MissesAt (.member wanted :: address) := by
  rw [allows, missesAt_record_cons]
  simp

end OciBundle.Outline
