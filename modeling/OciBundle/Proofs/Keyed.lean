/-
**What a change of a keyed list does to its items and its keys.**

* `mem_change`, `mem_put`, `mem_addNew`: the items of a changed list are old ones or the new one.
* `mem_map_put`, `not_mem_map_filter`: their keys.
* `KeysKept`: no key is new, or a single one, at the end.
* `Distinct`: among keys that count, a later one differs from all earlier ones.
* `distinct_of_keysKept`: keys stay distinct.
* `Refits`: every item is an old or a good one, and the keys are kept.
-/

import OciBundle.Keyed

namespace OciBundle.Keyed

variable {α : Type}

/-! ### Items -/

theorem mem_change {test : α → Bool} {update : α → α} {fresh item : α} {items : List α}
    (member : item ∈ change test update fresh items) :
    item ∈ items ∨ item = fresh ∨ ∃ old ∈ items, test old ∧ item = update old := by
  induction items with
  | nil => exact .inr (.inl (List.mem_singleton.mp member))
  | cons head rest hypothesis =>
    rw [change] at member
    split at member
    next fits =>
      rcases List.mem_cons.mp member with rfl | later
      · exact .inr (.inr ⟨head, List.mem_cons_self, fits, rfl⟩)
      · exact .inl (List.mem_cons_of_mem _ later)
    next =>
      rcases List.mem_cons.mp member with rfl | later
      · exact .inl List.mem_cons_self
      · rcases hypothesis later with old | new | ⟨old, inside, fits, equal⟩
        · exact .inl (List.mem_cons_of_mem _ old)
        · exact .inr (.inl new)
        · exact .inr (.inr ⟨old, List.mem_cons_of_mem _ inside, fits, equal⟩)

theorem mem_put {test : α → Bool} {item other : α} {items : List α}
    (member : other ∈ put test item items) : other ∈ items ∨ other = item := by
  rcases mem_change member with old | new | ⟨_, _, _, new⟩
  · exact .inl old
  · exact .inr new
  · exact .inr new

/-- A key after an item is put is an old one or the one of the item. -/
theorem mem_map_put {κ : Type} {test : α → Bool} {key : α → κ} {item : α} {items : List α}
    {wanted : κ} (member : wanted ∈ (put test item items).map key) :
    wanted ∈ items.map key ∨ key item = wanted := by
  obtain ⟨other, inside, same⟩ := List.mem_map.mp member
  rcases mem_put inside with old | rfl
  · exact .inl (List.mem_map.mpr ⟨other, old, same⟩)
  · exact .inr same

/-- A removal from a list leaves no item with the key. -/
theorem not_mem_map_filter {κ : Type} [DecidableEq κ] {key : α → κ} {removed : κ}
    {items : List α} : removed ∉ (items.filter fun item => key item ≠ removed).map key := by
  intro member
  obtain ⟨item, inside, same⟩ := List.mem_map.mp member
  exact of_decide_eq_true (List.mem_filter.mp inside).2 same

/-- What holds of all items and of the one that is put. -/
theorem forall_mem_put {holds : α → Prop} {test : α → Bool} {item : α} {items : List α}
    (each : ∀ old ∈ items, holds old) (new : holds item) :
    ∀ other ∈ put test item items, holds other := by
  intro other member
  rcases mem_put member with old | rfl
  · exact each other old
  · exact new

theorem mem_addNew [BEq α] {item other : α} {items : List α}
    (member : other ∈ addNew item items) : other ∈ items ∨ other = item := by
  rw [addNew] at member
  split at member
  · exact .inl member
  · rcases List.mem_append.mp member with old | new
    · exact .inl old
    · exact .inr (List.mem_singleton.mp new)

/-! ### Keys -/

/-- Keys after a change: some of the old ones in their order, or all of them and a new one. -/
inductive KeysKept (before : List String) : List String → Prop
  | fewer {after : List String} (sublist : after.Sublist before) : KeysKept before after
  | more {key : String} (new : key ∉ before) : KeysKept before (before ++ [key])

/-- Among keys that count, a later one differs from all earlier ones. -/
def Distinct (counts : String → Prop) (keys : List String) : Prop :=
  keys.Pairwise fun first second => counts second → first ≠ second

/-- **Keys stay distinct** when no key is new but a single one at the end. -/
theorem distinct_of_keysKept {counts : String → Prop} {before after : List String}
    (kept : KeysKept before after) (distinct : Distinct counts before) :
    Distinct counts after := by
  cases kept with
  | fewer sublist => exact distinct.sublist sublist
  | more new =>
    refine List.pairwise_append.mpr ⟨distinct, List.pairwise_singleton _ _, ?_⟩
    intro first inside second last _ equal
    rw [List.mem_singleton.mp last] at equal
    exact new (equal ▸ inside)

/-- Keys are distinct exactly when no item that counts has the key of an earlier one. -/
theorem distinct_iff {counts : String → Prop} {key : α → String} {items : List α} :
    Distinct counts (items.map key) ↔ ∀ index item, items[index]? = some item →
      counts (key item) → key item ∉ (items.take index).map key := by
  rw [Distinct, List.pairwise_map, List.pairwise_iff_getElem]
  constructor
  · intro distinct index item here counted member
    obtain ⟨inside, rfl⟩ := List.getElem?_eq_some_iff.mp here
    obtain ⟨other, taken, same⟩ := List.mem_map.mp member
    obtain ⟨place, early, rfl⟩ := List.mem_take_iff_getElem.mp taken
    exact distinct place index (by omega) inside (by omega) counted same
  · intro distinct place index placeInside inside early counted same
    refine distinct index items[index] (List.getElem?_eq_getElem inside) counted ?_
    rw [← same]
    exact List.mem_map_of_mem (List.mem_take_iff_getElem.mpr ⟨place, by omega, rfl⟩)

/-- Some item has a wanted key. -/
theorem any_eq_iff_mem_map {key : α → String} {wanted : String} {items : List α} :
    items.any (fun item => key item = wanted) = true ↔ wanted ∈ items.map key := by
  rw [List.any_eq_true, List.mem_map]
  simp only [decide_eq_true_eq]

theorem map_put {κ : Type} [DecidableEq κ] {test : α → Bool} {key : α → κ} {item : α}
    (decides : ∀ other, test other = true ↔ key other = key item) (items : List α) :
    (put test item items).map key =
      if key item ∈ items.map key then items.map key else items.map key ++ [key item] := by
  induction items with
  | nil => rfl
  | cons head rest hypothesis =>
    rw [put, change]
    by_cases fits : test head = true
    · have same : key head = key item := (decides head).mp fits
      rw [if_pos fits, List.map_cons, List.map_cons, same, if_pos List.mem_cons_self]
    · have different : key item ≠ key head := fun same => fits ((decides head).mpr same.symm)
      rw [put] at hypothesis
      rw [if_neg fits, List.map_cons, hypothesis, List.map_cons]
      by_cases known : key item ∈ rest.map key
      · rw [if_pos known, if_pos (List.mem_cons_of_mem _ known)]
      · rw [if_neg known, if_neg (List.not_mem_cons_of_ne_of_not_mem different known),
          List.cons_append]

theorem keysKept_put {test : α → Bool} {key : α → String} {item : α}
    (decides : ∀ other, test other = true ↔ key other = key item) (items : List α) :
    KeysKept (items.map key) ((put test item items).map key) := by
  rw [map_put decides]
  split
  next => exact .fewer (List.Sublist.refl _)
  next fresh => exact .more fresh

theorem keysKept_addNew (key : String) (keys : List String) : KeysKept keys (addNew key keys) := by
  rw [addNew]
  split
  next => exact .fewer (List.Sublist.refl _)
  next fresh => exact .more fun member => fresh (List.contains_iff_mem.mpr member)

/-! ### Both -/

/-- **A list refits** another one: every item is an old or a good one, and the keys are kept. -/
structure Refits (key : α → String) (good : α → Prop) (before after : List α) : Prop where
  items : ∀ item ∈ after, item ∈ before ∨ good item
  keys : KeysKept (before.map key) (after.map key)

variable {key : α → String} {good : α → Prop}

theorem refits_of_sublist {before after : List α} (sublist : after.Sublist before) :
    Refits key good before after where
  items _ member := .inl (sublist.subset member)
  keys := .fewer (sublist.map key)

theorem refits_put {test : α → Bool} (item : α)
    (decides : ∀ other, test other = true ↔ key other = key item) (fits : good item)
    (items : List α) : Refits key good items (put test item items) where
  items other member := by
    rcases mem_put member with old | rfl
    · exact .inl old
    · exact .inr fits
  keys := keysKept_put decides items

theorem refits_addNew {good : String → Prop} {word : String} (fits : good word)
    (words : List String) : Refits id good words (addNew word words) where
  items other member := by
    rcases mem_addNew member with old | rfl
    · exact .inl old
    · exact .inr fits
  keys := by
    rw [List.map_id, List.map_id]
    exact keysKept_addNew word words

end OciBundle.Keyed
