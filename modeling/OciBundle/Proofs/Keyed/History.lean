/-
**Histories of keyed lists.**

A log has the changes of a keyed list, the newest one first. It says which items there are: those
that were put and whose keys nothing has touched since. It says their order as well: that in which
their keys came in, each at the first put since its last removal.

* `Change`: an item is put, the item of a key is removed, or all items are removed.
* `IsLatest`, `IsBirth`: the items that a log says, and the times at which their keys came in.
* `Reflects`: a list has the items that a log says, in their order.
* `put_of_mem`, `put_of_not_mem`: what putting an item does to a list.
* `Reflects.apply`: one change.
* `reflects_reverse_map_put`: a list reflects the log of putting its items one after the other.
* `mem_apply`: the items of a list after one change.
-/

import Mathlib.Data.List.Induction
import OciBundle.Proofs.Keyed

namespace OciBundle.Keyed

variable {κ α : Type}

/-- A change of a keyed list. -/
inductive Change (κ α : Type) where
  | put (item : α)
  | remove (key : κ)
  | clear

namespace Change

/-- The list after a change. -/
def apply [DecidableEq κ] (key : α → κ) (items : List α) : Change κ α → List α
  | .put item => Keyed.put (fun other => key other = key item) item items
  | .remove removed => items.filter fun item => key item ≠ removed
  | .clear => []

/-- Whether a change removes the item of a key. -/
def Removes (wanted : κ) : Change κ α → Prop
  | .put _ => False
  | .remove removed => removed = wanted
  | .clear => True

/-- Whether a change puts or removes the item of a key. -/
def Touches (key : α → κ) (wanted : κ) : Change κ α → Prop
  | .put item => key item = wanted
  | .remove removed => removed = wanted
  | .clear => True

end Change

/-- The item was put, and no newer change touches its key. -/
def IsLatest (key : α → κ) (log : List (Change κ α)) (item : α) : Prop :=
  ∃ newer older, log = newer ++ .put item :: older ∧
    ∀ change ∈ newer, ¬ change.Touches key (key item)

/-- The key came in at a time: it was put when there was no item with this key, and no newer change
removes it. -/
def IsBirth (key : α → κ) (log : List (Change κ α)) (born : κ) (time : Nat) : Prop :=
  ∃ newer item older, log = newer ++ .put item :: older ∧ key item = born ∧
    older.length = time ∧ (∀ change ∈ newer, ¬ change.Removes born) ∧
      ∀ held, IsLatest key older held → key held ≠ born

/-- **A list reflects a log**: it has one item per key, the items that the log says, in the order in
which their keys came in. -/
structure Reflects (key : α → κ) (log : List (Change κ α)) (items : List α) : Prop where
  nodup : (items.map key).Nodup
  mem_iff : ∀ item, item ∈ items ↔ IsLatest key log item
  born : ∀ held ∈ items.map key, ∃ time, IsBirth key log held time
  ordered : (items.map key).Pairwise fun first second => ∀ time time',
    IsBirth key log first time → IsBirth key log second time' → time < time'

variable {key : α → κ} {log : List (Change κ α)} {items : List α} {change : Change κ α} {item : α}
  {born : κ} {time : Nat}

/-! ### What a log says -/

theorem isLatest_cons : IsLatest key (change :: log) item ↔
    change = .put item ∨ ¬ change.Touches key (key item) ∧ IsLatest key log item := by
  constructor
  · rintro ⟨newer, older, split, untouched⟩
    cases newer with
    | nil =>
      cases split
      exact .inl rfl
    | cons first newer =>
      cases split
      obtain ⟨here, later⟩ := List.forall_mem_cons.mp untouched
      exact .inr ⟨here, newer, older, rfl, later⟩
  · rintro (rfl | ⟨here, newer, older, rfl, later⟩)
    · exact ⟨[], log, rfl, fun _ member => absurd member List.not_mem_nil⟩
    · exact ⟨change :: newer, older, rfl, List.forall_mem_cons.mpr ⟨here, later⟩⟩

theorem isBirth_cons : IsBirth key (change :: log) born time ↔
    (∃ item, change = .put item ∧ key item = born ∧ log.length = time ∧
      ∀ held, IsLatest key log held → key held ≠ born) ∨
    ¬ change.Removes born ∧ IsBirth key log born time := by
  constructor
  · rintro ⟨newer, item, older, split, same, length, kept, fresh⟩
    cases newer with
    | nil =>
      cases split
      exact .inl ⟨item, rfl, same, length, fresh⟩
    | cons first newer =>
      cases split
      obtain ⟨here, later⟩ := List.forall_mem_cons.mp kept
      exact .inr ⟨here, newer, item, older, rfl, same, length, later, fresh⟩
  · rintro (⟨item, rfl, same, length, fresh⟩ |
      ⟨here, newer, item, older, rfl, same, length, later, fresh⟩)
    · exact ⟨[], item, log, rfl, same, length, fun _ member => absurd member List.not_mem_nil, fresh⟩
    · exact ⟨change :: newer, item, older, rfl, same, length,
        List.forall_mem_cons.mpr ⟨here, later⟩, fresh⟩

theorem IsBirth.lt_length (birth : IsBirth key log born time) : time < log.length := by
  obtain ⟨newer, item, older, rfl, _, rfl, _⟩ := birth
  rw [List.length_append, List.length_cons]
  omega

/-- A key that came in, and was not removed since, has an item. -/
theorem IsBirth.exists_isLatest (birth : IsBirth key log born time) :
    ∃ item, IsLatest key log item ∧ key item = born := by
  induction log with
  | nil =>
    obtain ⟨newer, item, older, split, _⟩ := birth
    exact absurd split.symm (List.append_ne_nil_of_right_ne_nil newer (List.cons_ne_nil _ older))
  | cons change log hypothesis =>
    rcases isBirth_cons.mp birth with ⟨item, rfl, same, _⟩ | ⟨kept, before⟩
    · exact ⟨item, isLatest_cons.mpr (.inl rfl), same⟩
    · obtain ⟨held, latest, same⟩ := hypothesis before
      cases change with
      | put item =>
        by_cases touched : key item = born
        · exact ⟨item, isLatest_cons.mpr (.inl rfl), touched⟩
        · exact ⟨held, isLatest_cons.mpr (.inr ⟨fun equal => touched (equal.trans same), latest⟩),
            same⟩
      | remove removed =>
        exact ⟨held, isLatest_cons.mpr (.inr ⟨fun equal => kept (equal.trans same), latest⟩), same⟩
      | clear => exact absurd trivial kept

/-! ### Putting an item -/

theorem put_congr {test test' : α → Bool} (agree : ∀ other ∈ items, test other = test' other) :
    put test item items = put test' item items := by
  induction items with
  | nil => rfl
  | cons head rest hypothesis =>
    obtain ⟨here, later⟩ := List.forall_mem_cons.mp agree
    have rests := hypothesis later
    rw [put, put] at rests
    rw [put, change, here, rests, put, change]

section Put

variable [DecidableEq κ]

theorem put_of_not_mem (fresh : key item ∉ items.map key) :
    put (fun other => key other = key item) item items = items ++ [item] := by
  refine change_of_forall_not fun other member => ?_
  rw [decide_eq_false_iff_not]
  exact fun same => fresh (same ▸ List.mem_map_of_mem member)

/-- **Replacing moves no item**: the one with the key is another one, in its place. -/
theorem put_of_mem (nodup : (items.map key).Nodup) (known : key item ∈ items.map key) :
    put (fun other => key other = key item) item items =
      items.map fun old => if key old = key item then item else old := by
  induction items with
  | nil => cases known
  | cons head rest hypothesis =>
    rw [List.map_cons, List.nodup_cons] at nodup
    rw [List.map_cons] at known
    by_cases same : key head = key item
    · have apart : ∀ other ∈ rest, (if key other = key item then item else other) = other := by
        intro other member
        rw [if_neg]
        rintro equal
        exact nodup.1 (same.trans equal.symm ▸ List.mem_map_of_mem member)
      rw [put, change, if_pos (decide_eq_true same), List.map_cons, if_pos same,
        List.map_congr_left apart, List.map_id']
    · have later : key item ∈ rest.map key :=
        (List.mem_cons.mp known).resolve_left fun equal => same equal.symm
      have rests := hypothesis nodup.2 later
      rw [put] at rests
      rw [put, change, if_neg (fun fits => same (of_decide_eq_true fits)), rests, List.map_cons,
        if_neg same]

theorem mem_put_iff (nodup : (items.map key).Nodup) {other : α} :
    other ∈ put (fun other => key other = key item) item items ↔
      other = item ∨ key item ≠ key other ∧ other ∈ items := by
  by_cases known : key item ∈ items.map key
  · rw [put_of_mem nodup known, List.mem_map]
    constructor
    · rintro ⟨old, member, rfl⟩
      by_cases same : key old = key item
      · rw [if_pos same]
        exact .inl rfl
      · rw [if_neg same]
        exact .inr ⟨fun equal => same equal.symm, member⟩
    · rintro (rfl | ⟨different, member⟩)
      · obtain ⟨old, member, same⟩ := List.mem_map.mp known
        exact ⟨old, member, if_pos same⟩
      · exact ⟨other, member, if_neg different.symm⟩
  · rw [put_of_not_mem known, List.mem_append, List.mem_singleton, or_comm]
    refine or_congr_right (and_iff_right_of_imp fun member same => known ?_).symm
    exact same ▸ List.mem_map_of_mem member

/-- **Removing the item that was just put** restores a list without its key. -/
theorem remove_put (fresh : key item ∉ items.map key) :
    (Change.remove (key item)).apply key ((Change.put item).apply key items) = items := by
  rw [Change.apply, Change.apply, put_of_not_mem fresh, List.filter_append]
  have kept : items.filter (fun other => key other ≠ key item) = items := by
    refine List.filter_eq_self.mpr fun other member => decide_eq_true ?_
    exact fun same => fresh (same ▸ List.mem_map_of_mem member)
  rw [kept]
  simp

end Put

/-! ### One change -/

namespace Reflects

theorem mem_map_iff (reflects : Reflects key log items) :
    born ∈ items.map key ↔ ∃ item, IsLatest key log item ∧ key item = born := by
  rw [List.mem_map]
  simp only [reflects.mem_iff]

theorem nil : Reflects key [] [] where
  nodup := List.nodup_nil
  mem_iff item := by
    refine iff_of_false List.not_mem_nil ?_
    rintro ⟨newer, older, split, _⟩
    exact List.append_ne_nil_of_right_ne_nil newer (List.cons_ne_nil _ older) split.symm
  born _ member := absurd member List.not_mem_nil
  ordered := .nil

theorem clear (log : List (Change κ α)) : Reflects key (.clear :: log) [] where
  nodup := List.nodup_nil
  mem_iff item := by
    rw [isLatest_cons]
    refine iff_of_false List.not_mem_nil ?_
    rintro (put | ⟨untouched, _⟩)
    · cases put
    · exact untouched trivial
  born _ member := absurd member List.not_mem_nil
  ordered := .nil

theorem isBirth_remove {removed : κ} : IsBirth key (.remove removed :: log) born time ↔
    removed ≠ born ∧ IsBirth key log born time := by
  rw [isBirth_cons]
  refine or_iff_right ?_
  rintro ⟨item, put, _⟩
  cases put

theorem isBirth_put (reflects : Reflects key log items) :
    IsBirth key (.put item :: log) born time ↔
      (key item = born ∧ log.length = time ∧ born ∉ items.map key) ∨
        IsBirth key log born time := by
  rw [isBirth_cons, reflects.mem_map_iff]
  constructor
  · rintro (⟨other, put, same, length, fresh⟩ | ⟨_, birth⟩)
    · cases put
      exact .inl ⟨same, length, fun ⟨held, latest, equal⟩ => fresh held latest equal⟩
    · exact .inr birth
  · rintro (⟨same, length, fresh⟩ | birth)
    · exact .inl ⟨item, rfl, same, length, fun held latest equal => fresh ⟨held, latest, equal⟩⟩
    · exact .inr ⟨id, birth⟩

variable [DecidableEq κ]

theorem remove (reflects : Reflects key log items) (removed : κ) :
    Reflects key (.remove removed :: log) (items.filter fun item => key item ≠ removed) where
  nodup := reflects.nodup.sublist (List.filter_sublist.map key)
  mem_iff item := by
    rw [List.mem_filter, reflects.mem_iff, isLatest_cons, decide_eq_true_iff]
    constructor
    · rintro ⟨latest, different⟩
      exact .inr ⟨different.symm, latest⟩
    · rintro (put | ⟨untouched, latest⟩)
      · cases put
      · exact ⟨latest, fun same => untouched same.symm⟩
  born held member := by
    obtain ⟨item, inside, rfl⟩ := List.mem_map.mp member
    obtain ⟨before, different⟩ := List.mem_filter.mp inside
    obtain ⟨time, birth⟩ := reflects.born _ (List.mem_map_of_mem before)
    exact ⟨time, isBirth_remove.mpr ⟨(of_decide_eq_true different).symm, birth⟩⟩
  ordered := by
    refine (reflects.ordered.sublist (List.filter_sublist.map key)).imp ?_
    intro first second before time time' birth birth'
    exact before time time' (isBirth_remove.mp birth).2 (isBirth_remove.mp birth').2

theorem map_key_put (items : List α) (item : α) :
    (Keyed.put (fun other => key other = key item) item items).map key =
      if key item ∈ items.map key then items.map key else items.map key ++ [key item] :=
  map_put (fun _ => decide_eq_true_iff) items

theorem put (reflects : Reflects key log items) (item : α) :
    Reflects key (.put item :: log)
      (Keyed.put (fun other => key other = key item) item items) := by
  have births {held : κ} {time : Nat} (other : key item ≠ held ∨ held ∈ items.map key) :
      IsBirth key (.put item :: log) held time ↔ IsBirth key log held time := by
    rw [reflects.isBirth_put]
    refine or_iff_right ?_
    rintro ⟨same, _, fresh⟩
    exact other.elim (fun different => different same) fresh
  have mem_iff (other : α) : other ∈ Keyed.put (fun other => key other = key item) item items ↔
      IsLatest key (.put item :: log) other := by
    rw [mem_put_iff reflects.nodup, isLatest_cons, reflects.mem_iff, Change.put.injEq,
      eq_comm]
    rfl
  by_cases known : key item ∈ items.map key
  · have keys := (map_key_put items item).trans (if_pos known)
    refine ⟨?nodup, mem_iff, ?born, ?ordered⟩
    case nodup =>
      rw [keys]
      exact reflects.nodup
    case born =>
      rw [keys]
      intro held member
      obtain ⟨time, birth⟩ := reflects.born held member
      exact ⟨time, (births (.inr member)).mpr birth⟩
    case ordered =>
      rw [keys]
      refine reflects.ordered.imp_of_mem ?_
      intro first second member member' before time time' birth birth'
      exact before time time' ((births (.inr member)).mp birth) ((births (.inr member')).mp birth')
  · have keys := (map_key_put items item).trans (if_neg known)
    refine ⟨?nodup, mem_iff, ?born, ?ordered⟩
    case nodup =>
      rw [keys, List.nodup_append]
      refine ⟨reflects.nodup, by simp, fun first member second last same => known ?_⟩
      rw [← List.mem_singleton.mp last, ← same]
      exact member
    case born =>
      rw [keys]
      intro held member
      rcases List.mem_append.mp member with old | new
      · obtain ⟨time, birth⟩ := reflects.born held old
        exact ⟨time, (births (.inr old)).mpr birth⟩
      · rw [List.mem_singleton] at new
        rw [new]
        exact ⟨log.length, reflects.isBirth_put.mpr (.inl ⟨rfl, rfl, known⟩)⟩
    case ordered =>
      rw [keys, List.pairwise_append]
      refine ⟨reflects.ordered.imp_of_mem ?_, List.pairwise_singleton _ _, ?_⟩
      · intro first second member member' before time time' birth birth'
        exact before time time' ((births (.inr member)).mp birth)
          ((births (.inr member')).mp birth')
      · -- The new key came in last: all other times belong to older changes.
        intro first member second last time time' birth birth'
        rw [List.mem_singleton] at last
        rw [last, reflects.isBirth_put] at birth'
        have early := ((births (.inr member)).mp birth).lt_length
        rcases birth' with ⟨_, length, _⟩ | birth'
        · exact length ▸ early
        · exact absurd (reflects.mem_map_iff.mpr birth'.exists_isLatest) known

/-- **One change** of a list. -/
theorem apply (reflects : Reflects key log items) (change : Change κ α) :
    Reflects key (change :: log) (change.apply key items) := by
  cases change with
  | put item => exact reflects.put item
  | remove removed => exact reflects.remove removed
  | clear => exact clear log

end Reflects

/-- **A list without repeated keys reflects** the log of putting its items one after the other. -/
theorem reflects_reverse_map_put [DecidableEq κ] {items : List α} (nodup : (items.map key).Nodup) :
    Reflects key (items.map Change.put).reverse items := by
  induction items using List.reverseRecOn with
  | nil => exact .nil
  | append_singleton items last hypothesis =>
    rw [List.map_append, List.map_singleton, List.nodup_append] at nodup
    have fresh : key last ∉ items.map key := fun member =>
      nodup.2.2 _ member _ (List.mem_singleton.mpr rfl) rfl
    rw [List.map_append, List.map_singleton, List.reverse_append, List.reverse_singleton,
      List.singleton_append, ← put_of_not_mem fresh]
    exact (hypothesis nodup.1).put last

section Apply

variable [DecidableEq κ]

/-- One change of a list without repeated keys. -/
theorem mem_apply (nodup : (items.map key).Nodup) :
    item ∈ change.apply key items ↔
      change = .put item ∨ ¬ change.Touches key (key item) ∧ item ∈ items := by
  have before : Reflects key (items.map Change.put).reverse items := reflects_reverse_map_put nodup
  rw [(before.apply change).mem_iff, isLatest_cons, ← before.mem_iff]

theorem nodup_apply (nodup : (items.map key).Nodup) (change : Change κ α) :
    ((change.apply key items).map key).Nodup :=
  ((reflects_reverse_map_put nodup).apply change).nodup

end Apply

end OciBundle.Keyed
