/-
**Keyed lists of drafts are maps in order of insertion.**

Edits of the keyed lists may follow one another in any order, and be accepted or rejected. A list
then holds exactly the items that the log of its accepted changes says: for every key whose last
change puts an item, that item; and in the order in which the keys came in.

* `Draft.accepted`, `Draft.log`: the accepted edits, and their changes of a list.
* `Draft.reflects_apply`: one accepted edit.
* `Draft.reflects_run`: edits one after the other.
-/

import OciBundle.Proofs.Draft
import OciBundle.Proofs.Edit.KeyedList

namespace OciBundle

open Keyed (Change Reflects)

namespace Draft

variable {draft after : Draft} {edit : Edit} {edits : List Edit} {decisions : List Decision}
  {list : KeyedList} {past : List (Change list.Key list.Item)}

/-- The items of a keyed list of a draft. -/
def items (draft : Draft) (list : KeyedList) : List list.Item :=
  KeyedList.items draft.config list

/-- The edits that are accepted, one after the other. -/
def accepted : Draft → List Edit → List Edit
  | _, [] => []
  | draft, edit :: rest =>
    match draft.apply edit with
    | .ok (after, _) => edit :: after.accepted rest
    | .error _ => draft.accepted rest

/-- The changes that edits make in a list, the newest first; the first of all put the items that
are there before. -/
def log (draft : Draft) (list : KeyedList) (edits : List Edit) :
    List (Change list.Key list.Item) :=
  ((draft.items list).map Change.put ++
    (draft.accepted edits).filterMap (Edit.change? list)).reverse

/-! ### One edit -/

theorem makes_apply (keyed : edit.IsKeyed) (done : draft.apply edit = .ok (after, decisions)) :
    ∃ changed, edit.listChange? = some changed ∧ changed.Makes draft.config after.config := by
  have yields := yields_apply done
  cases edit with
  | process edit => exact ProcessEdit.makes keyed yields
  | linux edit => exact LinuxEdit.makes keyed yields
  | resources edit => exact ResourcesEdit.makes keyed yields
  | general _ | mount _ | hook _ | seccomp _ | sanitize | setHostSpecific _ => exact keyed.elim

/-- An accepted edit changes a list as it says, and not at all where it says nothing. -/
theorem items_apply (keyed : edit.IsKeyed) (done : draft.apply edit = .ok (after, decisions))
    (fits : ∀ item ∈ draft.items list, list.Fits item) :
    after.items list =
      ((edit.change? list).map (·.apply list.key (draft.items list))).getD (draft.items list) := by
  obtain ⟨⟨here, change⟩, found, makes⟩ := makes_apply keyed done
  rw [Edit.change?, found]
  by_cases same : here = list
  · cases same
    rw [Option.bind_some, ListChange.on?, dif_pos rfl]
    exact makes.here fits
  · rw [Option.bind_some, ListChange.on?, dif_neg same]
    exact makes.others list fun equal => same equal.symm

/-- What an accepted edit puts fits. -/
theorem fits_of_change (keyed : edit.IsKeyed) (done : draft.apply edit = .ok (after, decisions))
    {item : list.Item} (put : edit.change? list = some (.put item)) : list.Fits item := by
  obtain ⟨⟨here, change⟩, found, makes⟩ := makes_apply keyed done
  rw [Edit.change?, found, Option.bind_some, ListChange.on?] at put
  split at put
  next same =>
    cases same
    exact makes.fits item (Option.some.inj put)
  next => cases put

theorem fits_apply (keyed : edit.IsKeyed) (done : draft.apply edit = .ok (after, decisions))
    (fits : ∀ item ∈ draft.items list, list.Fits item) :
    ∀ item ∈ after.items list, list.Fits item := by
  intro item member
  rw [items_apply keyed done fits] at member
  cases change : edit.change? list with
  | none =>
    rw [change] at member
    exact fits item member
  | some made =>
    rw [change] at member
    cases made with
    | put new =>
      rcases Keyed.mem_put member with old | rfl
      · exact fits item old
      · exact fits_of_change keyed done change
    | remove removed => exact fits item (List.mem_filter.mp member).1
    | clear => cases member

/-- **One accepted edit** of a keyed list. -/
theorem reflects_apply (keyed : edit.IsKeyed) (done : draft.apply edit = .ok (after, decisions))
    (fits : ∀ item ∈ draft.items list, list.Fits item)
    (reflects : Reflects list.key past (draft.items list)) :
    Reflects list.key ((edit.change? list).toList ++ past) (after.items list) := by
  rw [items_apply keyed done fits]
  cases edit.change? list with
  | none => exact reflects
  | some change => exact reflects.apply change

/-! ### Edits one after the other -/

theorem reflects_accepted (keyed : ∀ edit ∈ edits, edit.IsKeyed)
    (fits : ∀ item ∈ draft.items list, list.Fits item)
    (reflects : Reflects list.key past (draft.items list)) :
    (∀ item ∈ (draft.run edits).1.items list, list.Fits item) ∧
      Reflects list.key (((draft.accepted edits).filterMap (Edit.change? list)).reverse ++ past)
        ((draft.run edits).1.items list) := by
  induction edits generalizing draft past with
  | nil => exact ⟨fits, reflects⟩
  | cons edit edits hypothesis =>
    obtain ⟨first, others⟩ := List.forall_mem_cons.mp keyed
    rw [run, step, accepted]
    cases applied : draft.apply edit with
    | error rejection => exact hypothesis others fits reflects
    | ok result =>
      have next := reflects_apply first applied fits reflects
      have all := hypothesis others (fits_apply first applied fits) next
      refine ⟨all.1, ?_⟩
      have changes : ((edit :: result.1.accepted edits).filterMap (Edit.change? list)).reverse ++ past =
          ((result.1.accepted edits).filterMap (Edit.change? list)).reverse ++
            ((edit.change? list).toList ++ past) := by
        rw [List.filterMap_cons]
        cases edit.change? list with
        | none => rfl
        | some change => simp
      exact changes ▸ all.2

/-- **A keyed list is a map in order of insertion.** After any edits of keyed lists, accepted or
rejected, a list that had one item per key has one item per key: for the keys whose last change was
an accepted put, the item of that put, in the order in which the keys came in. From there on,
replacing the item of a key moves none, and removing the item of a new key restores the list. -/
theorem reflects_run (keyed : ∀ edit ∈ edits, edit.IsKeyed) (draft : Draft) (list : KeyedList)
    (fits : ∀ item ∈ draft.items list, list.Fits item)
    (nodup : ((draft.items list).map list.key).Nodup) :
    Reflects list.key (draft.log list edits) ((draft.run edits).1.items list) ∧
    (∀ (edit : Edit) (after : Draft) (decisions : List Decision) (item : list.Item),
      edit.IsKeyed → (draft.run edits).1.apply edit = .ok (after, decisions) →
      edit.change? list = some (.put item) →
      list.key item ∈ ((draft.run edits).1.items list).map list.key →
        after.items list = ((draft.run edits).1.items list).map fun old =>
          if list.key old = list.key item then item else old) ∧
    ∀ (added removed : Edit) (between after : Draft) (decisions decisions' : List Decision)
      (item : list.Item), added.IsKeyed → removed.IsKeyed →
      (draft.run edits).1.apply added = .ok (between, decisions) →
      between.apply removed = .ok (after, decisions') →
      added.change? list = some (.put item) →
      removed.change? list = some (.remove (list.key item)) →
      list.key item ∉ ((draft.run edits).1.items list).map list.key →
        after.items list = (draft.run edits).1.items list := by
  have start := Keyed.reflects_reverse_map_put nodup
  obtain ⟨fits', reflects⟩ := reflects_accepted keyed fits start
  refine ⟨?_, ?_, ?_⟩
  · rw [log, List.reverse_append]
    exact reflects
  · intro edit after decisions item here done put known
    rw [items_apply here done fits', put]
    exact Keyed.put_of_mem reflects.nodup known
  · intro added removed between after decisions decisions' item here there done done' put remove
      fresh
    rw [items_apply there done' (fits_apply here done fits'), remove,
      items_apply here done fits', put]
    exact Keyed.remove_put fresh

/-- Variables whose values have a `=`, with a network that is put, moved to another path and
removed in between. -/
theorem reflects_run_env :
    let draft : Draft := .ofConfig default { (default : Config) with
      process := { (default : Process) with env := ["A=1=2", "AB=3"] } }
    let edits : List Edit := [.process (.addEnv "C" "4"), .linux (.putNamespace "net" "/a"),
      .process (.addEnv "A" "5=6"), .linux (.removeNamespace "network"),
      .process (.removeEnv "AB"), .process (.addEnvPair "AB=7")]
    (draft.run edits).1.items .env = ["A=5=6", "C=4", "AB=7"] ∧
      Reflects envKey (draft.log .env edits) ["A=5=6", "C=4", "AB=7"] := by
  intro draft edits
  have keyed : ∀ edit ∈ edits, edit.IsKeyed := by
    simp [edits, Edit.IsKeyed]
  have fits : ∀ item ∈ draft.items .env, KeyedList.Fits .env item := by
    show ∀ entry ∈ ["A=1=2", "AB=3"], '=' ∈ String.toList entry
    decide
  have nodup : ((draft.items .env).map KeyedList.env.key).Nodup := by
    show (["A=1=2", "AB=3"].map envKey).Nodup
    decide
  have entries : (draft.run edits).1.items .env = ["A=5=6", "C=4", "AB=7"] := by
    rfl
  have all := reflects_run keyed draft .env fits nodup
  exact ⟨entries, entries ▸ all.1⟩

end Draft

end OciBundle
