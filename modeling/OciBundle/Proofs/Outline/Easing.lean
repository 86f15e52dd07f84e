/-
**Outlines in which less is missing.**

When parts are emptied or left out that need not be given, a walk comes by the other members in the same
order. It finds missing what it found missing before, without what was below those parts.

* `Outline.missed`: the paths of the visits that find something missing.
* `Outline.Eases`: from every path, a walk misses some of what it missed in another outline, and in the
  same order.
* `Outline.eases_record`: a record of members that ease others.
* `Outline.eases_ofOption_map`, `Outline.eases_ofParts_map`: parts that are changed where they are.
* `Outline.missing_sublist`: the missing members of an outline that eases another one.
-/

import Mathlib.Data.List.Forall2
import OciBundle.Outline

namespace OciBundle.Outline

variable {α : Type} {name : String} {before after : Outline} {visits later : List Visit}
  {fields fields' : List (String × Presence × Outline)}

/-- The paths of the visits that find something missing. -/
def missed (visits : List Visit) : List String :=
  (visits.filter fun visit => visit.presence = .required && visit.shape.isEmpty).map Visit.path

theorem missed_append : missed (visits ++ later) = missed visits ++ missed later := by
  rw [missed, List.filter_append, List.map_append]
  rfl

/-- A single member is missed by itself, before what is missed below it. -/
theorem missed_walkMembers_singleton (path name : String) (presence : Presence) (value : Outline) :
    missed (walkMembers path [(name, presence, value)]) =
      missed [⟨memberPath path name, presence, value.shape⟩]
        ++ missed (walk (memberPath path name) value) := by
  rw [walkMembers, walkMembers, List.append_nil, ← missed_append, List.singleton_append]

/-- **Less is missing**: a walk misses some of what it misses in the outline before. -/
def Eases (before after : Outline) : Prop :=
  ∀ path, (missed (walk path after)).Sublist (missed (walk path before))

/-- The same of a single member. -/
def EasesMember (before after : String × Presence × Outline) : Prop :=
  ∀ path, (missed (walkMembers path [after])).Sublist (missed (walkMembers path [before]))

theorem Eases.refl (outline : Outline) : Eases outline outline :=
  fun _ => List.Sublist.refl _

theorem missing_sublist (eases : Eases before after) : after.missing.Sublist before.missing :=
  eases ""

/-! ### Members -/

namespace EasesMember

theorem refl (field : String × Presence × Outline) : EasesMember field field :=
  fun _ => List.Sublist.refl _

/-- A mandatory member must not become empty. -/
theorem needs (given : after.shape.isEmpty = true → before.shape.isEmpty = true)
    (eases : Eases before after) : EasesMember (needs name before) (needs name after) := by
  intro path
  rw [Outline.needs, Outline.needs, missed_walkMembers_singleton, missed_walkMembers_singleton]
  refine List.Sublist.append ?_ (eases (memberPath path name))
  cases empty : after.shape.isEmpty with
  | true => simp [missed, empty, given empty]
  | false => simp [missed, empty]

theorem allows (eases : Eases before after) :
    EasesMember (allows name before) (allows name after) := by
  intro path
  rw [Outline.allows, Outline.allows, missed_walkMembers_singleton, missed_walkMembers_singleton]
  refine List.Sublist.append ?_ (eases (memberPath path name))
  simp [missed]

/-- What may be left out may be emptied. -/
theorem emptied (nothing : ∀ path, walk path after = []) :
    EasesMember (Outline.allows name before) (Outline.allows name after) := by
  refine allows fun path => ?_
  rw [nothing]
  exact List.nil_sublist _

end EasesMember

/-! ### Forms of outlines -/

theorem walkMembers_cons (path : String) (field : String × Presence × Outline)
    (rest : List (String × Presence × Outline)) :
    walkMembers path (field :: rest) = walkMembers path [field] ++ walkMembers path rest := by
  obtain ⟨name, presence, value⟩ := field
  simp only [walkMembers, List.append_nil, List.cons_append]

/-- **A record** eases another one when each of its members does. -/
theorem eases_record (each : List.Forall₂ EasesMember fields fields') :
    Eases (.record fields) (.record fields') := by
  intro path
  rw [walk, walk]
  induction each with
  | nil => exact List.Sublist.refl _
  | @cons field field' rest rest' first _ hypothesis =>
    rw [walkMembers_cons path field, walkMembers_cons path field', missed_append, missed_append]
    exact (first path).append hypothesis

theorem eases_ofOption_map {outline : α → Outline} {change : α → α}
    (eases : ∀ value, Eases (outline value) (outline (change value))) (part : Option α) :
    Eases (ofOption outline part) (ofOption outline (part.map change)) := by
  cases part with
  | none => exact .refl _
  | some value => exact eases value

theorem eases_ofParts_map {outline : α → Outline} {change : α → α}
    (eases : ∀ value, Eases (outline value) (outline (change value))) (items : List α) :
    Eases (ofParts outline items) (ofParts outline (items.map change)) := by
  intro path
  rw [ofParts, ofParts, walk, walk]
  -- The items keep their places, so the walk is followed from every index on.
  generalize 0 = index
  induction items generalizing index with
  | nil => exact List.Sublist.refl _
  | cons item items hypothesis =>
    simp only [List.map_cons, walkItems, missed_append]
    exact (eases item (itemPath path index)).append (hypothesis (index + 1))

end OciBundle.Outline
