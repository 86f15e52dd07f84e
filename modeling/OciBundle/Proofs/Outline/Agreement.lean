/-
**Outlines and documents side by side.**

The members that a walk visits agree with those of a document when every member that is due is
written, no other one is, what is written has been visited, or is known to be passed over, and the
order is the same.

* `Agree`: members that are visited and written agree.
* `Agree.under`, `Agree.append`: one step further down, and one list behind another.
* `agree_items`: lists of parts.
* `Describes`, `Describes.agree`: the members of a record.
-/

import OciBundle.Proofs.Outline.Members

namespace OciBundle

open Json (Address)

namespace Outline

namespace Member

/-- Whether a member must be written: it is mandatory, or it may be seen that it is not empty. -/
def Due (member : Member) : Prop :=
  member.presence = .required ∨ member.shape ≠ .scalar ∧ member.shape.isEmpty = false

/-- Whether a member may be written: it is mandatory, or it may not be seen that it is empty. -/
def Allowed (member : Member) : Prop :=
  member.presence = .required ∨ member.shape = .scalar ∨ member.shape.isEmpty = false

end Member

/-- **Members that are visited agree with members that are written.** -/
structure Agree (unseen : Address → Prop) (visited : List Member)
    (written : List (Address × Json)) : Prop where
  visitedBelow : ∀ member ∈ visited, member.address ≠ []
  writtenBelow : ∀ entry ∈ written, entry.1 ≠ []
  due : ∀ member ∈ visited, member.Due → ∃ entry ∈ written, entry.1 = member.address
  allowed : ∀ member ∈ visited, ∀ entry ∈ written, entry.1 = member.address → member.Allowed
  blank : ∀ member ∈ visited, ∀ entry ∈ written, entry.1 = member.address →
    member.presence = .required → entry.2.isBlank = member.shape.isEmpty
  seen : ∀ entry ∈ written, entry.1 ∈ visited.map Member.address ∨ unseen entry.1
  ordered : ((written.map Prod.fst).filter (· ∈ visited.map Member.address)).Sublist
    (visited.map Member.address)

/-- Two tests of addresses that agree on a list. -/
theorem filter_mem_congr {paths : List Address} {wanted : Address → Prop} [DecidablePred wanted]
    {wanted' : Address → Prop} [DecidablePred wanted']
    (same : ∀ address ∈ paths, wanted address ↔ wanted' address) :
    paths.filter (wanted ·) = paths.filter (wanted' ·) :=
  List.filter_congr fun address inside => decide_eq_decide.mpr (same address inside)

namespace Agree

variable {unseen : Address → Prop} {visited visited' : List Member}
  {written written' : List (Address × Json)} {step : Json.Step}

/-- What is passed over. -/
theorem of_unseen (none : ∀ entry ∈ written, entry.1 ≠ [] ∧ unseen entry.1) :
    Agree unseen [] written where
  visitedBelow _ member := absurd member List.not_mem_nil
  writtenBelow entry member := (none entry member).1
  due _ member := absurd member List.not_mem_nil
  allowed _ member := absurd member List.not_mem_nil
  blank _ member := absurd member List.not_mem_nil
  seen entry member := .inr (none entry member).2
  ordered := by
    have nothing : (written.map Prod.fst).filter (· ∈ [].map Member.address) = [] := by
      simp
    rw [nothing]
    exact .slnil

theorem nil : Agree unseen [] [] :=
  .of_unseen fun _ member => absurd member List.not_mem_nil

section Same

variable {holds : Member → Address × Json → Prop}

/-- What holds of each member and of what is written for it, one step further down. -/
theorem forall_same_under
    (each : ∀ member ∈ visited, ∀ entry ∈ written, entry.1 = member.address →
      holds (member.under step) (Json.under step entry)) :
    ∀ member ∈ visited.map (.under step), ∀ entry ∈ written.map (Json.under step),
      entry.1 = member.address → holds member entry := by
  intro member inside entry found same
  obtain ⟨old, before, rfl⟩ := List.mem_map.mp inside
  obtain ⟨other, inner, rfl⟩ := List.mem_map.mp found
  exact each old before other inner (List.cons.inj same).2

/-- What holds of each member and of what is written for it, in one list and in another. -/
theorem forall_same_append
    (each : ∀ member ∈ visited, ∀ entry ∈ written, entry.1 = member.address → holds member entry)
    (each' : ∀ member ∈ visited', ∀ entry ∈ written', entry.1 = member.address →
      holds member entry)
    (apart : ∀ member ∈ visited, ∀ entry ∈ written', entry.1 ≠ member.address)
    (apart' : ∀ member ∈ visited', ∀ entry ∈ written, entry.1 ≠ member.address) :
    ∀ member ∈ visited ++ visited', ∀ entry ∈ written ++ written',
      entry.1 = member.address → holds member entry := by
  intro member inside entry found same
  rcases List.mem_append.mp inside with first | second
  · rcases List.mem_append.mp found with here | there
    · exact each member first entry here same
    · exact absurd same (apart member first entry there)
  · rcases List.mem_append.mp found with here | there
    · exact absurd same (apart' member second entry here)
    · exact each' member second entry there same

end Same

/-- One step further down. -/
theorem under (agree : Agree (fun address => unseen (step :: address)) visited written) :
    Agree unseen (visited.map (.under step))
      (written.map (Json.under step)) where
  visitedBelow member inside := by
    obtain ⟨old, _, rfl⟩ := List.mem_map.mp inside
    exact List.cons_ne_nil _ _
  writtenBelow entry inside := by
    obtain ⟨old, _, rfl⟩ := List.mem_map.mp inside
    exact List.cons_ne_nil _ _
  due member inside due := by
    obtain ⟨old, before, rfl⟩ := List.mem_map.mp inside
    obtain ⟨entry, found, same⟩ := agree.due old before due
    exact ⟨_, List.mem_map_of_mem found, congrArg (step :: ·) same⟩
  allowed := forall_same_under agree.allowed
  blank := forall_same_under agree.blank
  seen entry found := by
    obtain ⟨other, inner, rfl⟩ := List.mem_map.mp found
    rcases agree.seen other inner with member | passed
    · obtain ⟨old, before, same⟩ := List.mem_map.mp member
      refine .inl (List.mem_map.mpr ⟨old.under step, List.mem_map_of_mem before, ?_⟩)
      exact congrArg (step :: ·) same
    · exact .inr passed
  ordered := by
    have addresses : (visited.map (.under step)).map Member.address =
        (visited.map Member.address).map (step :: ·) := by
      rw [List.map_map, List.map_map]
      rfl
    have paths : (written.map (Json.under step)).map Prod.fst =
        (written.map Prod.fst).map (step :: ·) := by
      rw [List.map_map, List.map_map]
      rfl
    rw [addresses, paths, List.filter_map, Function.comp_def]
    refine List.Sublist.map _ ?_
    have same (address : Address) :
        address ∈ visited.map Member.address ↔
          step :: address ∈ (visited.map Member.address).map (step :: ·) := by
      constructor
      · exact List.mem_map_of_mem
      · intro inside
        obtain ⟨other, before, equal⟩ := List.mem_map.mp inside
        rw [← (List.cons.inj equal).2]
        exact before
    rw [← filter_mem_congr fun address _ => same address]
    exact agree.ordered

/-- One list behind another with other addresses. -/
theorem append (agree : Agree unseen visited written) (agree' : Agree unseen visited' written')
    (apart : ∀ member ∈ visited, ∀ entry ∈ written', entry.1 ≠ member.address)
    (apart' : ∀ member ∈ visited', ∀ entry ∈ written, entry.1 ≠ member.address) :
    Agree unseen (visited ++ visited') (written ++ written') where
  visitedBelow member inside := by
    rcases List.mem_append.mp inside with first | second
    · exact agree.visitedBelow member first
    · exact agree'.visitedBelow member second
  writtenBelow entry inside := by
    rcases List.mem_append.mp inside with first | second
    · exact agree.writtenBelow entry first
    · exact agree'.writtenBelow entry second
  due member inside due := by
    rcases List.mem_append.mp inside with first | second
    · obtain ⟨entry, found, same⟩ := agree.due member first due
      exact ⟨entry, List.mem_append_left _ found, same⟩
    · obtain ⟨entry, found, same⟩ := agree'.due member second due
      exact ⟨entry, List.mem_append_right _ found, same⟩
  allowed := forall_same_append agree.allowed agree'.allowed apart apart'
  blank := forall_same_append agree.blank agree'.blank apart apart'
  seen entry found := by
    rw [List.map_append, List.mem_append]
    rcases List.mem_append.mp found with here | there
    · exact (agree.seen entry here).imp_left .inl
    · exact (agree'.seen entry there).imp_left .inr
  ordered := by
    rw [List.map_append, List.map_append, List.filter_append]
    refine List.Sublist.append ?_ ?_
    · have same (address : Address) (inside : address ∈ written.map Prod.fst) :
          address ∈ visited.map Member.address ↔
            address ∈ visited.map Member.address ++ visited'.map Member.address := by
        obtain ⟨entry, found, rfl⟩ := List.mem_map.mp inside
        rw [List.mem_append, or_iff_left]
        intro other
        obtain ⟨member, second, equal⟩ := List.mem_map.mp other
        exact apart' member second entry found equal.symm
      rw [← filter_mem_congr same]
      exact agree.ordered
    · have same (address : Address) (inside : address ∈ written'.map Prod.fst) :
          address ∈ visited'.map Member.address ↔
            address ∈ visited.map Member.address ++ visited'.map Member.address := by
        obtain ⟨entry, found, rfl⟩ := List.mem_map.mp inside
        rw [List.mem_append, or_iff_right]
        intro other
        obtain ⟨member, first, equal⟩ := List.mem_map.mp other
        exact apart member first entry found equal.symm
      rw [← filter_mem_congr same]
      exact agree'.ordered

end Agree

/-! ### Lists of parts -/

theorem start_itemMembers (start : Nat) (items : List Outline) :
    ∀ member ∈ itemMembers start items,
      ∃ index rest, start ≤ index ∧ member.address = .item index :: rest := by
  induction items generalizing start with
  | nil => exact fun _ member => absurd member List.not_mem_nil
  | cons item items hypothesis =>
    intro member inside
    rw [itemMembers] at inside
    rcases List.mem_append.mp inside with here | later
    · obtain ⟨old, _, rfl⟩ := List.mem_map.mp here
      exact ⟨start, old.address, Nat.le_refl start, rfl⟩
    · obtain ⟨index, rest, after, address⟩ := hypothesis (start + 1) member later
      exact ⟨index, rest, by omega, address⟩

theorem start_jsonItemMembers (start : Nat) (items : List Json) :
    ∀ entry ∈ Json.itemMembers start items,
      ∃ index rest, start ≤ index ∧ entry.1 = .item index :: rest := by
  induction items generalizing start with
  | nil => exact fun _ member => absurd member List.not_mem_nil
  | cons item items hypothesis =>
    intro entry inside
    rw [Json.itemMembers] at inside
    rcases List.mem_append.mp inside with here | later
    · obtain ⟨old, _, rfl⟩ := List.mem_map.mp here
      exact ⟨start, old.1, Nat.le_refl start, rfl⟩
    · obtain ⟨index, rest, after, address⟩ := hypothesis (start + 1) entry later
      exact ⟨index, rest, by omega, address⟩

/-- **A list of parts agrees** when its parts do. -/
theorem agree_items {α : Type} {unseen : Address → Prop} {outline : α → Outline} {json : α → Json}
    {items : List α} (each : ∀ index, ∀ item ∈ items,
      Agree (fun address => unseen (.item index :: address)) (members (outline item))
        (json item).members) (start : Nat) :
    Agree unseen (itemMembers start (items.map outline))
      (Json.itemMembers start (items.map json)) := by
  induction items generalizing start with
  | nil => exact .nil
  | cons item items hypothesis =>
    have here := (each start item List.mem_cons_self).under
    have later := hypothesis (fun index other inside =>
      each index other (List.mem_cons_of_mem _ inside)) (start + 1)
    refine here.append later ?_ ?_
    · intro member inside entry found same
      obtain ⟨old, _, rfl⟩ := List.mem_map.mp inside
      obtain ⟨index, rest, after, address⟩ := start_jsonItemMembers _ _ entry found
      rw [address] at same
      have equal : index = start := Json.Step.item.inj (List.cons.inj same).1
      omega
    · intro member inside entry found same
      obtain ⟨old, _, rfl⟩ := List.mem_map.mp found
      obtain ⟨index, rest, after, address⟩ := start_itemMembers _ _ member inside
      rw [address] at same
      have equal : start = index := Json.Step.item.inj (List.cons.inj same).1
      omega

/-! ### Members of a record -/

/-- The members of an outline and the members that are written for them, one after the other. -/
inductive Describes (unseen : Address → Prop) :
    List (String × Presence × Outline) → List (String × Json) → Prop
  | nil : Describes unseen [] []
  /-- A mandatory member is written, also when it is blank. -/
  | needs {name : String} {outline : Outline} {json : Json}
      {fields : List (String × Presence × Outline)} {entries : List (String × Json)}
      (agree : Agree (fun address => unseen (.member name :: address)) (members outline)
        json.members)
      (blank : json.isBlank = outline.shape.isEmpty) (rest : Describes unseen fields entries) :
      Describes unseen (needs name outline :: fields) ((name, json) :: entries)
  /-- A member that may be left out is written when it is not empty. -/
  | allows {name : String} {outline : Outline} {json : Json}
      {fields : List (String × Presence × Outline)} {entries : List (String × Json)}
      (agree : Agree (fun address => unseen (.member name :: address)) (members outline)
        json.members)
      (given : outline.shape = .scalar ∨ outline.shape.isEmpty = false)
      (rest : Describes unseen fields entries) :
      Describes unseen (allows name outline :: fields) ((name, json) :: entries)
  /-- A member that may be left out is so when it is empty. -/
  | omits {name : String} {outline : Outline}
      {fields : List (String × Presence × Outline)} {entries : List (String × Json)}
      (empty : outline.shape = .scalar ∨ outline.shape.isEmpty = true)
      (rest : Describes unseen fields entries) :
      Describes unseen (allows name outline :: fields) entries

namespace Describes

variable {unseen : Address → Prop} {fields : List (String × Presence × Outline)}
  {entries : List (String × Json)}

theorem sublist (describes : Describes unseen fields entries) :
    (entries.map Prod.fst).Sublist (fields.map Prod.fst) := by
  induction describes with
  | nil => exact .slnil
  | needs _ _ _ hypothesis => exact hypothesis.cons_cons _
  | allows _ _ _ hypothesis => exact hypothesis.cons_cons _
  | omits _ _ hypothesis => exact hypothesis.cons _

end Describes

theorem start_fieldMembers (fields : List (String × Presence × Outline)) :
    ∀ member ∈ fieldMembers fields,
      ∃ name ∈ fields.map Prod.fst, ∃ rest, member.address = .member name :: rest := by
  induction fields with
  | nil => exact fun _ member => absurd member List.not_mem_nil
  | cons field fields hypothesis =>
    intro member inside
    rw [fieldMembers] at inside
    rcases List.mem_cons.mp inside with rfl | below
    · exact ⟨field.1, List.mem_cons_self, [], rfl⟩
    · rcases List.mem_append.mp below with here | later
      · obtain ⟨old, _, rfl⟩ := List.mem_map.mp here
        exact ⟨field.1, List.mem_cons_self, old.address, rfl⟩
      · obtain ⟨name, known, rest, address⟩ := hypothesis member later
        exact ⟨name, List.mem_cons_of_mem _ known, rest, address⟩

theorem start_jsonFieldMembers (entries : List (String × Json)) :
    ∀ entry ∈ Json.fieldMembers entries,
      ∃ name ∈ entries.map Prod.fst, ∃ rest, entry.1 = .member name :: rest := by
  induction entries with
  | nil => exact fun _ member => absurd member List.not_mem_nil
  | cons field entries hypothesis =>
    intro entry inside
    rw [Json.fieldMembers] at inside
    rcases List.mem_cons.mp inside with rfl | below
    · exact ⟨field.1, List.mem_cons_self, [], rfl⟩
    · rcases List.mem_append.mp below with here | later
      · obtain ⟨old, _, rfl⟩ := List.mem_map.mp here
        exact ⟨field.1, List.mem_cons_self, old.1, rfl⟩
      · obtain ⟨name, known, rest, address⟩ := hypothesis entry later
        exact ⟨name, List.mem_cons_of_mem _ known, rest, address⟩

namespace Agree

variable {unseen : Address → Prop} {visited : List Member} {written : List (Address × Json)}

/-- A member that is written, with the ones below it. -/
theorem cons {step : Json.Step} {presence : Presence} {shape : Shape} {json : Json}
    (allowed : presence = .required ∨ shape = .scalar ∨ shape.isEmpty = false)
    (blank : presence = .required → json.isBlank = shape.isEmpty)
    (agree : Agree (fun address => unseen (step :: address)) visited written) :
    Agree unseen (⟨[step], presence, shape⟩ :: visited.map (.under step))
      (([step], json) :: written.map (Json.under step)) := by
  have here : Agree unseen [⟨[step], presence, shape⟩] [([step], json)] := by
    constructor
    case seen => exact fun entry found => .inl (by simp_all)
    case ordered => simp
    all_goals simp_all [Member.Allowed]
  refine here.append agree.under ?_ ?_
  · intro member single entry found same
    obtain ⟨inner, below, rfl⟩ := List.mem_map.mp found
    rw [List.mem_singleton.mp single] at same
    exact agree.writtenBelow inner below (List.cons.inj same).2
  · intro member inside entry single same
    obtain ⟨inner, below, rfl⟩ := List.mem_map.mp inside
    rw [List.mem_singleton.mp single] at same
    exact agree.visitedBelow inner below (List.cons.inj same).2.symm

/-- A member that is left out, and has none below it. -/
theorem omitted {step : Json.Step} {shape : Shape}
    (empty : shape = .scalar ∨ shape.isEmpty = true) :
    Agree unseen [⟨[step], .optional, shape⟩] [] where
  visitedBelow member single := by
    rw [List.mem_singleton.mp single]
    exact List.cons_ne_nil _ _
  writtenBelow _ member := absurd member List.not_mem_nil
  due member single due := by
    rw [List.mem_singleton.mp single] at due
    rcases due with mandatory | ⟨shown, given⟩
    · cases mandatory
    · rcases empty with scalar | empty
      · exact absurd scalar shown
      · rw [empty] at given
        cases given
  allowed _ _ _ member := absurd member List.not_mem_nil
  blank _ _ _ member := absurd member List.not_mem_nil
  seen _ member := absurd member List.not_mem_nil
  ordered := List.nil_sublist _

end Agree

/-- A member of a record, with the ones below it, in front of members with other names. -/
theorem Agree.append_fieldMembers {unseen : Address → Prop} {name : String}
    {visited : List Member} {written : List (Address × Json)}
    {fields : List (String × Presence × Outline)} {entries : List (String × Json)}
    (here : Agree unseen visited written)
    (starts : ∀ member ∈ visited, ∃ rest, member.address = .member name :: rest)
    (starts' : ∀ entry ∈ written, ∃ rest, entry.1 = .member name :: rest)
    (later : Agree unseen (fieldMembers fields) (Json.fieldMembers entries))
    (other : name ∉ fields.map Prod.fst)
    (sublist : (entries.map Prod.fst).Sublist (fields.map Prod.fst)) :
    Agree unseen (visited ++ fieldMembers fields) (written ++ Json.fieldMembers entries) := by
  refine here.append later ?_ ?_
  · intro member inside entry found same
    obtain ⟨rest, address⟩ := starts member inside
    obtain ⟨name', known, rest', address'⟩ := start_jsonFieldMembers entries entry found
    rw [address, address'] at same
    have equal : name' = name := Json.Step.member.inj (List.cons.inj same).1
    exact other (equal ▸ sublist.subset known)
  · intro member inside entry found same
    obtain ⟨rest, address⟩ := starts' entry found
    obtain ⟨name', known, rest', address'⟩ := start_fieldMembers fields member inside
    rw [address, address'] at same
    have equal : name = name' := Json.Step.member.inj (List.cons.inj same).1
    exact other (equal ▸ known)

theorem start_cons {name : String} {presence : Presence} {shape : Shape}
    (visited : List Member) :
    ∀ member ∈ (⟨[.member name], presence, shape⟩ : Member) ::
      visited.map (Member.under (.member name)), ∃ rest, member.address = .member name :: rest := by
  intro member inside
  rcases List.mem_cons.mp inside with rfl | below
  · exact ⟨[], rfl⟩
  · obtain ⟨old, _, rfl⟩ := List.mem_map.mp below
    exact ⟨old.address, rfl⟩

theorem start_jsonCons {name : String} {json : Json} {written : List (Address × Json)} :
    ∀ entry ∈ ([.member name], json) :: written.map (Json.under (.member name)),
      ∃ rest, entry.1 = .member name :: rest := by
  intro entry inside
  rcases List.mem_cons.mp inside with rfl | below
  · exact ⟨[], rfl⟩
  · obtain ⟨old, _, rfl⟩ := List.mem_map.mp below
    exact ⟨old.1, rfl⟩

/-- **The members of a record agree** when each agrees with what is written for it, and no name
comes twice. -/
theorem Describes.agree {unseen : Address → Prop} {fields : List (String × Presence × Outline)}
    {entries : List (String × Json)} (describes : Describes unseen fields entries)
    (distinct : (fields.map Prod.fst).Nodup) :
    Agree unseen (fieldMembers fields) (Json.fieldMembers entries) := by
  induction describes with
  | nil => exact .nil
  | needs agree blank rest hypothesis =>
    obtain ⟨fresh, distinct⟩ := List.nodup_cons.mp distinct
    exact (agree.cons (.inl rfl) fun _ => blank).append_fieldMembers (start_cons _) start_jsonCons
      (hypothesis distinct) fresh rest.sublist
  | @allows name outline json fields entries agree given rest hypothesis =>
    obtain ⟨fresh, distinct⟩ := List.nodup_cons.mp distinct
    have mandatory : Presence.optional = .required → json.isBlank = outline.shape.isEmpty := nofun
    exact (agree.cons (.inr given) mandatory).append_fieldMembers (start_cons _) start_jsonCons
      (hypothesis distinct) fresh rest.sublist
  | @omits name outline fields entries empty rest hypothesis =>
    obtain ⟨fresh, distinct⟩ := List.nodup_cons.mp distinct
    have none : members outline = [] := empty.elim members_of_scalar members_of_isEmpty
    have here : Agree unseen [⟨[.member name], .optional, outline.shape⟩] [] := .omitted empty
    have all := here.append_fieldMembers (start_cons [])
      (fun _ found => absurd found List.not_mem_nil) (hypothesis distinct) fresh rest.sublist
    show Agree unseen (⟨[.member name], .optional, outline.shape⟩ ::
      ((members outline).map (.under (.member name)) ++ fieldMembers fields)) _
    rw [none]
    exact all

end Outline

end OciBundle
