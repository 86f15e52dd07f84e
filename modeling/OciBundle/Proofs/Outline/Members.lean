/-
**The members of outlines and of documents.**

A walk over an outline visits members; a document has members. Both are listed here in order, each
with its address, the steps that lead to it.

* `Outline.members`, `Json.members`: the members of an outline and of a document.
* `walk_eq_map_members`: a walk visits the members, at the texts of their addresses.
-/

import OciBundle.Outline

namespace OciBundle

/-- The steps from a document to one of its members. -/
abbrev Json.Address : Type := List Json.Step

open Json (Address)

namespace Json

/-- A member seen from one step further up. -/
def under (step : Step) (entry : Address × Json) : Address × Json :=
  (step :: entry.1, entry.2)

mutual

/-- All members in a value, each before the ones below it. -/
def members : Json → List (Address × Json)
  | .object entries => fieldMembers entries
  | .list items => itemMembers 0 items
  | _ => []

/-- The members in the items of a list from an index on. -/
def itemMembers (index : Nat) : List Json → List (Address × Json)
  | [] => []
  | item :: rest =>
    (members item).map (under (.item index)) ++ itemMembers (index + 1) rest

/-- The members of an object, each before what is below it. -/
def fieldMembers : List (String × Json) → List (Address × Json)
  | [] => []
  | (name, value) :: rest =>
    ([.member name], value) ::
      ((members value).map (under (.member name)) ++ fieldMembers rest)

end

/-- Whether a value is the empty text or the empty list. -/
def isBlank : Json → Bool
  | .text value => value = ""
  | .list items => items.isEmpty
  | _ => false

end Json

namespace Outline

/-- A member of an outline with its address. -/
structure Member where
  address : Address
  presence : Presence
  shape : Shape
  deriving DecidableEq

namespace Member

/-- A member seen from one step further up. -/
def under (step : Json.Step) (member : Member) : Member :=
  { member with address := step :: member.address }

end Member

mutual

/-- All members of an outline, each before the ones below it. -/
def members : Outline → List Member
  | .record fields => fieldMembers fields
  | .present part => members part
  | .parts items => itemMembers 0 items
  | _ => []

/-- The members in the items of a list from an index on. -/
def itemMembers (index : Nat) : List Outline → List Member
  | [] => []
  | item :: rest => (members item).map (.under (.item index)) ++ itemMembers (index + 1) rest

/-- The members of a record, each before what is below it. -/
def fieldMembers : List (String × Presence × Outline) → List Member
  | [] => []
  | (name, presence, value) :: rest =>
    ⟨[.member name], presence, value.shape⟩ ::
      ((members value).map (.under (.member name)) ++ fieldMembers rest)

end

/-- The text of an address below a path. -/
def addressPath : String → Address → String
  | path, [] => path
  | path, .member name :: rest => addressPath (memberPath path name) rest
  | path, .item index :: rest => addressPath (itemPath path index) rest

/-- What a walk from a path sees of a member. -/
def Member.visit (path : String) (member : Member) : Visit :=
  ⟨addressPath path member.address, member.presence, member.shape⟩

/-! ### Walks -/

mutual

/-- **A walk visits the members**, at the texts of their addresses. -/
theorem walk_eq_map_members (path : String) :
    (outline : Outline) → walk path outline = (members outline).map (Member.visit path)
  | .record fields => by
    rw [walk, members]
    exact walkMembers_eq_map path fields
  | .present part => by
    rw [walk, members]
    exact walk_eq_map_members path part
  | .parts items => by
    rw [walk, members]
    exact walkItems_eq_map path 0 items
  | .scalar | .text _ | .values _ | .dict _ | .absent => rfl

theorem walkItems_eq_map (path : String) (index : Nat) :
    (items : List Outline) → walkItems path index items = (itemMembers index items).map (Member.visit path)
  | [] => rfl
  | item :: rest => by
    rw [walkItems, itemMembers, List.map_append, List.map_map, walk_eq_map_members,
      walkItems_eq_map path (index + 1) rest]
    rfl

theorem walkMembers_eq_map (path : String) :
    (fields : List (String × Presence × Outline)) →
      walkMembers path fields = (fieldMembers fields).map (Member.visit path)
  | [] => rfl
  | (name, presence, value) :: rest => by
    rw [walkMembers, fieldMembers, List.map_cons, List.map_append, List.map_map,
      walk_eq_map_members, walkMembers_eq_map path rest]
    rfl

end

/-- The paths of a walk are the texts of the addresses. -/
theorem map_path_walk (path : String) (outline : Outline) :
    (walk path outline).map Visit.path =
      ((members outline).map Member.address).map (addressPath path) := by
  rw [walk_eq_map_members, List.map_map, List.map_map]
  rfl

/-- What counts as not given has no members. -/
theorem members_of_isEmpty {outline : Outline} (empty : outline.shape.isEmpty = true) :
    members outline = [] := by
  cases outline with
  | parts items =>
    have none : items = [] := List.length_eq_zero_iff.mp (of_decide_eq_true empty)
    rw [none]
    rfl
  | present part => cases empty
  | record fields => cases empty
  | scalar | text _ | values _ | dict _ | absent => rfl

theorem members_of_scalar {outline : Outline} (scalar : outline.shape = .scalar) :
    members outline = [] := by
  cases outline with
  | parts _ | present _ | record _ => cases scalar
  | scalar | text _ | values _ | dict _ | absent => rfl

end Outline

end OciBundle
