/-
**Walks are in pre-order.**

A walk comes by every member once: by a member before the ones below it, by those before the next
member of the same part, and by the items of a list in their order. The addresses of the members are
put together in this order as the outline is, and the order is still seen in the texts of the
addresses below any path, since what is inside of a member is told by its text.

* `Outline.PartAt`, `Outline.mem_members_iff`: the parts of an outline, and their members.
* `Outline.Preordered`, `Outline.preordered_members`: addresses in pre-order; those of an outline.
* `Outline.Block`, `Outline.Preordered.block`: what is inside of a member stands behind it in one
  piece.
* `Outline.InTurn`, `Outline.Preordered.inTurn`: items stand in the order of their numbers.
* `Outline.Walked`, `Outline.walked_record`: all this for the paths of a walk.
* `Config.walked_outline`: the walk over a configuration.
-/

import Mathlib.Data.List.NodupEquivFin
import OciBundle.Proofs.Outline.Paths

namespace OciBundle

open Json (Address)

namespace Outline

variable {name : String} {presence : Presence} {value : Outline}
  {fields : List (String × Presence × Outline)} {items : List Outline}

/-! ### Parts and their members -/

/-- At an address, the outline has a part with the fields. -/
inductive PartAt : Outline → Address → List (String × Presence × Outline) → Prop
  | here {part : List (String × Presence × Outline)} : PartAt (.record part) [] part
  | member {fields part : List (String × Presence × Outline)} {name : String} {presence : Presence}
      {value : Outline} {rest : Address} (known : (name, presence, value) ∈ fields)
      (inner : PartAt value rest part) : PartAt (.record fields) (.member name :: rest) part
  | item {items : List Outline} {part : List (String × Presence × Outline)} {index : Nat}
      {value : Outline} {rest : Address} (known : items[index]? = some value)
      (inner : PartAt value rest part) : PartAt (.parts items) (.item index :: rest) part
  | present {value : Outline} {part : List (String × Presence × Outline)} {address : Address}
      (inner : PartAt value address part) : PartAt (.present value) address part

/-- The addresses of the members of a part. -/
def memberAddresses (base : Address) (part : List (String × Presence × Outline)) : List Address :=
  part.map fun field => base ++ [.member field.1]

theorem memberAddresses_cons {step : Json.Step} {base : Address}
    {part : List (String × Presence × Outline)} :
    memberAddresses (step :: base) part = (memberAddresses base part).map (step :: ·) := by
  rw [memberAddresses, memberAddresses, List.map_map]
  rfl

/-- The members of a record are there in their order. -/
theorem sublist_fieldMembers (fields : List (String × Presence × Outline)) :
    (memberAddresses [] fields).Sublist ((fieldMembers fields).map Member.address) := by
  induction fields with
  | nil => exact .slnil
  | cons field fields hypothesis =>
    obtain ⟨name, presence, value⟩ := field
    rw [map_address_fieldMembers_cons]
    exact (hypothesis.trans (List.sublist_append_right _ _)).cons_cons _

theorem sublist_of_mem_fields (known : (name, presence, value) ∈ fields) :
    ((value.members.map Member.address).map (.member name :: ·)).Sublist
      ((fieldMembers fields).map Member.address) := by
  induction fields with
  | nil => exact absurd known List.not_mem_nil
  | cons field fields hypothesis =>
    obtain ⟨name', presence', value'⟩ := field
    rw [map_address_fieldMembers_cons]
    rcases List.mem_cons.mp known with same | later
    · cases same
      exact ((List.sublist_cons_self _ _).map _).trans (List.sublist_append_left _ _)
    · exact (hypothesis later).trans (List.sublist_append_right _ _)

theorem sublist_of_getElem?_items {start index : Nat} (known : items[index]? = some value) :
    ((value.members.map Member.address).map (.item (start + index) :: ·)).Sublist
      ((itemMembers start items).map Member.address) := by
  induction items generalizing start index with
  | nil => cases known
  | cons item items hypothesis =>
    rw [map_address_itemMembers_cons]
    cases index with
    | zero =>
      cases known
      exact List.sublist_append_left _ _
    | succ index =>
      rw [Nat.add_comm index 1, ← Nat.add_assoc]
      exact (hypothesis known).trans (List.sublist_append_right _ _)

/-- **The members of a part** are among those of the outline, in their order. -/
theorem sublist_members {outline : Outline} {base : Address}
    {part : List (String × Presence × Outline)} (there : outline.PartAt base part) :
    (memberAddresses base part).Sublist (outline.members.map Member.address) := by
  induction there with
  | here => exact sublist_fieldMembers _
  | member known _ inner =>
    rw [memberAddresses_cons]
    exact (inner.map _).trans (sublist_of_mem_fields known)
  | @item items part index value rest known _ inner =>
    rw [memberAddresses_cons, ← Nat.zero_add index]
    exact (inner.map _).trans (sublist_of_getElem?_items known)
  | present _ inner => exact inner

mutual

/-- Each address is the one of a member of some part. -/
theorem exists_partAt : (outline : Outline) → ∀ address ∈ outline.members.map Member.address,
    ∃ base part, outline.PartAt base part ∧ address ∈ memberAddresses base part
  | .record fields => exists_partAt_fields fields
  | .present value => fun address inside => by
    obtain ⟨base, part, there, member⟩ := exists_partAt value address inside
    exact ⟨base, part, .present there, member⟩
  | .parts items => fun address inside => by
    obtain ⟨index, value, base, part, known, there, member⟩ :=
      exists_partAt_items 0 items address inside
    rw [Nat.zero_add] at member
    exact ⟨_, part, .item known there, member⟩
  | .scalar | .text _ | .values _ | .dict _ | .absent => nofun

theorem exists_partAt_items (start : Nat) : (items : List Outline) →
    ∀ address ∈ (itemMembers start items).map Member.address, ∃ index value base part,
      items[index]? = some value ∧ value.PartAt base part ∧
        address ∈ memberAddresses (.item (start + index) :: base) part
  | [] => nofun
  | item :: items => fun address inside => by
    rw [map_address_itemMembers_cons] at inside
    rcases List.mem_append.mp inside with here | later
    · obtain ⟨rest, inner, rfl⟩ := List.mem_map.mp here
      obtain ⟨base, part, there, member⟩ := exists_partAt item rest inner
      refine ⟨0, item, base, part, rfl, there, ?_⟩
      rw [memberAddresses_cons]
      exact List.mem_map_of_mem member
    · obtain ⟨index, value, base, part, known, there, member⟩ :=
        exists_partAt_items (start + 1) items address later
      rw [Nat.add_assoc, Nat.add_comm 1 index] at member
      exact ⟨index + 1, value, base, part, known, there, member⟩

theorem exists_partAt_fields : (fields : List (String × Presence × Outline)) →
    ∀ address ∈ (fieldMembers fields).map Member.address,
      ∃ base part, (Outline.record fields).PartAt base part ∧ address ∈ memberAddresses base part
  | [] => nofun
  | (name, presence, value) :: fields => fun address inside => by
    rw [map_address_fieldMembers_cons] at inside
    rcases List.mem_append.mp inside with here | later
    · obtain ⟨rest, inner, rfl⟩ := List.mem_map.mp here
      rcases List.mem_cons.mp inner with rfl | inner
      · exact ⟨[], _, .here, List.mem_cons_self⟩
      · obtain ⟨base, part, there, member⟩ := exists_partAt value rest inner
        refine ⟨.member name :: base, part, .member List.mem_cons_self there, ?_⟩
        rw [memberAddresses_cons]
        exact List.mem_map_of_mem member
    · obtain ⟨base, part, there, member⟩ := exists_partAt_fields fields address later
      cases there with
      | here => exact ⟨[], _, .here, List.mem_cons_of_mem _ member⟩
      | member known inner => exact ⟨_, part, .member (List.mem_cons_of_mem _ known) inner, member⟩

end

/-- **The members of an outline** are those of its parts. -/
theorem mem_members_iff {outline : Outline} {address : Address} :
    address ∈ outline.members.map Member.address ↔
      ∃ base part, outline.PartAt base part ∧ address ∈ memberAddresses base part :=
  ⟨exists_partAt outline address,
    fun ⟨_, _, there, member⟩ => (sublist_members there).subset member⟩

/-! ### Addresses in pre-order -/

/-- The one address is ahead of the other: they begin with two members, or with an item and a later
one. -/
inductive Ahead : Address → Address → Prop
  | member {name name' : String} {rest rest' : Address} (apart : name ≠ name') :
      Ahead (.member name :: rest) (.member name' :: rest')
  | item {first second : Nat} {rest rest' : Address} (before : first < second) :
      Ahead (.item first :: rest) (.item second :: rest')

/-- **Addresses in pre-order**, as they are put together from those of the parts. -/
inductive Preordered : List Address → Prop
  | nil : Preordered []
  /-- A member comes in front of the ones below it. -/
  | head {below : List Address} (inner : Preordered below) (fresh : [] ∉ below) :
      Preordered ([] :: below)
  | under {addresses : List Address} (step : Json.Step) (inner : Preordered addresses) :
      Preordered (addresses.map (step :: ·))
  /-- All of a member or an item comes in front of all of the later ones. -/
  | append {first second : List Address} (here : Preordered first) (later : Preordered second)
      (ahead : ∀ address ∈ first, ∀ other ∈ second, Ahead address other) :
      Preordered (first ++ second)

mutual

/-- **The addresses of an outline** are in pre-order when no two of them are the same. -/
theorem preordered_members : (outline : Outline) →
    (outline.members.map Member.address).Nodup → Preordered (outline.members.map Member.address)
  | .record fields => preordered_fieldMembers fields
  | .present part => preordered_members part
  | .parts items => preordered_itemMembers 0 items
  | .scalar | .text _ | .values _ | .dict _ | .absent => fun _ => .nil

theorem preordered_itemMembers (start : Nat) : (items : List Outline) →
    ((itemMembers start items).map Member.address).Nodup →
      Preordered ((itemMembers start items).map Member.address)
  | [] => fun _ => .nil
  | item :: items => fun nodup => by
    rw [map_address_itemMembers_cons] at nodup ⊢
    obtain ⟨here, later, _⟩ := List.nodup_append.mp nodup
    refine .append (.under _ (preordered_members item (.of_map _ here)))
      (preordered_itemMembers (start + 1) items later) ?_
    intro address inside other found
    obtain ⟨rest, _, rfl⟩ := List.mem_map.mp inside
    obtain ⟨member, known, rfl⟩ := List.mem_map.mp found
    obtain ⟨index, _, after, starts⟩ := start_itemMembers _ _ member known
    rw [starts]
    exact .item (Nat.lt_of_succ_le after)

theorem preordered_fieldMembers : (fields : List (String × Presence × Outline)) →
    ((fieldMembers fields).map Member.address).Nodup →
      Preordered ((fieldMembers fields).map Member.address)
  | [] => fun _ => .nil
  | (name, presence, value) :: fields => fun nodup => by
    rw [map_address_fieldMembers_cons] at nodup ⊢
    obtain ⟨here, later, distinct⟩ := List.nodup_append.mp nodup
    obtain ⟨fresh, inner⟩ := List.nodup_cons.mp (List.Nodup.of_map _ here)
    refine .append (.under _ (.head (preordered_members value inner) fresh))
      (preordered_fieldMembers fields later) ?_
    intro address inside other found
    obtain ⟨rest, _, rfl⟩ := List.mem_map.mp inside
    obtain ⟨member, known, rfl⟩ := List.mem_map.mp found
    obtain ⟨name', named, rest', starts⟩ := start_fieldMembers fields member known
    obtain ⟨⟨_, presence', value'⟩, field, rfl⟩ := List.mem_map.mp named
    rw [starts]
    refine .member fun same => ?_
    -- A later member of the same name would be at the same address.
    subst same
    exact distinct _ (List.mem_map_of_mem List.mem_cons_self) _
      ((sublist_fieldMembers fields).subset (List.mem_map_of_mem field)) rfl

end

/-! ### What is inside of a member -/

/-- What is inside of a value stands behind it in one piece of the list. -/
def Block {α : Type} (inside : α → α → Prop) (values : List α) (value : α) : Prop :=
  ∃ before below after, values = before ++ value :: (below ++ after) ∧
    (∀ other ∈ below, inside value other) ∧ ∀ other ∈ before ++ after, ¬ inside value other

namespace Block

variable {α β : Type} {inside : α → α → Prop} {values others : List α} {value : α}

theorem append (block : Block inside values value)
    (apart : ∀ other ∈ others, ¬ inside value other) :
    Block inside (values ++ others) value := by
  obtain ⟨before, below, after, rfl, within, outside⟩ := block
  refine ⟨before, below, after ++ others, ?_, within, ?_⟩
  · rw [List.append_assoc, List.cons_append, List.append_assoc]
  · rw [← List.append_assoc]
    exact List.forall_mem_append.mpr ⟨outside, apart⟩

theorem prepend (block : Block inside values value)
    (apart : ∀ other ∈ others, ¬ inside value other) :
    Block inside (others ++ values) value := by
  obtain ⟨before, below, after, rfl, within, outside⟩ := block
  refine ⟨others ++ before, below, after, ?_, within, ?_⟩
  · rw [List.append_assoc]
  · rw [List.append_assoc]
    exact List.forall_mem_append.mpr ⟨apart, outside⟩

/-- Blocks stay blocks when what is inside stays inside. -/
theorem map {inside' : β → β → Prop} {f : α → β}
    (same : ∀ other ∈ values, inside' (f value) (f other) ↔ inside value other)
    (block : Block inside values value) : Block inside' (values.map f) (f value) := by
  obtain ⟨before, below, after, rfl, within, outside⟩ := block
  refine ⟨before.map f, below.map f, after.map f, ?_, ?_, ?_⟩
  · rw [List.map_append, List.map_cons, List.map_append]
  · intro other found
    obtain ⟨old, known, rfl⟩ := List.mem_map.mp found
    exact (same old (by simp [known])).mpr (within old known)
  · rw [← List.map_append]
    intro other found
    obtain ⟨old, known, rfl⟩ := List.mem_map.mp found
    refine fun there => outside old known ((same old ?_).mp there)
    rcases List.mem_append.mp known with known | known
    · simp [known]
    · simp [known]

/-- What is inside of a value are the places from its own to a last one. -/
theorem exists_last (block : Block inside values value) (self : inside value value)
    (nodup : values.Nodup) {place : Nat} (here : values[place]? = some value) :
    ∃ last, ∀ {index : Nat} {other : α}, values[index]? = some other →
      (inside value other ↔ place ≤ index ∧ index ≤ last) := by
  obtain ⟨before, below, after, rfl, within, outside⟩ := block
  have start : (before ++ value :: (below ++ after))[before.length]? = some value := by
    rw [List.getElem?_append_right (Nat.le_refl _), Nat.sub_self]
    rfl
  have same : place = before.length :=
    (List.getElem?_inj (List.getElem?_eq_some_iff.mp here).1 nodup).mp (here.trans start.symm)
  refine ⟨place + below.length, fun {index other} found => ?_⟩
  rcases Nat.lt_trichotomy index place with early | rfl | late
  · rw [List.getElem?_append_left (same ▸ early)] at found
    have apart := outside other (List.mem_append_left _ (List.mem_of_getElem? found))
    exact ⟨fun there => absurd there apart, fun bounds => by omega⟩
  · obtain rfl : value = other := Option.some.inj (here.symm.trans found)
    exact ⟨fun _ => ⟨Nat.le_refl _, Nat.le_add_right _ _⟩, fun _ => self⟩
  · obtain ⟨next, rfl⟩ := Nat.exists_eq_add_of_lt late
    have further : (below ++ after)[next]? = some other := by
      rw [List.getElem?_append_right (by omega)] at found
      have count : place + next + 1 - before.length = next + 1 := by omega
      rw [count] at found
      exact found
    rcases Nat.lt_or_ge next below.length with near | far
    · rw [List.getElem?_append_left near] at further
      exact ⟨fun _ => by omega, fun _ => within other (List.mem_of_getElem? further)⟩
    · rw [List.getElem?_append_right far] at further
      have apart := outside other (List.mem_append_right _ (List.mem_of_getElem? further))
      exact ⟨fun there => absurd there apart, fun bounds => by omega⟩

end Block

/-- Of two addresses, the one ahead of the other, neither goes on behind the other. -/
theorem Ahead.apart {address other : Address} (ahead : Ahead address other) :
    ¬ address <+: other ∧ ¬ other <+: address := by
  cases ahead with
  | member apart => simp [apart, apart.symm]
  | item before => simp [Nat.ne_of_lt before, Nat.ne_of_gt before]

/-- **What is inside of a member** stands behind it in one piece. -/
theorem Preordered.block {addresses : List Address} (preordered : Preordered addresses) :
    ∀ address ∈ addresses, Block (· <+: ·) addresses address := by
  induction preordered with
  | nil => nofun
  | @head below _ fresh hypothesis =>
    intro address inside
    rcases List.mem_cons.mp inside with rfl | lower
    · exact ⟨[], below, [], by simp, fun _ _ => List.nil_prefix, nofun⟩
    · have apart : ∀ other ∈ [[]], ¬ address <+: other := by
        intro other single
        rw [List.mem_singleton.mp single, List.prefix_nil]
        rintro rfl
        exact fresh lower
      exact (hypothesis address lower).prepend apart
  | under step _ hypothesis =>
    intro address inside
    obtain ⟨rest, known, rfl⟩ := List.mem_map.mp inside
    exact (hypothesis rest known).map fun _ _ => by rw [List.cons_prefix_cons, eq_self, true_and]
  | append _ _ ahead here later =>
    intro address inside
    rcases List.mem_append.mp inside with first | second
    · exact (here address first).append fun other found =>
        (ahead address first other found).apart.1
    · exact (later address second).prepend fun other found =>
        (ahead other found address second).apart.2

/-! ### Items in their order -/

/-- Of two addresses in items of one list, the first is not in a later item. -/
def InTurn (address other : Address) : Prop :=
  ∀ base first second, base ++ [.item first] <+: address → base ++ [.item second] <+: other →
    first ≤ second

theorem InTurn.under {address other : Address} (inTurn : InTurn address other) (step : Json.Step) :
    InTurn (step :: address) (step :: other) := by
  intro base first second inside inside'
  cases base with
  | nil =>
    obtain ⟨rfl, _⟩ := List.cons_prefix_cons.mp inside
    obtain ⟨same, _⟩ := List.cons_prefix_cons.mp inside'
    exact Nat.le_of_eq (Json.Step.item.inj same).symm
  | cons common base =>
    exact inTurn base first second (List.cons_prefix_cons.mp inside).2
      (List.cons_prefix_cons.mp inside').2

theorem InTurn.refl (address : Address) : InTurn address address := by
  induction address with
  | nil =>
    intro base first _ inside
    simp at inside
  | cons step _ hypothesis => exact hypothesis.under step

theorem Ahead.inTurn {address other : Address} (ahead : Ahead address other) :
    InTurn address other := by
  rintro base first second ⟨rest, rfl⟩ ⟨rest', rfl⟩
  cases base with
  | nil =>
    cases ahead with
    | item before => exact Nat.le_of_lt before
  | cons common base =>
    -- Both begin with the same step.
    cases ahead with
    | member apart => exact absurd rfl apart
    | item before => exact absurd before (Nat.lt_irrefl _)

theorem Preordered.pairwise_inTurn {addresses : List Address} (preordered : Preordered addresses) :
    addresses.Pairwise InTurn := by
  induction preordered with
  | nil => exact .nil
  | head _ _ hypothesis =>
    refine .cons (fun other _ base first second inside => ?_) hypothesis
    simp at inside
  | under step _ hypothesis =>
    exact List.pairwise_map.mpr (hypothesis.imp fun inTurn => inTurn.under step)
  | append _ _ ahead here later =>
    exact List.pairwise_append.mpr
      ⟨here, later, fun address inside other found => (ahead address inside other found).inTurn⟩

/-- **Items stand in their order.** -/
theorem Preordered.inTurn {addresses : List Address} (preordered : Preordered addresses) {i j : Nat}
    {address other : Address} (here : addresses[i]? = some address)
    (there : addresses[j]? = some other) (before : i ≤ j) : InTurn address other := by
  obtain ⟨short, rfl⟩ := List.getElem?_eq_some_iff.mp here
  obtain ⟨short', rfl⟩ := List.getElem?_eq_some_iff.mp there
  rcases Nat.eq_or_lt_of_le before with rfl | before
  · exact .refl _
  · exact List.pairwise_iff_getElem.mp preordered.pairwise_inTurn i j short short' before

/-! ### Paths in pre-order -/

/-- An address of a member: it begins with a name, and all its names are plain. -/
structure Named (address : Address) : Prop where
  starts : ∃ name rest, address = .member name :: rest
  plain : PlainAddress address

theorem named_of_distinct (distinct : (Outline.record fields).Distinct) :
    ∀ address ∈ (Outline.record fields).members.map Member.address, Named address := by
  intro address inside
  obtain ⟨member, known, rfl⟩ := List.mem_map.mp inside
  obtain ⟨name, _, rest, starts⟩ := start_fieldMembers fields member known
  exact ⟨⟨name, rest, starts⟩, distinct.plain member known⟩

theorem Named.item {address : Address} (named : Named address) (index : Nat) :
    Named (address ++ [.item index]) := by
  obtain ⟨⟨name, rest, rfl⟩, plain⟩ := named
  refine ⟨⟨name, rest ++ [.item index], rfl⟩, fun name inside => ?_⟩
  rcases List.mem_append.mp inside with before | last
  · exact plain name before
  · cases List.mem_singleton.mp last

theorem addressPath_append {root : String} {address rest : Address} :
    addressPath root (address ++ rest) = addressPath (addressPath root address) rest := by
  induction address generalizing root with
  | nil => rfl
  | cons step address hypothesis =>
    cases step with
    | member name | item index => exact hypothesis

theorem addressPath_member {root name : String} {address : Address} :
    addressPath root (address ++ [.member name]) = memberPath (addressPath root address) name :=
  addressPath_append

theorem addressPath_item {root : String} {address : Address} {index : Nat} :
    addressPath root (address ++ [.item index]) = itemPath (addressPath root address) index :=
  addressPath_append

/-- **The text of an address tells what is inside of it**, below any path. -/
theorem inside_addressPath_iff {root : String} {address other : Address} (named : Named address)
    (named' : Named other) :
    Inside (addressPath root address) (addressPath root other) ↔ address <+: other := by
  obtain ⟨⟨name, rest, rfl⟩, plain⟩ := named
  obtain ⟨⟨name', rest', rfl⟩, plain'⟩ := named'
  constructor
  · intro inside
    obtain ⟨below, same⟩ := exists_append_of_inside plain plain' inside
    rw [same]
    exact List.prefix_append _ _
  · rintro ⟨below, same⟩
    rw [← same] at plain' ⊢
    exact inside_addressPath plain plain'

/-- In a list without repetitions, the places of two values are in the order of these. -/
theorem lt_of_pair_sublist {α : Type} {values : List α} {first second : α} (nodup : values.Nodup)
    (pair : [first, second].Sublist values) {place further : Nat}
    (here : values[place]? = some first) (there : values[further]? = some second) :
    place < further := by
  obtain ⟨places, same⟩ := List.sublist_iff_exists_orderEmbedding_getElem?_eq.mp pair
  have place_eq : place = places 0 :=
    (List.getElem?_inj (List.getElem?_eq_some_iff.mp here).1 nodup).mp (here.trans (same 0))
  have further_eq : further = places 1 :=
    (List.getElem?_inj (List.getElem?_eq_some_iff.mp there).1 nodup).mp (there.trans (same 1))
  rw [place_eq, further_eq]
  exact places.lt_iff_lt.mpr Nat.zero_lt_one

section Places

variable {root : String} {addresses : List Address} (named : ∀ address ∈ addresses, Named address)
  (preordered : Preordered addresses) (nodup : (addresses.map (addressPath root)).Nodup)

include named preordered nodup

/-- What is inside of a path are the places from its own to a last one. -/
theorem exists_last_inside {place : Nat} {path : String}
    (here : (addresses.map (addressPath root))[place]? = some path) :
    ∃ last, ∀ {index : Nat} {other : String},
      (addresses.map (addressPath root))[index]? = some other →
      (Inside path other ↔ place ≤ index ∧ index ≤ last) := by
  obtain ⟨address, known, rfl⟩ := List.mem_map.mp (List.mem_of_getElem? here)
  have block : Block Inside (addresses.map (addressPath root)) (addressPath root address) :=
    (preordered.block address known).map fun other found =>
      inside_addressPath_iff (named address known) (named other found)
  exact block.exists_last (inside_self _) nodup here

/-- What is inside of a path comes before a later path that is not. -/
theorem lt_of_inside_of_pair {address next : Address} (pair : [address, next].Sublist addresses)
    (apart : ¬ address <+: next) {inner further : Nat} {other : String}
    (there : (addresses.map (addressPath root))[inner]? = some other)
    (inside : Inside (addressPath root address) other)
    (beyond : (addresses.map (addressPath root))[further]? = some (addressPath root next)) :
    inner < further := by
  have paths := pair.map (addressPath root)
  obtain ⟨place, here⟩ := List.mem_iff_getElem?.mp (paths.subset List.mem_cons_self)
  have early : place < further := lt_of_pair_sublist nodup paths here beyond
  obtain ⟨last, spans⟩ := exists_last_inside named preordered nodup here
  by_contra late
  -- The later path would stand among those inside of the first one.
  have among : Inside (addressPath root address) (addressPath root next) := (spans beyond).mpr
    ⟨Nat.le_of_lt early, Nat.le_trans (Nat.le_of_not_lt late) ((spans there).mp inside).2⟩
  have known : ∀ each ∈ [address, next], Named each := fun each member =>
    named each (pair.subset member)
  exact apart ((inside_addressPath_iff (known _ (by simp)) (known _ (by simp))).mp among)

end Places

/-- Inside of the member at a path, and not the member itself. -/
def Beneath (path other : String) : Prop :=
  Inside path other ∧ other ≠ path

/-- **The paths of a walk** over an outline from a root path on. -/
structure Walked (outline : Outline) (root : String) (paths : List String) : Prop where
  /-- The members of all parts are come by, and nothing else. -/
  complete : ∀ path, path ∈ paths ↔ ∃ base part, outline.PartAt base part ∧
    ∃ field ∈ part, memberPath (addressPath root base) field.1 = path
  /-- No path comes twice. -/
  nodup : paths.Nodup
  /-- What is beneath a member comes after it. -/
  after : ∀ {place inner : Nat} {path other : String}, paths[place]? = some path →
    paths[inner]? = some other → Beneath path other → place < inner
  /-- A member and what is beneath it come before the next members of the same part. -/
  before : ∀ {inner further : Nat} {base : Address} {part : List (String × Presence × Outline)}
    {field next : String × Presence × Outline} {other : String}, outline.PartAt base part →
    [field, next].Sublist part → paths[inner]? = some other →
    Inside (memberPath (addressPath root base) field.1) other →
    paths[further]? = some (memberPath (addressPath root base) next.1) → inner < further
  /-- What is in an item of a list comes before what is in a later item. -/
  inTurn : ∀ {earlier later first second : Nat} {list path other : String}, list ∈ paths →
    paths[earlier]? = some path → paths[later]? = some other →
    Inside (itemPath list first) path → Inside (itemPath list second) other → first < second →
    earlier < later

/-- **A walk over a record** whose members have addresses of their own. -/
theorem walked_record (distinct : (Outline.record fields).Distinct) (root : String) :
    Walked (.record fields) root ((walk root (.record fields)).map Visit.path) := by
  have nodup := nodup_paths distinct root
  have named := named_of_distinct distinct
  have preordered := preordered_members _ distinct.nodup
  rw [map_path_walk] at nodup ⊢
  constructor
  case complete =>
    intro path
    rw [List.mem_map]
    constructor
    · rintro ⟨address, inside, rfl⟩
      obtain ⟨base, part, there, member⟩ := mem_members_iff.mp inside
      obtain ⟨field, known, rfl⟩ := List.mem_map.mp member
      exact ⟨base, part, there, field, known, addressPath_member.symm⟩
    · rintro ⟨base, part, there, field, known, rfl⟩
      exact ⟨base ++ [.member field.1],
        mem_members_iff.mpr ⟨base, part, there, List.mem_map_of_mem known⟩, addressPath_member⟩
  case nodup => exact nodup
  case after =>
    rintro place inner path other here there ⟨inside, apart⟩
    obtain ⟨last, spans⟩ := exists_last_inside named preordered nodup here
    refine Nat.lt_of_le_of_ne ((spans there).mp inside).1 ?_
    rintro rfl
    exact apart (Option.some.inj (there.symm.trans here))
  case before =>
    intro inner further base part field next other known pair there inside beyond
    have addresses : [base ++ [.member field.1], base ++ [.member next.1]].Sublist
        ((Outline.record fields).members.map Member.address) :=
      (pair.map _).trans (sublist_members known)
    have different : base ++ [.member field.1] ≠ base ++ [.member next.1] := by
      simpa using distinct.nodup.sublist addresses
    have apart : ¬ base ++ [.member field.1] <+: base ++ [.member next.1] := fun within =>
      different (within.eq_of_length (by simp))
    rw [← addressPath_member] at inside beyond
    exact lt_of_inside_of_pair named preordered nodup addresses apart there inside beyond
  case inTurn =>
    intro earlier later first second list path other listed here there inside inside' ordered
    obtain ⟨base, known, rfl⟩ := List.mem_map.mp listed
    rw [List.getElem?_map, Option.map_eq_some_iff] at here there
    obtain ⟨address, found, rfl⟩ := here
    obtain ⟨address', found', rfl⟩ := there
    have starts := (inside_addressPath_iff ((named base known).item first)
      (named address (List.mem_of_getElem? found))).mp (addressPath_item ▸ inside)
    have starts' := (inside_addressPath_iff ((named base known).item second)
      (named address' (List.mem_of_getElem? found'))).mp (addressPath_item ▸ inside')
    by_contra late
    have reversed : second ≤ first :=
      preordered.inTurn found' found (Nat.le_of_not_lt late) base second first starts' starts
    omega

/-- The parts of a record and of a list, walked from a root path on. -/
example :
    (walk "spec" (.record [
        needs "root" (.record [needs "path" .scalar]),
        allows "mounts" (.parts [.record [needs "type" .scalar], .record [needs "type" .scalar]])
      ])).map Visit.path =
    ["spec.root", "spec.root.path",
      "spec.mounts", "spec.mounts[0].type", "spec.mounts[1].type"] := by
  decide

end Outline

/-- **A walk over a configuration**, from any root path on, comes by each member once and in
pre-order; and so no member is missing twice. -/
theorem Config.walked_outline (config : Config) (root : String) :
    config.outline.Walked root ((Outline.walk root config.outline).map Outline.Visit.path) ∧
      config.missing.Nodup :=
  ⟨Outline.walked_record config.distinct_outline root, config.nodup_missing⟩

end OciBundle
