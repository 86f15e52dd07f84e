/-
**What a record writes for the members of its outline.**

A record is written field by field, and its outline is made member by member. Each lemma here is
about one kind of field with the kind of outline that goes with it.

* `Flat`: types whose values have no members when they are written.
* `Describes.needsText`, `Describes.allowsParts`, …: a field in front of others.
* `agree_record`: a record whose fields describe its outline.
-/

import OciBundle.Proofs.Json.Lossless
import OciBundle.Proofs.Outline.Agreement

namespace OciBundle

open Json (Address Coded Record encode)

namespace Json

/-- Types whose values have no members when they are written. -/
class Flat (α : Type) [Coded α] : Prop where
  members_encode : ∀ value : α, (encode value).members = []

export Flat (members_encode)

instance : Flat Bool := ⟨fun _ => rfl⟩

instance : Flat String := ⟨fun _ => rfl⟩

instance (α : Type) [Word α] : Flat α := ⟨fun _ => rfl⟩

theorem itemMembers_map_encode {α : Type} [Coded α] [Flat α] (start : Nat) (values : List α) :
    itemMembers start (values.map encode) = [] := by
  induction values generalizing start with
  | nil => rfl
  | cons value values hypothesis =>
    rw [List.map_cons, itemMembers, members_encode, hypothesis]
    rfl

instance (α : Type) [Coded α] [Flat α] : Flat (List α) := ⟨itemMembers_map_encode 0⟩

end Json

open Json (Flat)

namespace Outline

variable {unseen : Address → Prop}

/-! ### Values without members -/

theorem agree_flat {α : Type} [Coded α] [Flat α] (value : α) :
    Agree unseen [] (encode value).members := by
  rw [Json.members_encode]
  exact .nil

/-- Members without members of their own. -/
theorem address_of_mem_fieldMembers {entries : List (String × Json)}
    (flat : ∀ entry ∈ entries, entry.2.members = []) :
    ∀ entry ∈ Json.fieldMembers entries, ∃ key, entry.1 = [.member key] := by
  induction entries with
  | nil => exact fun _ member => absurd member List.not_mem_nil
  | cons first entries hypothesis =>
    obtain ⟨here, later⟩ := List.forall_mem_cons.mp flat
    intro entry inside
    rw [Json.fieldMembers, here] at inside
    rcases List.mem_cons.mp inside with rfl | below
    · exact ⟨first.1, rfl⟩
    · exact hypothesis later entry below

/-- A field that writes values without members. -/
def FlatField {σ : Type} (field : Json.Field σ) : Prop :=
  ∀ record json, field.encode record = some json → json.members = []

theorem flatField_always {σ α : Type} [Coded α] [Inhabited α] [Flat α] {name : String}
    {get : σ → α} {set : α → σ → σ} : FlatField (.always name get set) := by
  intro record json written
  cases written
  exact Json.members_encode _

theorem flatField_ifPresent {σ α : Type} [Coded α] [Flat α] {name : String}
    {get : σ → Option α} {set : Option α → σ → σ} : FlatField (.ifPresent name get set) := by
  intro record json written
  obtain ⟨value, _, rfl⟩ := Option.map_eq_some_iff.mp written
  exact Json.members_encode _

/-- A record whose fields write values without members. -/
theorem address_of_mem_encode {σ : Type} [Record σ] {record : σ}
    (flat : ∀ field ∈ (Record.fields : List (Json.Field σ)), FlatField field) :
    ∀ entry ∈ (encode record).members, ∃ key, entry.1 = [.member key] := by
  refine address_of_mem_fieldMembers fun entry inside => ?_
  obtain ⟨field, known, written⟩ := List.mem_filterMap.mp inside
  obtain ⟨json, encoded, rfl⟩ := Option.map_eq_some_iff.mp written
  exact flat field known record json encoded

/-- **A dictionary** whose entries are passed over. -/
theorem agree_dict (dict : Dict String) (passed : ∀ key, unseen [.member key]) :
    Agree unseen [] (encode dict).members := by
  refine .of_unseen fun entry found => ?_
  obtain ⟨key, address⟩ : ∃ key, entry.1 = [.member key] := by
    refine address_of_mem_fieldMembers (fun other inside => ?_) entry found
    obtain ⟨_, _, rfl⟩ := List.mem_map.mp inside
    rfl
  rw [address]
  exact ⟨List.cons_ne_nil _ _, passed key⟩

/-- **A list of parts** whose members are passed over. -/
theorem agree_loose {α : Type} [Coded α] {values : List α}
    (shallow : ∀ value : α, ∀ entry ∈ (encode value).members, ∃ key, entry.1 = [.member key])
    (passed : ∀ index key, unseen [.item index, .member key]) :
    Agree unseen [] (encode values).members := by
  have items (start : Nat) : Agree unseen [] (Json.itemMembers start (values.map encode)) := by
    induction values generalizing start with
    | nil => exact .nil
    | cons value values hypothesis =>
      have rest := hypothesis (start + 1)
      have first : Agree unseen [] ((encode value).members.map (Json.under (.item start))) := by
        refine .of_unseen fun entry found => ?_
        obtain ⟨inner, below, rfl⟩ := List.mem_map.mp found
        obtain ⟨key, address⟩ := shallow value inner below
        rw [Json.under, address]
        exact ⟨List.cons_ne_nil _ _, passed start key⟩
      exact first.append rest (fun _ none => absurd none List.not_mem_nil)
        fun _ none => absurd none List.not_mem_nil
  exact items 0

/-! ### Fields -/

namespace Describes

variable {σ : Type} {record : σ} {fields : List (Json.Field σ)} {name : String}
  {members : List (String × Presence × Outline)}

/-- What is seen of a value one step below a record. -/
abbrev under (unseen : Address → Prop) (name : String) : Address → Prop :=
  fun address => unseen (.member name :: address)

section Always

variable {α : Type} [Coded α] [Inhabited α] {get : σ → α} {set : α → σ → σ}

theorem always {outline : Outline}
    (agree : Agree (under unseen name) outline.members (encode (get record)).members)
    (blank : (encode (get record)).isBlank = outline.shape.isEmpty)
    (rest : Describes unseen members (Record.encodeMembers fields record)) :
    Describes unseen (Outline.needs name outline :: members)
      (Record.encodeMembers (.always name get set :: fields) record) := by
  rw [Record.encodeMembers_cons_some rfl]
  exact .needs agree blank rest

theorem needsScalar [Flat α] (solid : (encode (get record)).isBlank = false)
    (rest : Describes unseen members (Record.encodeMembers fields record)) :
    Describes unseen (Outline.needs name .scalar :: members)
      (Record.encodeMembers (.always name get set :: fields) record) :=
  always (agree_flat _) solid rest

end Always

theorem needsText {get : σ → String} {set : String → σ → σ}
    (rest : Describes unseen members (Record.encodeMembers fields record)) :
    Describes unseen (Outline.needs name (.text (get record)) :: members)
      (Record.encodeMembers (.always name get set :: fields) record) :=
  always (agree_flat _) rfl rest

theorem needsValues {α : Type} [Coded α] [Flat α] {get : σ → List α} {set : List α → σ → σ}
    (rest : Describes unseen members (Record.encodeMembers fields record)) :
    Describes unseen (Outline.needs name (ofValues (get record)) :: members)
      (Record.encodeMembers (.always name get set :: fields) record) := by
  refine always (agree_flat _) ?_ rest
  show (Json.list ((get record).map encode)).isBlank = decide ((get record).length = 0)
  cases get record <;> rfl

theorem needsPart {α : Type} [Record α] {get : σ → α} {set : α → σ → σ}
    {parts : List (String × Presence × Outline)}
    (agree : Agree (under unseen name) (Outline.members (.record parts))
      (encode (get record)).members)
    (rest : Describes unseen members (Record.encodeMembers fields record)) :
    Describes unseen (Outline.needs name (.record parts) :: members)
      (Record.encodeMembers (.always name get set :: fields) record) :=
  always agree rfl rest

section UnlessDefault

variable {α : Type} [Coded α] [Inhabited α] [DecidableEq α] {get : σ → α} {set : α → σ → σ}

theorem unlessDefault {outline : Outline}
    (agree : Agree (under unseen name) outline.members (encode (get record)).members)
    (empty : outline.shape.isEmpty = true ↔ get record = default)
    (rest : Describes unseen members (Record.encodeMembers fields record)) :
    Describes unseen (Outline.allows name outline :: members)
      (Record.encodeMembers (.unlessDefault name get set :: fields) record) := by
  by_cases fresh : get record = default
  · rw [Record.encodeMembers_cons_none (if_pos fresh)]
    exact .omits (.inr (empty.mpr fresh)) rest
  · rw [Record.encodeMembers_cons_some (if_neg fresh)]
    exact .allows agree (.inr (Bool.eq_false_iff.mpr fun given => fresh (empty.mp given))) rest

theorem allowsScalar [Flat α]
    (rest : Describes unseen members (Record.encodeMembers fields record)) :
    Describes unseen (Outline.allows name .scalar :: members)
      (Record.encodeMembers (.unlessDefault name get set :: fields) record) := by
  by_cases fresh : get record = default
  · rw [Record.encodeMembers_cons_none (if_pos fresh)]
    exact .omits (.inl rfl) rest
  · rw [Record.encodeMembers_cons_some (if_neg fresh)]
    exact .allows (agree_flat _) (.inl rfl) rest

end UnlessDefault

theorem allowsText {get : σ → String} {set : String → σ → σ}
    (rest : Describes unseen members (Record.encodeMembers fields record)) :
    Describes unseen (Outline.allows name (.text (get record)) :: members)
      (Record.encodeMembers (.unlessDefault name get set :: fields) record) :=
  unlessDefault (agree_flat _) decide_eq_true_iff rest

section Lists

variable {α : Type} [Coded α] [DecidableEq α] {get : σ → List α} {set : List α → σ → σ}

theorem allowsLoose
    (agree : Agree (under unseen name) [] (encode (get record)).members)
    (rest : Describes unseen members (Record.encodeMembers fields record)) :
    Describes unseen (Outline.allows name (ofValues (get record)) :: members)
      (Record.encodeMembers (.unlessDefault name get set :: fields) record) :=
  unlessDefault agree (decide_eq_true_iff.trans List.length_eq_zero_iff) rest

theorem allowsValues [Flat α]
    (rest : Describes unseen members (Record.encodeMembers fields record)) :
    Describes unseen (Outline.allows name (ofValues (get record)) :: members)
      (Record.encodeMembers (.unlessDefault name get set :: fields) record) :=
  allowsLoose (agree_flat _) rest

theorem allowsParts {outline : α → Outline}
    (each : ∀ index, ∀ value, Agree (under unseen name <| .item index :: ·)
      (outline value).members (encode value).members)
    (rest : Describes unseen members (Record.encodeMembers fields record)) :
    Describes unseen (Outline.allows name (ofParts outline (get record)) :: members)
      (Record.encodeMembers (.unlessDefault name get set :: fields) record) := by
  refine unlessDefault (agree_items (fun index value _ => each index value) 0) ?_ rest
  exact decide_eq_true_iff.trans (by rw [List.length_map, List.length_eq_zero_iff]; rfl)

end Lists

theorem allowsDict {get : σ → Dict String} {set : Dict String → σ → σ}
    (passed : ∀ key, unseen [.member name, .member key])
    (rest : Describes unseen members (Record.encodeMembers fields record)) :
    Describes unseen (Outline.allows name (ofDict (get record)) :: members)
      (Record.encodeMembers (.unlessDefault name get set :: fields) record) := by
  refine unlessDefault (agree_dict _ passed) ?_ rest
  show decide ((get record).entries.length = 0) = true ↔ get record = .empty
  rw [decide_eq_true_iff, List.length_eq_zero_iff]
  exact ⟨fun none => Dict.ext none, fun same => congrArg Dict.entries same⟩

section IfPresent

variable {α : Type} [Coded α] {get : σ → Option α} {set : Option α → σ → σ}

theorem allowsOption [Flat α]
    (rest : Describes unseen members (Record.encodeMembers fields record)) :
    Describes unseen (Outline.allows name .scalar :: members)
      (Record.encodeMembers (.ifPresent name get set :: fields) record) := by
  cases present : get record with
  | none =>
    rw [Record.encodeMembers_cons_none (congrArg (Option.map encode) present)]
    exact .omits (.inl rfl) rest
  | some value =>
    rw [Record.encodeMembers_cons_some (congrArg (Option.map encode) present)]
    exact .allows (agree_flat value) (.inl rfl) rest

theorem allowsPart {outline : α → Outline}
    (each : ∀ value, Agree (under unseen name) (outline value).members (encode value).members)
    (rest : Describes unseen members (Record.encodeMembers fields record)) :
    Describes unseen (Outline.allows name (ofOption outline (get record)) :: members)
      (Record.encodeMembers (.ifPresent name get set :: fields) record) := by
  cases present : get record with
  | none =>
    rw [Record.encodeMembers_cons_none (congrArg (Option.map encode) present)]
    exact .omits (.inr rfl) rest
  | some value =>
    rw [Record.encodeMembers_cons_some (congrArg (Option.map encode) present)]
    exact .allows (each value) (.inr rfl) rest

end IfPresent

end Describes

/-- **A record agrees with its outline** when its fields describe the members under distinct
names. -/
theorem agree_record {σ : Type} [Record σ] {record : σ}
    {parts : List (String × Presence × Outline)}
    (describes : Describes unseen parts (Record.encodeMembers Record.fields record))
    (distinct : (parts.map Prod.fst).Nodup) :
    Agree unseen (members (.record parts)) (encode record).members :=
  describes.agree distinct

end Outline

end OciBundle
