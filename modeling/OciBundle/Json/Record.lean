/-
**Records: types written as objects with fixed members.**

A record is described by the list of its fields. It is written as an object of its members in
that order; a field decides whether its member is written. It is kept from an object, in which
members may come in any order and unknown ones are passed over, or from a list of its fields'
values, which may break off early. What is missing or `null` takes the default value.

* `Field.always`, `Field.unlessDefault`, `Field.ifPresent`: the three kinds of fields.
* `Record`: a type with fields, and its JSON form.
-/

import OciBundle.Json.Codec

namespace OciBundle.Json

/-- A member of a record of type `σ`. -/
structure Field (σ : Type) where
  /-- The member's name. -/
  name : String
  /-- The member as it is written; none is left out. -/
  encode : σ → Option Json
  /-- The record with the member that a document holds. -/
  decode : Document → σ → Except Fault σ

namespace Field

variable {σ α : Type} [Coded α]

/-- Keeps a value, or the default one for `null`. -/
def decodeOrDefault [Inhabited α] : Document → Except Fault α
  | .null => .ok default
  | document => Coded.decode document

/-- Keeps a value, or none for `null`. -/
def decodeOption : Document → Except Fault (Option α)
  | .null => .ok none
  | document => (Coded.decode document).map some

/-- A member that is always written. -/
def always [Inhabited α] (name : String) (get : σ → α) (set : α → σ → σ) : Field σ where
  name
  encode record := some (Coded.encode (get record))
  decode document record := (decodeOrDefault document).map (set · record)

/-- A member that is left out when it has the default value. -/
def unlessDefault [Inhabited α] [DecidableEq α] (name : String) (get : σ → α) (set : α → σ → σ) :
    Field σ where
  name
  encode record := if get record = default then none else some (Coded.encode (get record))
  decode document record := (decodeOrDefault document).map (set · record)

/-- A member that is left out when there is no value. -/
def ifPresent (name : String) (get : σ → Option α) (set : Option α → σ → σ) : Field σ where
  name
  encode record := (get record).map Coded.encode
  decode document record := (decodeOption document).map (set · record)

end Field

/-- A type with fields. -/
class Record (σ : Type) extends Inhabited σ where
  /-- The members in order. -/
  fields : List (Field σ)

namespace Record

variable {σ : Type}

/-- The members that are written. -/
def encodeMembers (fields : List (Field σ)) (record : σ) : List (String × Json) :=
  fields.filterMap fun field => (field.encode record).map (field.name, ·)

/-- Takes the members of an object one after the other. A known member may not be given twice,
which is found before its value is looked at. -/
def decodeMembers (fields : List (Field σ)) :
    List String → σ → List (Token String × Document) → Except Fault σ
  | _, record, [] => .ok record
  | seen, record, (token, value) :: rest => do
    let name ← token.kept
    match fields.find? (·.name = name) with
    | none =>
      value.skip
      decodeMembers fields seen record rest
    | some field =>
      if name ∈ seen then .error .mismatch
      else
        let record ← field.decode value record
        decodeMembers fields (name :: seen) record rest

/-- Takes the items of a list as the fields' values. -/
def decodeItems : List (Field σ) → σ → List Document → Except Fault σ
  | _, record, [] => .ok record
  | [], _, _ :: _ => .error .malformed
  | field :: fields, record, item :: rest => do
    let record ← field.decode item record
    decodeItems fields record rest

/-- Keeps a record. -/
def decode [Record σ] : Document → Except Fault σ
  | .object members ending => do
    let record ← decodeMembers (fields (σ := σ)) [] default members
    Document.close record (ending.map Break.fault)
  | .list items ending => do
    let record ← decodeItems (fields (σ := σ)) default items
    Document.close record ending
  | document => .error document.mismatch

instance [Record σ] : Coded σ where
  encode record := .object (encodeMembers fields record)
  decode := decode

end Record

end OciBundle.Json
