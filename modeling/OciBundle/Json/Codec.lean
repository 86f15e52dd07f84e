/-
**Types with a JSON form.**

* `Coded`: a type that is written as a JSON value and kept from a document.
* Instances for truth values, texts, machine words, lists and dictionaries of texts.
-/

import OciBundle.Dict
import OciBundle.Json.Document
import OciBundle.Json.Value
import OciBundle.Word

namespace OciBundle.Json

/-- A type with a JSON form. -/
class Coded (α : Type) where
  /-- The value as it is written. -/
  encode : α → Json
  /-- The value that a document holds. -/
  decode : Document → Except Fault α

export Coded (encode decode)

/-- A truth value is a literal. -/
def decodeBool : Document → Except Fault Bool
  | .bool token => token.kept
  | document => .error document.mismatch

instance : Coded Bool := ⟨.bool, decodeBool⟩

/-- A text is a string. -/
def decodeText : Document → Except Fault String
  | .text token => token.kept
  | document => .error document.mismatch

instance : Coded String := ⟨.text, decodeText⟩

/-- A machine word is an integer of its range. -/
def decodeWord (α : Type) [Word α] : Document → Except Fault α
  | .number token => do
    match ← token.kept with
    | .integer value => (Word.ofInt? value).elim (.error .mismatch) .ok
    | .real => .error .mismatch
  | document => .error document.mismatch

instance (priority := low) (α : Type) [Word α] : Coded α :=
  ⟨fun word => .int (Word.toInt word), decodeWord α⟩

/-- A list is kept item by item. -/
def decodeList {α : Type} [Coded α] : Document → Except Fault (List α)
  | .list items ending => do
    let values ← items.mapM decode
    Document.close values ending
  | document => .error document.mismatch

instance (α : Type) [Coded α] : Coded (List α) :=
  ⟨fun values => .list (values.map encode), decodeList⟩

/-- An entry of a dictionary of texts. -/
def decodeEntry (member : Token String × Document) : Except Fault (String × String) := do
  let name ← member.1.kept
  let value ← decodeText member.2
  return (name, value)

/-- A dictionary is an object; a repeated name keeps its last value. -/
def decodeDict : Document → Except Fault (Dict String)
  | .object members ending => do
    let entries ← members.mapM decodeEntry
    Document.close (Dict.ofList entries) (ending.map Break.fault)
  | document => .error document.mismatch

/-- The entries of a dictionary as members. -/
def encodeDict (dict : Dict String) : Json :=
  .object (dict.entries.map fun (name, value) => (name, .text value))

instance : Coded (Dict String) := ⟨encodeDict, decodeDict⟩

end OciBundle.Json
