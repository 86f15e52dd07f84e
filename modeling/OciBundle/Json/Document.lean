/-
**Documents: JSON texts as far as they can be read.**

A document keeps the faults of its text at the place where they stand, since a fault only counts
for a reader that comes across it: a value that is passed over is checked less strictly than one
that is kept, and of two faults the first one met decides.

* `Document.skip`: the fault of a value that is passed over.
* `Document.mismatch`: the fault of a value of the wrong type.
* `Document.keep`: the value of a whole text, which nothing but blanks may follow.
-/

import OciBundle.Json.Number

namespace OciBundle.Json

/-- A token with the value that it is kept as, and the fault of passing over it. -/
structure Token (α : Type) where
  kept : Except Fault α
  skipped : Option Fault

/-- The fault of a token where another kind of value is wanted: the token is read first. -/
def Token.refuse {α : Type} (token : Token α) : Fault :=
  match token.kept with
  | .error fault => fault
  | .ok _ => .mismatch

/-- How an object breaks off. -/
structure Break where
  /-- The fault where a name, a comma or the closing brace is missing. -/
  fault : Fault
  /-- The fault for a reader that wants exactly one member and takes no comma behind it. -/
  single : Fault

/-- The same break behind a comma. -/
def Break.behindComma (found : Break) : Break :=
  { found with single := .malformed }

/-- A JSON text as far as it can be read. -/
inductive Document where
  | null
  | bool (token : Token Bool)
  | number (token : Token Number)
  | text (token : Token String)
  /-- The items, and the fault in place of the closing bracket. -/
  | list (items : List Document) (ending : Option Fault)
  /-- The members, and the fault in place of the closing brace. -/
  | object (members : List (Token String × Document)) (ending : Option Break)
  /-- No value. -/
  | broken (fault : Fault)
  deriving Inhabited

namespace Document

/-- The fault of a value of the wrong type: a token is read first. -/
def mismatch : Document → Fault
  | .bool token => token.refuse
  | .number token => token.refuse
  | .text token => token.refuse
  | .broken fault => fault
  | _ => .mismatch

/-- The fault of an ending. -/
def close {α : Type} (value : α) : Option Fault → Except Fault α
  | none => .ok value
  | some fault => .error fault

mutual

/-- Passes over a value. -/
def skip : Document → Except Fault Unit
  | .null => .ok ()
  | .bool token => close () token.skipped
  | .number token => close () token.skipped
  | .text token => close () token.skipped
  | .list items ending => do skipItems items; close () ending
  | .object members ending => do skipMembers members; close () (ending.map Break.fault)
  | .broken fault => .error fault

/-- Passes over items. -/
def skipItems : List Document → Except Fault Unit
  | [] => .ok ()
  | item :: rest => do skip item; skipItems rest

/-- Passes over members. -/
def skipMembers : List (Token String × Document) → Except Fault Unit
  | [] => .ok ()
  | (name, value) :: rest => do close () name.skipped; skip value; skipMembers rest

end

/-- A whole text: its value and the fault of what follows. -/
structure Whole where
  value : Document
  ending : Option Fault

/-- Keeps the value of a whole text. -/
def Whole.keep {α : Type} (decode : Document → Except Fault α) (whole : Whole) : Except Fault α := do
  let value ← decode whole.value
  close value whole.ending

end Document

end OciBundle.Json
