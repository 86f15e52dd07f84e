/-
**Writing JSON texts.**

A written text is indented by tabs, one item or member a line; an empty list or object stays on
its line. The text ends with a line end.

* `Json.render`: the characters of a value at a depth.
* `Json.document`: the text of a document.
-/

import OciBundle.Json.Quote
import OciBundle.Json.Value

namespace OciBundle.Json

/-- A line end and the tabs of a depth. -/
def newLine (depth : Nat) : List Char :=
  '\n' :: List.replicate depth '\t'

/-- The decimal digits of an integer. -/
def integerText (value : Int) : List Char :=
  (toString value).toList

mutual

/-- The characters of a value; its own lines are one step deeper than `depth`. -/
def render (depth : Nat) : Json → List Char
  | .bool true => ['t', 'r', 'u', 'e']
  | .bool false => ['f', 'a', 'l', 's', 'e']
  | .int value => integerText value
  | .text value => Quote.encode value
  | .list [] => ['[', ']']
  | .list (item :: rest) =>
    '[' :: newLine (depth + 1) ++ render (depth + 1) item ++ renderItems (depth + 1) rest
      ++ newLine depth ++ [']']
  | .object [] => ['\x7b', '\x7d']
  | .object ((name, value) :: rest) =>
    '\x7b' :: newLine (depth + 1) ++ Quote.encode name ++ [':', ' '] ++ render (depth + 1) value
      ++ renderMembers (depth + 1) rest ++ newLine depth ++ ['\x7d']

/-- Further items, each behind a comma. -/
def renderItems (depth : Nat) : List Json → List Char
  | [] => []
  | item :: rest => ',' :: newLine depth ++ render depth item ++ renderItems depth rest

/-- Further members, each behind a comma. -/
def renderMembers (depth : Nat) : List (String × Json) → List Char
  | [] => []
  | (name, value) :: rest =>
    ',' :: newLine depth ++ Quote.encode name ++ [':', ' '] ++ render depth value
      ++ renderMembers depth rest

end

/-- The text of a document. -/
def document (json : Json) : String :=
  String.ofList (render 0 json ++ ['\n'])

end OciBundle.Json
