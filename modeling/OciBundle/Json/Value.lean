/-
**JSON values as they are written.**

A configuration is written as a tree of members in a fixed order; there is no `null`, since an
absent value is left out, and every number is an integer.

* `Json.member?`: the value of a member.
* `Json.at?`: the value at a path of steps.
-/

namespace OciBundle

/-- A JSON value that can be written. -/
inductive Json where
  | bool (value : Bool)
  | int (value : Int)
  | text (value : String)
  | list (items : List Json)
  | object (members : List (String × Json))
  deriving Inhabited

namespace Json

/-- The value of a member of an object. -/
def member? (name : String) : Json → Option Json
  | .object members => members.lookup name
  | _ => none

/-- An item of a list. -/
def item? (index : Nat) : Json → Option Json
  | .list items => items[index]?
  | _ => none

/-- One step into a value. -/
inductive Step where
  | member (name : String)
  | item (index : Nat)
  deriving DecidableEq

/-- The value that a step leads to. -/
def step? : Step → Json → Option Json
  | .member name, json => json.member? name
  | .item index, json => json.item? index

/-- The value at the end of a path. -/
def at? : List Step → Json → Option Json
  | [], json => some json
  | step :: path, json => (json.step? step).bind (at? path)

end Json

end OciBundle
