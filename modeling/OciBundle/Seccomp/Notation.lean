/-
**The notation of system call rules.**

A rule text is `ACTION:NAME[,NAME...]` with any number of conditions `:INDEX:VALUE:VALUETWO:OP`
behind it. It stands for one rule per name.

* `NameRule`: a rule for a single system call.
* `readAction`, `readArch`, `readOperator`: the short words of the notation.
* `readCondition`, `NameRule.readAll`: a condition, the rules of a text.
-/

import OciBundle.Config.Seccomp
import OciBundle.Rejection
import OciBundle.Text.Separated

namespace OciBundle

/-- A rule for a single system call. -/
structure NameRule where
  name : String
  action : SeccompAction
  args : List ArgCondition
  deriving DecidableEq

namespace SeccompAction

/-- The short word of an action. -/
def word : SeccompAction → String
  | .allow => "allow"
  | .errno => "errno"
  | .kill => "kill"
  | .trace => "trace"
  | .trap => "trap"

end SeccompAction

namespace SeccompArch

/-- The short word of an architecture. -/
def word : SeccompArch → String
  | .x86 => "x86"
  | .amd64 => "amd64"
  | .x32 => "x32"
  | .arm => "arm"
  | .aarch64 => "arm64"
  | .mips => "mips"
  | .mips64 => "mips64"
  | .mips64n32 => "mips64n32"
  | .mipsel => "mipsel"
  | .mipsel64 => "mipsel64"
  | .mipsel64n32 => "mipsel64n32"
  | .ppc => "ppc"
  | .ppc64 => "ppc64"
  | .ppc64le => "ppc64le"
  | .s390 => "s390"
  | .s390x => "s390x"

end SeccompArch

namespace SeccompOperator

/-- The short word of an operator. -/
def word : SeccompOperator → String
  | .notEqual => "NE"
  | .lessThan => "LT"
  | .lessEqual => "LE"
  | .equalTo => "EQ"
  | .greaterEqual => "GE"
  | .greaterThan => "GT"
  | .maskedEqual => "ME"

end SeccompOperator

namespace NameRule

/-- Reads the short word of a vocabulary. -/
def readWord {α : Type} [Vocabulary α] (word : α → String) (subject token : String) :
    Except ParseFault α :=
  match (Vocabulary.all (α := α)).find? (word · = token) with
  | some found => .ok found
  | none => .error (.unrecognized subject token)

/-- Reads the short word of an action. -/
def readAction (token : String) : Except ParseFault SeccompAction :=
  readWord SeccompAction.word "action" token

/-- Reads the short word of an architecture. -/
def readArch (token : String) : Except ParseFault SeccompArch :=
  readWord SeccompArch.word "architecture" token

/-- Reads the short word of an operator. -/
def readOperator (token : String) : Except ParseFault SeccompOperator :=
  readWord SeccompOperator.word "operator" token

/-- Reads a number of a condition; `input` is the whole text. -/
def readNumber (input field name : String) : Except ParseFault UInt64 :=
  (Word.read field).mapError fun _ =>
    .malformed "seccomp argument" input (name ++ " is not a number")

/-- Reads the four fields of a condition; `input` is the whole text. -/
def readFields (input index value valueTwo operator : String) : Except ParseFault ArgCondition := do
  let index ← readNumber input index "index"
  let index ← match Word.ofInt? (Word.toInt index) with
    | some index => .ok index
    | none => .error (.malformed "seccomp argument" input "index out of range")
  let value ← readNumber input value "value"
  let valueTwo ← readNumber input valueTwo "valueTwo"
  let operator ← readOperator operator
  return ⟨index, value, valueTwo, operator.text⟩

/-- Reads a single condition. -/
def readCondition (input : String) : Except ParseFault ArgCondition :=
  match Text.fields ':' input with
  | [index, value, valueTwo, operator] => readFields input index value valueTwo operator
  | fields =>
    .error (.malformed "seccomp argument" input
      ("expected 4 fields, got " ++ toString fields.length))

/-- Reads conditions, four fields each. -/
def readConditions (input : String) : List String → Except ParseFault (List ArgCondition)
  | index :: value :: valueTwo :: operator :: rest => do
    let condition ← readFields input index value valueTwo operator
    let conditions ← readConditions input rest
    return condition :: conditions
  | _ => .ok []

/-- Reads a rule text: one rule for each name. -/
def readAll (input : String) : Except ParseFault (List NameRule) :=
  let fields := Text.fields ':' input
  let miscounted : ParseFault := .malformed "seccomp syscall" input
    ("wrong number of fields: " ++ toString fields.length)
  match fields with
  | action :: names :: conditions => do
    if conditions.length % 4 ≠ 0 then throw miscounted
    let action ← readAction action
    let args ← readConditions input conditions
    let names := Text.items names
    if names.isEmpty then throw (.malformed "seccomp syscall" input "no syscall name")
    return names.map fun name => ⟨name, action, args⟩
  | _ => .error miscounted

end NameRule

end OciBundle
