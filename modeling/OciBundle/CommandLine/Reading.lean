/-
**Reading a command line.**

A flag is written `--name value`, `--name=value`, `-l value`, `-lvalue` or `-l=value`; letters of
flags without values may stand together. A value that follows its flag is settled when the next flag
comes or the line ends, so that an unknown argument in between is found before a wrong value.

* `Token.ofText`: what a word of a command line is.
* `Reading.scan`: reads flags up to the first word that belongs to none.
* `Flag.readAll`: reads a command line that holds flags only.
-/

import OciBundle.CommandLine.Flag
import OciBundle.Text.Separated

namespace OciBundle

/-- A word of a command line. -/
inductive Token where
  /-- The two hyphens that end the flags. -/
  | separator
  /-- A flag by its name, with an attached value. -/
  | name (name : String) (value : Option String)
  /-- Flags by their letters, the last one with an attached value. -/
  | letters (letters : List Char)
  /-- Anything else. -/
  | word

namespace Token

/-- What a word of a command line is. -/
def ofText (text : String) : Token :=
  match text.toList with
  | ['-', '-'] => .separator
  | '-' :: '-' :: rest =>
    match Text.cutChars '=' rest with
    | some (before, value) => .name (String.ofList before) (some (String.ofList value))
    | none => .name (String.ofList rest) none
  | '-' :: letter :: rest => .letters (letter :: rest)
  | _ => .word

/-- What a number may hold at the place that is reached. -/
structure NumberShape where
  /-- Whether a digit has come. -/
  started : Bool
  dotted : Bool
  exponent : Bool
  deriving DecidableEq

/-- Whether characters go on a number: digits, a dot that is not the first character, and an exponent
mark that is neither the first nor the last one. -/
def continuesNumber (shape : NumberShape) : List Char → Bool
  | [] => true
  | char :: rest =>
    if char.isDigit then continuesNumber { shape with started := true } rest
    else if char = '.' ∧ shape.started ∧ ¬ shape.dotted ∧ ¬ shape.exponent then
      continuesNumber { shape with dotted := true } rest
    else if (char = 'e' ∨ char = 'E') ∧ shape.started ∧ ¬ shape.exponent ∧ rest ≠ [] then
      continuesNumber { shape with exponent := true } rest
    else false

/-- Whether letters behind a hyphen are a number. -/
def isNumber (letters : List Char) : Bool :=
  continuesNumber ⟨false, false, false⟩ letters

end Token

namespace HyphenRule

/-- Whether a word that follows a flag is taken as its value. -/
def takes (rule : HyphenRule) : Token → Bool
  | .word => true
  | .letters letters =>
    match rule with
    | .none => false
    | .negatives => Token.isNumber letters
    | .all => true
  | .separator | .name .. => rule = .all

end HyphenRule

/-- A command line as far as it is read. -/
structure Reading (σ : Type) where
  options : σ
  /-- The names of the flags that are set. -/
  given : List String
  /-- The last flag, with its value once it has come, as long as it is not settled. -/
  pending : Option (Flag σ × Option String)

namespace Reading

variable {σ : Type}

/-- Nothing is read yet. -/
def start (options : σ) : Reading σ := ⟨options, [], none⟩

/-- Sets a flag. -/
def accept (reading : Reading σ) (flag : Flag σ) (value : Option String) :
    Except UsageFault (Reading σ) := do
  if value.isNone ∧ flag.arity = .one then throw .missingValue
  if reading.given.contains flag.name ∧ ¬ flag.repeatable then throw .conflict
  let options ← flag.set (value.getD "") reading.options
  return ⟨options, flag.name :: reading.given, none⟩

/-- Sets the last flag. -/
def settle (reading : Reading σ) : Except UsageFault (Reading σ) :=
  match reading.pending with
  | none => .ok reading
  | some (flag, value) => reading.accept flag value

/-- Takes a flag that no value is attached to. -/
def open? (reading : Reading σ) (flag : Flag σ) : Except UsageFault (Reading σ) := do
  let reading ← reading.settle
  if flag.arity = .none then reading.accept flag none
  else return { reading with pending := some (flag, none) }

/-- Takes a flag with an attached value. -/
def attach (reading : Reading σ) (flag : Flag σ) (value : String) :
    Except UsageFault (Reading σ) := do
  (← reading.settle).accept flag (some value)

/-- Reads a flag by its name. -/
def byName (table : List (Flag σ)) (reading : Reading σ) (name : String) (value : Option String) :
    Except UsageFault (Reading σ) :=
  match table.find? (·.name = name), value with
  | none, _ => .error .unknownArgument
  | some flag, none => reading.open? flag
  | some flag, some value =>
    if flag.arity = .none then .error .unexpectedValue else reading.attach flag value

/-- Reads flags by their letters. -/
def byLetters (table : List (Flag σ)) (reading : Reading σ) :
    List Char → Except UsageFault (Reading σ)
  | [] => .ok reading
  | letter :: rest =>
    match table.find? (·.letter = some letter) with
    | none => .error .unknownArgument
    | some flag =>
      if flag.arity = .none then do byLetters table (← reading.open? flag) rest
      else match rest with
        | [] => reading.open? flag
        | '=' :: value => reading.attach flag (String.ofList value)
        | value => reading.attach flag (String.ofList value)

/-- The value that the last flag waits for, if a word is one. -/
def take? (reading : Reading σ) (text : String) : Option (Reading σ) :=
  match reading.pending with
  | some (flag, none) =>
    if flag.hyphens.takes (.ofText text) then
      some { reading with pending := some (flag, some text) }
    else none
  | _ => none

/-- Reads flags up to the first word that belongs to none; that word and what follows it are left.
Nothing may follow two hyphens. -/
def scan (table : List (Flag σ)) :
    Reading σ → List String → Except UsageFault (Reading σ × List String)
  | reading, [] => .ok (reading, [])
  | reading, text :: rest =>
    match reading.take? text with
    | some reading => scan table reading rest
    | none =>
      match Token.ofText text with
      | .separator => if rest = [] then .ok (reading, []) else .error .unknownArgument
      | .name name value => do scan table (← reading.byName table name value) rest
      | .letters letters => do scan table (← reading.byLetters table letters) rest
      | .word => .ok (reading, text :: rest)

end Reading

/-- Reads a command line that holds flags only. -/
def Flag.readAll {σ : Type} (table : List (Flag σ)) (start : σ) (line : List String) :
    Except UsageFault σ := do
  let (reading, rest) ← Reading.scan table (.start start) line
  if rest ≠ [] then throw .unknownArgument
  return (← reading.settle).options

end OciBundle
