/-
**Flags of a command.**

A command has a table of flags; each sets a part of the command's options, which have a type of
their own.

* `UsageFault`: why a command line is refused.
* `Flag`: a flag with its names, what it takes and what it sets.
* `Flag.switch`, `Flag.text`, `Flag.path`, `Flag.bool`, `Flag.number` and their kin: the kinds of
  flags.
* `Flag.within`: a flag of a part as a flag of the whole.
-/

import OciBundle.Word

namespace OciBundle

/-- Why a command line is refused. -/
inductive UsageFault where
  /-- There is no such flag, or a word stands where none is taken. -/
  | unknownArgument
  /-- A flag lacks its value, or its path is empty. -/
  | missingValue
  /-- A value is none of the words that the flag takes. -/
  | unknownValue
  /-- A value is no number of the flag's range. -/
  | malformedValue
  /-- A flag that takes no value is given one. -/
  | unexpectedValue
  /-- A flag is given twice, or together with one that excludes it. -/
  | conflict
  /-- A flag that has to be given is missing. -/
  | missingFlag
  /-- No command is named. -/
  | missingCommand
  /-- There is no such command. -/
  | unknownCommand
  /-- The help text is asked for. -/
  | helpWanted
  deriving DecidableEq

/-- How many values a flag takes. -/
inductive Arity where
  | none | one | optional
  deriving DecidableEq

/-- Which words with a leading hyphen a flag takes as its value when they follow it. -/
inductive HyphenRule where
  | none | negatives | all
  deriving DecidableEq

/-- A flag that sets a part of `σ`. -/
structure Flag (σ : Type) where
  /-- The name that follows two hyphens. -/
  name : String
  /-- The letter that follows a single hyphen. -/
  letter : Option Char
  arity : Arity
  hyphens : HyphenRule
  /-- Whether the flag may be given more than once. -/
  repeatable : Bool
  /-- Sets the value; a value that is not given is empty. -/
  set : String → σ → Except UsageFault σ

namespace Flag

variable {σ τ α : Type}

/-- A flag that takes no value. -/
def switch (name : String) (set : σ → σ) : Flag σ where
  name := name
  letter := none
  arity := .none
  hyphens := .none
  repeatable := false
  set _ options := .ok (set options)

/-- A flag that takes a value, which is read first. -/
def reading (name : String) (read : String → Except UsageFault α) (set : α → σ → σ) : Flag σ where
  name := name
  letter := none
  arity := .one
  hyphens := .none
  repeatable := false
  set value options := (read value).map fun value => set value options

/-- A flag that takes a text. -/
def text (name : String) (set : String → σ → σ) : Flag σ :=
  reading name .ok set

/-- A flag that may be given many times, with a text each. -/
def texts (name : String) (add : String → σ → σ) : Flag σ :=
  { text name add with repeatable := true }

/-- A flag that takes a text or nothing. -/
def optionalText (name : String) (set : String → σ → σ) : Flag σ :=
  { text name set with arity := .optional }

/-- A flag that takes a path. -/
def path (name : String) (set : String → σ → σ) : Flag σ :=
  reading name (fun value => if value = "" then .error .missingValue else .ok value) set

/-- Reads a truth value. -/
def readBool (value : String) : Except UsageFault Bool :=
  if value = "true" then .ok true
  else if value = "false" then .ok false
  else .error .unknownValue

/-- A flag that takes a truth value. -/
def bool (name : String) (set : Bool → σ → σ) : Flag σ :=
  reading name readBool set

/-- Reads a word. The text is one of a signed number of 64 bits, unless the word may be greater. -/
def readWord [Word α] (value : String) : Except UsageFault α :=
  let word? : Option α :=
    if Word.high α ≤ Word.high Int64 then
      (Word.read (α := Int64) value).toOption.bind fun number => Word.ofInt? (Word.toInt number)
    else (Word.read value).toOption
  match word? with
  | some word => .ok word
  | none => .error .malformedValue

/-- A flag that takes a number. -/
def number [Word α] (name : String) (set : α → σ → σ) : Flag σ :=
  reading name readWord set

/-- A flag that may be given many times, with a number each. -/
def numbers [Word α] (name : String) (add : α → σ → σ) : Flag σ :=
  { number name add with repeatable := true }

/-- A flag that takes a number, which may be negative. -/
def signed [Word α] (name : String) (set : α → σ → σ) : Flag σ :=
  { number name set with hyphens := .negatives }

/-- The flag that asks for help. -/
def help : Flag σ where
  name := "help"
  letter := some 'h'
  arity := .none
  hyphens := .none
  repeatable := false
  set _ _ := .error .helpWanted

/-- A flag that also has a letter. -/
def withLetter (letter : Char) (flag : Flag σ) : Flag σ :=
  { flag with letter := some letter }

/-- A flag of a part as a flag of the whole. -/
def within (get : τ → σ) (put : σ → τ → τ) (flag : Flag σ) : Flag τ :=
  { flag with set := fun value options =>
      (flag.set value (get options)).map fun part => put part options }

end Flag

end OciBundle
