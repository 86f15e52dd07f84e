/-
**Steps that build a configuration.**

* `Step`: an edit with the label that a rejection is reported under, a text that cannot be read, or
  the demand for a default action on system calls.
* `Step.run`, `Step.runAll`: the draft after one step, after steps up to the first that fails.
* `FlagText`: the notations of values that several flags share.
-/

import OciBundle.Draft
import OciBundle.Failure

namespace OciBundle

/-- A step that builds a configuration. -/
inductive Step where
  /-- An edit; `label` names the flag that asks for it. -/
  | edit (label : String) (edit : Edit)
  /-- A value that cannot be read. -/
  | refuse (failure : Failure)
  /-- System call rules need a default action. -/
  | needDefaultAction
  deriving DecidableEq

namespace Step

/-- The default action on system calls; none is empty. -/
def defaultAction (config : Config) : String :=
  (config.seccomp.map (·.defaultAction)).getD ""

/-- The message when a default action is missing. -/
def defaultActionMessage : String :=
  "--seccomp-arch/--seccomp-syscalls need a default action: "
    ++ "pass --seccomp-default or use a template that sets one"

/-- The draft after a step. -/
def run (draft : Draft) : Step → Except Failure Draft
  | .edit label change =>
    match draft.apply change with
    | .ok (after, _) => .ok after
    | .error rejection => .error ((Failure.because rejection.message).within label)
  | .refuse failure => .error failure
  | .needDefaultAction =>
    if defaultAction draft.config = "" then .error (.because defaultActionMessage) else .ok draft

/-- The draft after steps; the first that fails ends them. -/
def runAll (draft : Draft) (steps : List Step) : Except Failure Draft :=
  steps.foldlM run draft

/-- The step that a value asks for once it is read. -/
def ofRead {α : Type} (read : Except Failure α) (step : α → Step) : Step :=
  match read with
  | .ok value => step value
  | .error failure => .refuse failure

/-- An edit that is made when a flag is given. -/
def ofOption {α : Type} (label : String) (edit : α → Edit) (value : Option α) : List Step :=
  value.toList.map fun value => .edit label (edit value)

/-- The edits that the values of a flag ask for; a rejection shows the value. -/
def ofTexts (flag : String) (edit : String → Edit) (values : List String) : List Step :=
  values.map fun value => .edit (flag ++ " " ++ value) (edit value)

end Step

namespace FlagText

/-- A failure to read a value; `reason` says what is wrong. -/
def wrong (flag input reason : String) : Failure :=
  .because (flag ++ " " ++ input ++ ": " ++ reason)

/-- Reads a number of a value. -/
def readNumber {α : Type} [Word α] (flag input field : String) : Except Failure α :=
  (Word.read field).mapError fun fault =>
    (Failure.because fault.message).within
      (flag ++ " " ++ input ++ ": " ++ Text.quoted field ++ " is not a number")

/-- Reads `KEY=VALUE` with a key that is not empty. -/
def readPair (flag input : String) : Except Failure (String × String) :=
  match Text.cut '=' input with
  | some (key, value) =>
    if key = "" then .error (wrong flag input "expected KEY=VALUE") else .ok (key, value)
  | none => .error (wrong flag input "expected KEY=VALUE")

/-- Reads `NAME:NUMBER`; the last colon counts. -/
def readNamedNumber (flag input : String) : Except Failure (String × UInt64) :=
  match Text.cutLast ':' input with
  | some (name, value) => do return (name, ← readNumber flag input value)
  | none => .error (wrong flag input "expected NAME:NUMBER")

end FlagText

end OciBundle
