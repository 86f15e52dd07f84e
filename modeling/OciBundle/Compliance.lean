/-
**Validating a bundle.**

A violation counts as an error from the wanted level's severity on, and as a warning below it.

* `Bundle.examine`: the violations of the bundle in a directory.
* `Compliance.reportAll`: the lines of violations for a level, and how many of them are errors.
* `ValidateFlags.run`: what the command prints, and whether the bundle complies.
* `Bundle.approve`: the check before a bundle is run: no violation of a demand.
-/

import OciBundle.CommandLine.Reading
import OciBundle.Settings.Basic
import OciBundle.Validation.Bundle

namespace OciBundle

/-- Why a bundle cannot be validated, as a failure. The fault of a path stands behind the message
that holds it. -/
def BundleFault.toFailure (fault : BundleFault) : Failure :=
  match fault with
  | .configNotFound _ => .because fault.message
  | .access _ cause => (Failure.because cause.message).within fault.message
  | .invalidPath _ => (Failure.because invalidArgument).within fault.message
  | .refused cause => .ofDocument (.json cause)

/-- The violations of the bundle in a directory. -/
def Bundle.examine (tree : FileTree) (path : String) (host : Option Host) :
    Except Failure (List Violation) :=
  let found := do (← Bundle.load tree path host).validate tree
  found.mapError fun fault => fault.toFailure.within ("failed to validate bundle " ++ path)

/-- The result of a command and what it has printed. -/
structure Outcome where
  result : Except Breakdown Unit
  out : String
  err : String

namespace Outcome

/-- A command that fails without a word. -/
def failed (failure : Failure) : Outcome := ⟨.error (.failed failure), "", ""⟩

end Outcome

namespace Compliance

/-- Whether a violation counts as an error. -/
def isError (level : Level) (violation : Violation) : Bool :=
  level.severity ≤ violation.level.severity

/-- The line of a violation behind a word. -/
def line (word : String) (violation : Violation) : String :=
  word ++ ": " ++ violation.text specificationVersion ++ "\n"

/-- The line of a violation for a level. -/
def report (level : Level) (violation : Violation) : String :=
  line (if isError level violation then "error" else "warning") violation

/-- Reports violations one after the other: how many of them count as errors, and the lines. -/
def reportAll (level : Level) : List Violation → Nat × String
  | [] => (0, "")
  | violation :: rest =>
    let (errors, lines) := reportAll level rest
    (if isError level violation then errors + 1 else errors, report level violation ++ lines)

/-- Reads the level that is wanted; without one it is what is demanded. -/
def readLevel : Option String → Except Failure Level
  | none => .ok .must
  | some name =>
    match Level.ofName? name with
    | some level => .ok level
    | none =>
      .error ((Failure.because (Level.unknownMessage name)).within
        ("invalid compliance level " ++ Text.quoted name))

end Compliance

open Compliance (line reportAll readLevel)

/-! ### The command -/

/-- The options of the command that validates a bundle. -/
structure ValidateFlags where
  path : String
  hostSpecific : Bool
  level : Option String
  deriving DecidableEq

instance : Inhabited ValidateFlags := ⟨⟨".", false, none⟩⟩

namespace ValidateFlags

/-- The flags. -/
def table : List (Flag ValidateFlags) := [
  .path "path" fun value flags => { flags with path := value },
  .switch "host-specific" fun flags => { flags with hostSpecific := true },
  .text "compliance-level" fun value flags => { flags with level := some value }]

/-- The outcome for violations that are found in a directory. -/
def judge (level : Level) (path : String) (violations : List Violation) : Outcome :=
  let (errors, lines) := reportAll level violations
  if errors = 0 then ⟨.ok (), "Bundle validation succeeded.\n", lines⟩
  else
    let failure := Failure.because (toString errors ++ " violation(s) at or above " ++ level.text
      ++ " found in " ++ path)
    ⟨.error (.failed failure), "", lines⟩

/-- Validates a bundle. -/
def run (flags : ValidateFlags) (settings : Settings) (host : Host) (tree : FileTree) : Outcome :=
  let outcome := do
    let level ← readLevel (flags.level <|> settings.complianceLevel)
    let target := host.target (settings.hostSpecific || flags.hostSpecific)
    let violations ← Bundle.examine tree flags.path target
    return judge level flags.path violations
  match outcome with
  | .ok outcome => outcome
  | .error failure => .failed failure

end ValidateFlags

/-! ### The check before a run -/

/-- Checks that no demand is violated: the lines that are printed, and the failure if there is one.
-/
def Bundle.approve (tree : FileTree) (path : String) : Outcome :=
  match Bundle.examine tree path none with
  | .error failure => .failed failure
  | .ok violations =>
    match Violation.atLeast .must violations with
    | [] => ⟨.ok (), "", ""⟩
    | errors =>
      ⟨.error (.failed (.because ("bundle " ++ path ++ " is not valid"))), "",
        String.join (errors.map (line "error"))⟩

end OciBundle
