/-
**Testing a runtime with a bundle.**

* `RuntimeFlags`: the options of the command, with their table of flags.
* `RuntimeFlags.client`: how the runtime is driven.
* `RuntimeFlags.run`: the outcome and the calls. No call is made for a bundle that is not valid.
-/

import OciBundle.Compliance
import OciBundle.Lifecycle

namespace OciBundle

/-- The options of the command that tests a runtime. -/
structure RuntimeFlags where
  runtime : Option String
  /-- The directory of the bundle, which has to be given. -/
  bundle : Option String
  id : Option String
  timeoutSecs : Option UInt64
  deriving DecidableEq, Inhabited

/-- The programs that can be called, each by its name. -/
abbrev Programs := String → Runtime

namespace RuntimeFlags

/-- The flags. -/
def table : List (Flag RuntimeFlags) := [
  .text "runtime" fun value flags => { flags with runtime := some value },
  .path "bundle" fun value flags => { flags with bundle := some value },
  .text "id" fun value flags => { flags with id := some value },
  .number "timeout" fun value flags => { flags with timeoutSecs := some value }]

/-- Options with a bundle. -/
def check (flags : RuntimeFlags) : Except UsageFault RuntimeFlags :=
  if flags.bundle.isSome then .ok flags else .error .missingFlag

/-- The time limit of a call in seconds when none is given. -/
def defaultTimeoutSecs : UInt64 := 30

/-- How the runtime is driven, when the clock shows some seconds as the wait for the stop begins.
While waiting, the state is asked for ten times a second. -/
def client (flags : RuntimeFlags) (settings : Settings) (bundle id : String) (clockSecs : Int64) :
    Client :=
  let timeoutSecs := (flags.timeoutSecs <|> settings.runtimeTimeoutSecs).getD defaultTimeoutSecs
  { program := (flags.runtime <|> settings.runtime).getD "runc"
    bundle, timeoutSecs, clockSecs
    id := flags.id.getD id
    patience := 10 * timeoutSecs.toNat }

/-- Tests a runtime; `id` names the container when no flag does, and `clockSecs` are the seconds on
the clock when the wait for the stop begins. -/
def run (flags : RuntimeFlags) (settings : Settings) (tree : FileTree) (programs : Programs)
    (id : String) (clockSecs : Int64) : List Call × Outcome :=
  let path := flags.bundle.getD ""
  let approval := Bundle.approve tree path
  match approval.result with
  | .error _ => ([], approval)
  | .ok () =>
    match tree.resolve path with
    | .error fault =>
      ([], .failed ((Failure.because fault.message).within ("failed to resolve bundle " ++ path)))
    | .ok bundle =>
      let client := flags.client settings bundle id clockSecs
      let (calls, result) := client.test (client.reach (programs client.program))
      let out := match result with
        | .ok () => "Runtime test of " ++ client.id ++ " succeeded.\n"
        | .error _ => ""
      (calls, ⟨result, out, approval.err⟩)

end RuntimeFlags

end OciBundle
