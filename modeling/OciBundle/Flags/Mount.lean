/-
**Flags about mounts and hooks.**

* `MountFlags.table`, `HookFlags.table`: the flags.
* `MountFlags.steps`, `HookFlags.steps`: what they ask for.
* `HookFlags.readTarget`: `STAGE:PATH:VALUE`.
-/

import OciBundle.CommandLine.Reading
import OciBundle.Flags.Step

namespace OciBundle

/-- Flags about mounts. -/
structure MountFlags where
  tmpfs : List String
  binds : List String
  cgroups : Option String
  removed : List String
  deriving DecidableEq, Inhabited

namespace MountFlags

/-- The flags. -/
def table : List (Flag MountFlags) := [
  .texts "tmpfs" fun value flags => { flags with tmpfs := flags.tmpfs ++ [value] },
  .texts "bind" fun value flags => { flags with binds := flags.binds ++ [value] },
  .text "mount-cgroups" fun value flags => { flags with cgroups := some value },
  .texts "mount-remove" fun value flags => { flags with removed := flags.removed ++ [value] }]

/-- What the flags ask for. -/
def steps (flags : MountFlags) : List Step :=
  Step.ofTexts "--tmpfs" (.mount ∘ .addTmpfs) flags.tmpfs
    ++ Step.ofTexts "--bind" (.mount ∘ .addBind) flags.binds
    ++ Step.ofOption "--mount-cgroups" (.mount ∘ .addCgroup) flags.cgroups
    ++ Step.ofTexts "--mount-remove" (.mount ∘ .remove) flags.removed

end MountFlags

/-- Flags about hooks. -/
structure HookFlags where
  prestart : List String
  poststart : List String
  poststop : List String
  env : List String
  timeouts : List String
  deriving DecidableEq, Inhabited

namespace HookFlags

/-- The flags. -/
def table : List (Flag HookFlags) := [
  .texts "hooks-prestart" fun value flags => { flags with prestart := flags.prestart ++ [value] },
  .texts "hooks-poststart" fun value flags =>
    { flags with poststart := flags.poststart ++ [value] },
  .texts "hooks-poststop" fun value flags => { flags with poststop := flags.poststop ++ [value] },
  .texts "hook-env" fun value flags => { flags with env := flags.env ++ [value] },
  .texts "hook-timeout" fun value flags => { flags with timeouts := flags.timeouts ++ [value] }]

/-- Reads `STAGE:PATH:VALUE` with a path that is not empty; the value may hold colons. -/
def readTarget (flag input : String) : Except Failure (HookStage × String × String) :=
  let wrong := FlagText.wrong flag input "expected STAGE:PATH:VALUE"
  match Text.cutTwice ':' input with
  | (stage, some path, some value) =>
    if path = "" then .error wrong
    else do
      let stage ← (HookStage.read stage).mapError fun fault =>
        (Failure.because fault.message).within (flag ++ " " ++ input)
      return (stage, path, value)
  | _ => .error wrong

/-- Reads `STAGE:PATH:SECS`. -/
def readTimeout (input : String) : Except Failure (HookStage × String × Int32) := do
  let (stage, path, seconds) ← readTarget "--hook-timeout" input
  let seconds ← (Word.read seconds).mapError fun fault =>
    (Failure.because fault.message).within ("--hook-timeout " ++ input ++ ": invalid seconds")
  return (stage, path, seconds)

/-- What the flags ask for. -/
def steps (flags : HookFlags) : List Step :=
  Step.ofTexts "--hooks-prestart" (.hook ∘ .addText .prestart) flags.prestart
    ++ Step.ofTexts "--hooks-poststart" (.hook ∘ .addText .poststart) flags.poststart
    ++ Step.ofTexts "--hooks-poststop" (.hook ∘ .addText .poststop) flags.poststop
    ++ flags.env.map (fun input =>
      .ofRead (readTarget "--hook-env" input) fun (stage, path, pair) =>
        .edit ("--hook-env " ++ input) (.hook (.addEnv stage path pair)))
    ++ flags.timeouts.map (fun input =>
      .ofRead (readTimeout input) fun (stage, path, seconds) =>
        .edit ("--hook-timeout " ++ input) (.hook (.addTimeout stage path seconds)))

end HookFlags

end OciBundle
