/-
**Flags about the process.**

* `ProcessFlags.table`: the flags.
* `ProcessFlags.steps`: what they ask for.
* `ProcessFlags.readSize`, `ProcessFlags.readRlimit`: `HEIGHTxWIDTH`, `TYPE:HARD:SOFT`.
-/

import OciBundle.CommandLine.Reading
import OciBundle.Flags.Step

namespace OciBundle

/-- Flags about the process. -/
structure ProcessFlags where
  args : List String
  cwd : Option String
  uid : Option UInt32
  gid : Option UInt32
  username : Option String
  additionalGids : List UInt32
  terminal : Option Bool
  consoleSize : Option String
  noNewPrivileges : Option Bool
  selinuxLabel : Option String
  apparmorProfile : Option String
  oomScoreAdj : Option Int32
  env : List String
  envRemoved : List String
  capabilities : List String
  capabilitiesDropped : List String
  rlimits : List String
  rlimitsRemoved : List String
  privileged : Bool
  deriving DecidableEq, Inhabited

namespace ProcessFlags

/-- The flags. An argument of the process may begin with hyphens. -/
def table : List (Flag ProcessFlags) := [
  { Flag.texts "args" fun value flags => { flags with args := flags.args ++ [value] } with
    hyphens := .all },
  .text "cwd" fun value flags => { flags with cwd := some value },
  .number "uid" fun value flags => { flags with uid := some value },
  .number "gid" fun value flags => { flags with gid := some value },
  .text "username" fun value flags => { flags with username := some value },
  .numbers "additional-gid" fun value flags =>
    { flags with additionalGids := flags.additionalGids ++ [value] },
  .bool "tty" fun value flags => { flags with terminal := some value },
  .text "console-size" fun value flags => { flags with consoleSize := some value },
  .bool "no-new-privileges" fun value flags => { flags with noNewPrivileges := some value },
  .text "selinux-label" fun value flags => { flags with selinuxLabel := some value },
  .text "apparmor" fun value flags => { flags with apparmorProfile := some value },
  .signed "oom-score-adj" fun value flags => { flags with oomScoreAdj := some value },
  .texts "env" fun value flags => { flags with env := flags.env ++ [value] },
  .texts "env-remove" fun value flags => { flags with envRemoved := flags.envRemoved ++ [value] },
  .texts "cap-add" fun value flags => { flags with capabilities := flags.capabilities ++ [value] },
  .texts "cap-drop" fun value flags =>
    { flags with capabilitiesDropped := flags.capabilitiesDropped ++ [value] },
  .texts "rlimit-add" fun value flags => { flags with rlimits := flags.rlimits ++ [value] },
  .texts "rlimit-remove" fun value flags =>
    { flags with rlimitsRemoved := flags.rlimitsRemoved ++ [value] },
  .switch "privileged" fun flags => { flags with privileged := true }]

/-- Reads `HEIGHTxWIDTH`. -/
def readSize (input : String) : Except Failure (UInt32 × UInt32) :=
  match Text.cut 'x' input with
  | some (height, width) => do
    let height ← FlagText.readNumber "--console-size" input height
    let width ← FlagText.readNumber "--console-size" input width
    return (height, width)
  | none => .error (FlagText.wrong "--console-size" input "expected HEIGHTxWIDTH")

/-- Reads `TYPE:HARD:SOFT`. -/
def readRlimit (input : String) : Except Failure (String × UInt64 × UInt64) :=
  match Text.fields ':' input with
  | [kind, hard, soft] => do
    let hard ← FlagText.readNumber "--rlimit-add" input hard
    let soft ← FlagText.readNumber "--rlimit-add" input soft
    return (kind, hard, soft)
  | _ => .error (FlagText.wrong "--rlimit-add" input "expected TYPE:HARD:SOFT")

/-- What the flags ask for. -/
def steps (flags : ProcessFlags) : List Step :=
  (if flags.privileged then [.edit "--privileged" (.process .setPrivileged)] else [])
    ++ (if flags.args = [] then [] else [.edit "--args" (.process (.setArgs flags.args))])
    ++ Step.ofOption "--cwd" (.process ∘ .setCwd) flags.cwd
    ++ Step.ofOption "--uid" (.process ∘ .setUid) flags.uid
    ++ Step.ofOption "--gid" (.process ∘ .setGid) flags.gid
    ++ Step.ofOption "--username" (.process ∘ .setUsername) flags.username
    ++ flags.additionalGids.map (fun gid =>
      .edit "--additional-gid" (.process (.addAdditionalGid gid)))
    ++ Step.ofOption "--tty" (.process ∘ .setTerminal) flags.terminal
    ++ flags.consoleSize.toList.map (fun input =>
      .ofRead (readSize input) fun (height, width) =>
        .edit "--console-size" (.process (.setConsoleSize height width)))
    ++ Step.ofOption "--no-new-privileges" (.process ∘ .setNoNewPrivileges) flags.noNewPrivileges
    ++ Step.ofOption "--selinux-label" (.process ∘ .setSelinuxLabel) flags.selinuxLabel
    ++ Step.ofOption "--apparmor" (.process ∘ .setApparmorProfile) flags.apparmorProfile
    ++ Step.ofOption "--oom-score-adj" (.process ∘ .setOomScoreAdj) flags.oomScoreAdj
    ++ Step.ofTexts "--env" (.process ∘ .addEnvPair) flags.env
    ++ Step.ofTexts "--env-remove" (.process ∘ .removeEnv) flags.envRemoved
    ++ Step.ofTexts "--cap-add" (.process ∘ .addCapability) flags.capabilities
    ++ Step.ofTexts "--cap-drop" (.process ∘ .dropCapability) flags.capabilitiesDropped
    ++ flags.rlimits.map (fun input =>
      .ofRead (readRlimit input) fun (kind, hard, soft) =>
        .edit ("--rlimit-add " ++ input) (.process (.addRlimit kind hard soft)))
    ++ Step.ofTexts "--rlimit-remove" (.process ∘ .removeRlimit) flags.rlimitsRemoved

end ProcessFlags

end OciBundle
