/-
**Edits of the process.**

* `ProcessEdit.apply`: the configuration after an edit. A configuration that is made for a host
  takes only capabilities that the host supports.
* `Config.privileged`: all capabilities, and no confinement.
-/

import OciBundle.Capability
import OciBundle.Config.Update
import OciBundle.Keyed

namespace OciBundle

/-- An edit of the process. -/
inductive ProcessEdit where
  | setUid (uid : UInt32)
  | setGid (gid : UInt32)
  | setUsername (username : String)
  | addAdditionalGid (gid : UInt32)
  | clearAdditionalGids
  | setCwd (cwd : String)
  | setArgs (args : List String)
  | setTerminal (terminal : Bool)
  | setConsoleSize (height width : UInt32)
  | setNoNewPrivileges (noNewPrivileges : Bool)
  | setSelinuxLabel (label : String)
  | setApparmorProfile (profile : String)
  | setOomScoreAdj (score : Int32)
  | addEnv (key value : String)
  /-- A variable given as `KEY=VALUE`. -/
  | addEnvPair (pair : String)
  | removeEnv (key : String)
  | clearEnv
  | addCapability (name : String)
  | dropCapability (name : String)
  | clearCapabilities
  | addRlimit (kind : String) (hard soft : UInt64)
  | removeRlimit (kind : String)
  | clearRlimits
  | setPrivileged
  deriving DecidableEq

/-- Whether an entry of an environment belongs to a key. -/
def isEnvOf (key entry : String) : Bool :=
  Text.startsWith (key ++ "=") entry

/-- A configuration whose process has all capabilities that can be had, no labels and no filter on
system calls. -/
def Config.privileged (config : Config) (host : Option Host) : Config :=
  let capabilities := Capability.available host
  { config with
    process := { config.process with capabilities, selinuxLabel := "", apparmorProfile := "" }
    linux := config.linux.map fun linux => { linux with seccomp := none } }

namespace ProcessEdit

/-- Sets a variable in place of the one with its key, or at the end. -/
def putEnv (config : Config) (key value : String) : Except Rejection Config :=
  if key = "" ∨ key.toList.contains '=' then
    .error (.malformed "env" key "key must be non-empty and must not contain '='")
  else
    .ok (config.mapProcess fun process =>
      { process with env := Keyed.put (isEnvOf key) (key ++ "=" ++ value) process.env })

/-- The configuration after an edit, made for a host or not. -/
def apply (host : Option Host) (config : Config) : ProcessEdit → Except Rejection Config
  | .setUid uid =>
    .ok (config.mapProcess fun process => { process with user := { process.user with uid } })
  | .setGid gid =>
    .ok (config.mapProcess fun process => { process with user := { process.user with gid } })
  | .setUsername username =>
    .ok (config.mapProcess fun process => { process with user := { process.user with username } })
  | .addAdditionalGid gid =>
    .ok (config.mapProcess fun process =>
      { process with user := { process.user with
        additionalGids := Keyed.addNew gid process.user.additionalGids } })
  | .clearAdditionalGids =>
    .ok (config.mapProcess fun process =>
      { process with user := { process.user with additionalGids := [] } })
  | .setCwd cwd =>
    if Text.isAbsolute cwd then .ok (config.mapProcess fun process => { process with cwd })
    else .error (.conflict (.relativeCwd cwd))
  | .setArgs args => .ok (config.mapProcess fun process => { process with args })
  | .setTerminal terminal => .ok (config.mapProcess fun process => { process with terminal })
  | .setConsoleSize height width =>
    .ok (config.mapProcess fun process => { process with consoleSize := some { height, width } })
  | .setNoNewPrivileges noNewPrivileges =>
    .ok (config.mapProcess fun process => { process with noNewPrivileges })
  | .setSelinuxLabel label =>
    .ok (config.mapProcess fun process => { process with selinuxLabel := label })
  | .setApparmorProfile profile =>
    .ok (config.mapProcess fun process => { process with apparmorProfile := profile })
  | .setOomScoreAdj score =>
    if -1000 ≤ score ∧ score ≤ 1000 then
      .ok (config.mapProcess fun process => { process with oomScoreAdj := some score })
    else .error (.conflict (.oomScoreOutOfRange score))
  | .addEnv key value => putEnv config key value
  | .addEnvPair pair =>
    match Text.cut '=' pair with
    | some (key, value) => putEnv config key value
    | none => .error (.malformed "env" pair "expected KEY=VALUE")
  | .removeEnv key =>
    .ok (config.mapProcess fun process =>
      { process with env := process.env.filter fun entry => !isEnvOf key entry })
  | .clearEnv => .ok (config.mapProcess fun process => { process with env := [] })
  | .addCapability name => do
    let capability := Capability.normalize name
    Capability.check capability host
    return config.mapProcess fun process =>
      { process with capabilities := Keyed.addNew capability process.capabilities }
  | .dropCapability name => do
    let capability := Capability.normalize name
    Capability.check capability none
    return config.mapProcess fun process =>
      { process with capabilities := process.capabilities.filter (· ≠ capability) }
  | .clearCapabilities => .ok (config.mapProcess fun process => { process with capabilities := [] })
  | .addRlimit kind hard soft =>
    if ¬ rlimitKinds.contains kind then .error (.unrecognized "rlimit" kind)
    else if soft > hard then .error (.conflict (.softLimitExceedsHard kind soft hard))
    else
      .ok (config.mapProcess fun process =>
        { process with rlimits := Keyed.put (·.kind = kind) { kind, hard, soft } process.rlimits })
  | .removeRlimit kind =>
    .ok (config.mapProcess fun process =>
      { process with rlimits := process.rlimits.filter (·.kind ≠ kind) })
  | .clearRlimits => .ok (config.mapProcess fun process => { process with rlimits := [] })
  | .setPrivileged => .ok (config.privileged host)

end ProcessEdit

end OciBundle
