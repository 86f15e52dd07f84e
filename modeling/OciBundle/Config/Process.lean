/-
**The container's process.**

* `Process`: what is run, as whom and with which rights.
* `User`, `ConsoleSize`, `Rlimit`: its parts.
-/

import OciBundle.Json.Record

namespace OciBundle

open Json (Field Record)

/-- The size of a terminal in characters. -/
structure ConsoleSize where
  height : UInt32
  width : UInt32
  deriving DecidableEq, Inhabited

instance : Record ConsoleSize where
  fields := [
    .always "height" (·.height) fun value size => { size with height := value },
    .always "width" (·.width) fun value size => { size with width := value }]

/-- The identity that a process runs under. -/
structure User where
  uid : UInt32
  gid : UInt32
  additionalGids : List UInt32
  username : String
  deriving DecidableEq, Inhabited

instance : Record User where
  fields := [
    .always "uid" (·.uid) fun value user => { user with uid := value },
    .always "gid" (·.gid) fun value user => { user with gid := value },
    .unlessDefault "additionalGids" (·.additionalGids)
      fun value user => { user with additionalGids := value },
    .unlessDefault "username" (·.username) fun value user => { user with username := value }]

/-- A resource limit of a process. -/
structure Rlimit where
  kind : String
  hard : UInt64
  soft : UInt64
  deriving DecidableEq, Inhabited

instance : Record Rlimit where
  fields := [
    .always "type" (·.kind) fun value limit => { limit with kind := value },
    .always "hard" (·.hard) fun value limit => { limit with hard := value },
    .always "soft" (·.soft) fun value limit => { limit with soft := value }]

/-- The container's process. -/
structure Process where
  terminal : Bool
  consoleSize : Option ConsoleSize
  user : User
  /-- The command line. -/
  args : List String
  /-- The environment, entries of the form `KEY=VALUE`. -/
  env : List String
  /-- The working directory, an absolute path. -/
  cwd : String
  /-- The capabilities, in upper case with `CAP_` in front. -/
  capabilities : List String
  rlimits : List Rlimit
  noNewPrivileges : Bool
  apparmorProfile : String
  oomScoreAdj : Option Int32
  selinuxLabel : String
  deriving DecidableEq, Inhabited

instance : Record Process where
  fields := [
    .unlessDefault "terminal" (·.terminal)
      fun value process => { process with terminal := value },
    .ifPresent "consoleSize" (·.consoleSize)
      fun value process => { process with consoleSize := value },
    .always "user" (·.user) fun value process => { process with user := value },
    .always "args" (·.args) fun value process => { process with args := value },
    .unlessDefault "env" (·.env) fun value process => { process with env := value },
    .always "cwd" (·.cwd) fun value process => { process with cwd := value },
    .unlessDefault "capabilities" (·.capabilities)
      fun value process => { process with capabilities := value },
    .unlessDefault "rlimits" (·.rlimits) fun value process => { process with rlimits := value },
    .unlessDefault "noNewPrivileges" (·.noNewPrivileges)
      fun value process => { process with noNewPrivileges := value },
    .unlessDefault "apparmorProfile" (·.apparmorProfile)
      fun value process => { process with apparmorProfile := value },
    .ifPresent "oomScoreAdj" (·.oomScoreAdj)
      fun value process => { process with oomScoreAdj := value },
    .unlessDefault "selinuxLabel" (·.selinuxLabel)
      fun value process => { process with selinuxLabel := value }]

end OciBundle
