/-
**Rules about the process.**

* `Process.check`: the working directory, the environment, the capabilities and the limits. Where a
  configuration is compared with a host, the host has to support the capabilities.
-/

import OciBundle.Capability
import OciBundle.Validation.Basic

namespace OciBundle.Process

open Violation (require each)

/-- The working directory, when it is given, is absolute. -/
def checkCwd (process : Process) : List Violation :=
  require (process.cwd = "" || Text.isAbsolute process.cwd)
    ⟨.procCwdAbs, "process.cwd", "cwd " ++ Text.quoted process.cwd ++ " is not an absolute path"⟩

/-- Entries of the environment have the form `KEY=VALUE`. -/
def checkEnv (process : Process) : List Violation :=
  each process.env fun index entry =>
    require (isEnvPair entry)
      ⟨.procEnvInvalid, Outline.itemPath "process.env" index,
        "env " ++ Text.quoted entry ++ " is not in KEY=VALUE form"⟩

/-- Capabilities are known, given once, and supported where that counts. -/
def checkCapabilities (process : Process) (host : Option Host) : List Violation :=
  each process.capabilities fun index capability =>
    let subject := Outline.itemPath "process.capabilities" index
    match Capability.check capability none with
    | .error rejection => [⟨.procCapInvalid, subject, rejection.message⟩]
    | .ok () =>
      if (process.capabilities.take index).contains capability then
        [⟨.procCapDuplicate, subject, "capability " ++ capability ++ " is duplicated"⟩]
      else
        require (Capability.isSupported capability host)
          ⟨.procCapNotSupported, subject,
            "capability " ++ capability ++ " is not supported on the current host"⟩

/-- A limit has a known kind that no earlier one has. -/
def checkRlimitKind (process : Process) (index : Nat) (limit : Rlimit) : List Violation :=
  let subject := Outline.itemPath "process.rlimits" index
  if ¬ rlimitKinds.contains limit.kind then
    [⟨.procRlimitTypeInvalid, subject, "rlimit type " ++ Text.quoted limit.kind ++ " is invalid"⟩]
  else
    require (!(process.rlimits.take index).any (·.kind = limit.kind))
      ⟨.procRlimitDuplicate, subject, "rlimit " ++ limit.kind ++ " is duplicated"⟩

/-- The soft limit is not above the hard one. -/
def checkRlimitBounds (index : Nat) (limit : Rlimit) : List Violation :=
  require (limit.soft ≤ limit.hard)
    ⟨.procRlimitSoftExceedsHard, Outline.itemPath "process.rlimits" index,
      (Conflict.softLimitExceedsHard limit.kind limit.soft limit.hard).message⟩

/-- Limits with a kind have a known one, given once, and their bounds in order. -/
def checkRlimits (process : Process) : List Violation :=
  each process.rlimits fun index limit =>
    if limit.kind = "" then []
    else process.checkRlimitKind index limit ++ checkRlimitBounds index limit

/-- The rules about a process. -/
def check (process : Process) (host : Option Host) : List Violation :=
  process.checkCwd ++ process.checkEnv ++ process.checkCapabilities host ++ process.checkRlimits

end OciBundle.Process
