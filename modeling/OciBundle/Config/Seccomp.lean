/-
**The filter on system calls.**

* `Seccomp`: a default action, architectures and an ordered list of rules.
* `SyscallRule`: an action for the system calls of some names.
* `ArgCondition`: a condition on one argument of a call.
-/

import OciBundle.Json.Record

namespace OciBundle

open Json (Field Record)

/-- A condition on one argument of a system call. -/
structure ArgCondition where
  index : UInt32
  value : UInt64
  valueTwo : UInt64
  operator : String
  deriving DecidableEq, Inhabited

instance : Record ArgCondition where
  fields := [
    .always "index" (·.index) fun value condition => { condition with index := value },
    .always "value" (·.value) fun value condition => { condition with value := value },
    .unlessDefault "valueTwo" (·.valueTwo)
      fun value condition => { condition with valueTwo := value },
    .always "op" (·.operator) fun value condition => { condition with operator := value }]

/-- An action for the system calls of some names. -/
structure SyscallRule where
  names : List String
  action : String
  args : List ArgCondition
  deriving DecidableEq, Inhabited

instance : Record SyscallRule where
  fields := [
    .always "names" (·.names) fun value rule => { rule with names := value },
    .always "action" (·.action) fun value rule => { rule with action := value },
    .unlessDefault "args" (·.args) fun value rule => { rule with args := value }]

/-- Whether a rule lists a name. -/
def SyscallRule.covers (rule : SyscallRule) (name : String) : Bool :=
  rule.names.contains name

/-- The filter on system calls. -/
structure Seccomp where
  defaultAction : String
  architectures : List String
  syscalls : List SyscallRule
  deriving DecidableEq, Inhabited

instance : Record Seccomp where
  fields := [
    .always "defaultAction" (·.defaultAction)
      fun value seccomp => { seccomp with defaultAction := value },
    .unlessDefault "architectures" (·.architectures)
      fun value seccomp => { seccomp with architectures := value },
    .unlessDefault "syscalls" (·.syscalls) fun value seccomp => { seccomp with syscalls := value }]

end OciBundle
