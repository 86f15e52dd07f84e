/-
**Edits of the filter on system calls.**

* `SeccompEdit.apply`: the configuration after an edit, with the decisions that were taken on the
  rules that were added.
* `Seccomp.addRule`: merges one rule, unless the default action says the same.
* `Seccomp.removeRule`, `Seccomp.removeName`: removal of a name from some, from all rules.
-/

import OciBundle.Config.Update
import OciBundle.Keyed
import OciBundle.Seccomp.Merge

namespace OciBundle

namespace Seccomp

/-- The decision on a rule. A rule without conditions is not needed when the default action says
the same. -/
def decide (seccomp : Seccomp) (rule : NameRule) : Decision :=
  if rule.args = [] ∧ seccomp.defaultAction = rule.action.text then .nothing
  else rule.decide seccomp.syscalls

/-- Merges a rule. -/
def addRule (seccomp : Seccomp) (rule : NameRule) : Seccomp :=
  { seccomp with syscalls := rule.apply (seccomp.decide rule) seccomp.syscalls }

/-- Merges rules one after the other, and lists the decisions. -/
def addRules (seccomp : Seccomp) : List NameRule → Seccomp × List Decision
  | [] => (seccomp, [])
  | rule :: rest =>
    let (after, decisions) := (seccomp.addRule rule).addRules rest
    (after, seccomp.decide rule :: decisions)

/-- Drops the rules that are left without names. -/
def dropNameless (rules : List SyscallRule) : List SyscallRule :=
  rules.filter fun listed => listed.names ≠ []

/-- Removes a rule's name from the rules with its action and conditions. -/
def removeRule (seccomp : Seccomp) (rule : NameRule) : Seccomp :=
  { seccomp with syscalls := dropNameless (seccomp.syscalls.map fun listed =>
      if listed.action = rule.action.text ∧ listed.args = rule.args then
        { listed with names := listed.names.filter (· ≠ rule.name) }
      else listed) }

/-- Removes a name from all rules. -/
def removeName (seccomp : Seccomp) (name : String) : Seccomp :=
  { seccomp with syscalls := dropNameless (seccomp.syscalls.map fun listed =>
      { listed with names := listed.names.filter (· ≠ name) }) }

/-- Removes the rules with an action. -/
def removeAction (seccomp : Seccomp) (action : SeccompAction) : Seccomp :=
  { seccomp with syscalls := seccomp.syscalls.filter (·.action ≠ action.text) }

end Seccomp

/-- An edit of the filter on system calls. -/
inductive SeccompEdit where
  | setDefault (action : String)
  /-- Sets the default action and removes the rules that already have it. -/
  | setDefaultForce (action : String)
  | addArch (arch : String)
  | removeArch (arch : String)
  | clearArches
  /-- The rules of a text. -/
  | addRules (input : String)
  /-- A single rule, taken out of the rules that say the same. -/
  | removeRule (rule : NameRule)
  /-- The rules of a text, each taken out of the rules that say the same. -/
  | removeRules (input : String)
  | removeName (name : String)
  | removeAction (action : String)
  | clearRules
  deriving DecidableEq

/-- Changes the filter on system calls, which is made where it is missing. -/
def Config.withSeccomp (change : Seccomp → Seccomp) (config : Config) : Config :=
  config.withLinux (·.withSeccomp change)

/-- Changes the filter on system calls where there is one. -/
def Config.mapSeccomp (change : Seccomp → Seccomp) (config : Config) : Config :=
  config.mapLinux (·.mapSeccomp change)

namespace SeccompEdit

/-- The configuration after an edit, and the decisions on added rules. -/
def apply (config : Config) : SeccompEdit → Except Rejection (Config × List Decision)
  | .setDefault action => do
    let action ← ParseFault.lift (NameRule.readAction action)
    return (config.withSeccomp ({ · with defaultAction := action.text }), [])
  | .setDefaultForce action => do
    let action ← ParseFault.lift (NameRule.readAction action)
    return (config.withSeccomp fun seccomp =>
      { seccomp.removeAction action with defaultAction := action.text }, [])
  | .addArch arch => do
    let arch ← ParseFault.lift (NameRule.readArch arch)
    return (config.withSeccomp fun seccomp =>
      { seccomp with architectures := Keyed.addNew arch.text seccomp.architectures }, [])
  | .removeArch arch => do
    let arch ← ParseFault.lift (NameRule.readArch arch)
    return (config.mapSeccomp fun seccomp =>
      { seccomp with architectures := seccomp.architectures.filter (· ≠ arch.text) }, [])
  | .clearArches => .ok (config.mapSeccomp ({ · with architectures := [] }), [])
  | .addRules input => do
    let rules ← ParseFault.lift (NameRule.readAll input)
    let before := config.seccomp.getD default
    return (config.withSeccomp fun seccomp => (seccomp.addRules rules).1,
      (before.addRules rules).2)
  | .removeRule rule => .ok (config.mapSeccomp (·.removeRule rule), [])
  | .removeRules input => do
    let rules ← ParseFault.lift (NameRule.readAll input)
    return (config.mapSeccomp (rules.foldl Seccomp.removeRule), [])
  | .removeName name => .ok (config.mapSeccomp (·.removeName name), [])
  | .removeAction action => do
    let action ← ParseFault.lift (NameRule.readAction action)
    return (config.mapSeccomp (·.removeAction action), [])
  | .clearRules => .ok (config.mapSeccomp ({ · with syscalls := [] }), [])

end SeccompEdit

end OciBundle
