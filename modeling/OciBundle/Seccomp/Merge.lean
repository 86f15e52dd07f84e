/-
**Merging a rule for one system call into a list of rules.**

Every listed rule that covers the name proposes a decision. It proposes nothing when it has the
same action and the new rule adds no condition; it proposes its own place when the new rule says
the same more exactly, or says otherwise under the same conditions; else it proposes to append. A
rule for several names is never overwritten. Of all proposals, nothing wins over a place, the first
place over later ones, and any place over appending.

* `NameRule.decide`: the decision for a list.
* `NameRule.merge`: the list after the decision.
-/

import OciBundle.Seccomp.Notation

namespace OciBundle

/-- What is done to merge a rule into a list. -/
inductive Decision where
  /-- The list implies the rule already. -/
  | nothing
  /-- The rule takes the place of a listed one. -/
  | overwrite (index : Nat)
  /-- The rule goes to the end. -/
  | append
  deriving DecidableEq, Inhabited

/-- The stronger one of two decisions; of two places, the first. -/
def Decision.prefer : Decision → Decision → Decision
  | .nothing, _ => .nothing
  | .overwrite _, .nothing => .nothing
  | .overwrite index, _ => .overwrite index
  | .append, other => other

namespace NameRule

/-- The rule as it is listed. -/
def toRule (rule : NameRule) : SyscallRule :=
  ⟨[rule.name], rule.action.text, rule.args⟩

/-- Whether the rule is listed exactly like this. -/
def isSame (rule : NameRule) (listed : SyscallRule) : Bool :=
  listed = rule.toRule

/-- The decision that a covering rule proposes. -/
def propose (rule : NameRule) (index : Nat) (listed : SyscallRule) : Decision :=
  let place : Decision := if listed.names.length > 1 then .append else .overwrite index
  if listed.action = rule.action.text then
    if rule.args = [] ∨ listed.args = rule.args then .nothing
    else if listed.args = [] then place
    else .append
  else if listed.args = rule.args then place
  else .append

/-- The decision for the rules from a place on. -/
def decideFrom (rule : NameRule) : Nat → List SyscallRule → Decision
  | _, [] => .append
  | index, listed :: rest =>
    if listed.covers rule.name then
      (rule.propose index listed).prefer (decideFrom rule (index + 1) rest)
    else decideFrom rule (index + 1) rest

/-- The decision for a list of rules. -/
def decide (rule : NameRule) (rules : List SyscallRule) : Decision :=
  rule.decideFrom 0 rules

/-- A list after a decision; a place beyond its end is the end. -/
def apply (rule : NameRule) (decision : Decision) (rules : List SyscallRule) : List SyscallRule :=
  match decision with
  | .nothing => rules
  | .overwrite index => if index < rules.length then rules.set index rule.toRule
      else rules ++ [rule.toRule]
  | .append => rules ++ [rule.toRule]

/-- Merges the rule into a list. -/
def merge (rule : NameRule) (rules : List SyscallRule) : List SyscallRule :=
  rule.apply (rule.decide rules) rules

end NameRule

end OciBundle
