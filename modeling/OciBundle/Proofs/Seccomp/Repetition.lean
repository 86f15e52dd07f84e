/-
**Rules that are added again.**

A merged rule is settled: the list holds it, or it implied it before. A merge for another name does
not change the decision, and the rules of a text for the same name are all the same. So whatever the
later rules of a text do, the first ones stay settled, and the second time there is nothing to do.

* `NameRule.decide_merge_self`: a merged rule is settled.
* `Seccomp.decide_addRule_self`, `Seccomp.decide_addRule`: the decision after a merge of the same
  rule, and of one for another name.
* `Seccomp.decide_addRules`: after the rules of a text, each of them is settled.
* `Seccomp.addRules_addRules`: the second time, they change nothing.
* `Draft.perform_addRules_again`: adding a text to a draft, and adding it again.
-/

import OciBundle.Proofs.InPlace.Draft
import OciBundle.Proofs.Seccomp.Decision

namespace OciBundle

/-! ### One rule -/

namespace NameRule

variable {rule : NameRule} {rules : List SyscallRule}

theorem settles_toRule (rule : NameRule) : rule.Settles rule.toRule :=
  ⟨covers_of_names_eq rfl, rfl, .inr rfl⟩

/-- A list that is changed for a rule holds it. -/
theorem toRule_mem_apply {decision : Decision} (changes : decision ≠ .nothing) :
    rule.toRule ∈ rule.apply decision rules := by
  cases decision with
  | nothing => exact absurd rfl changes
  | append => exact List.mem_append_right rules (List.mem_singleton_self _)
  | overwrite place =>
    rw [apply]
    split
    next inside => exact List.mem_set inside _
    next => exact List.mem_append_right rules (List.mem_singleton_self _)

/-- **A merged rule is settled.** -/
theorem decide_merge_self : rule.decide (rule.merge rules) = .nothing := by
  by_cases settled : rule.decide rules = .nothing
  · rw [merge, settled]
    exact settled
  · exact decide_eq_nothing_iff.mpr ⟨rule.toRule, toRule_mem_apply settled, settles_toRule rule⟩

end NameRule

namespace Seccomp

variable {seccomp : Seccomp} {rule other : NameRule} {rules others : List NameRule}

theorem addRule_of_decide_eq_nothing (settled : seccomp.decide rule = .nothing) :
    seccomp.addRule rule = seccomp := by
  rw [addRule, settled]
  rfl

/-- The listed rules after a merge: the same ones, if the default action says what the rule says. -/
theorem syscalls_addRule : (seccomp.addRule rule).syscalls =
    if rule.args = [] ∧ seccomp.defaultAction = rule.action.text then seccomp.syscalls
    else rule.merge seccomp.syscalls := by
  rw [addRule, decide]
  split
  next => rfl
  next => rfl

theorem decide_addRule_self : (seccomp.addRule rule).decide rule = .nothing := by
  rw [decide, syscalls_addRule]
  by_cases needless : rule.args = [] ∧ seccomp.defaultAction = rule.action.text
  · exact if_pos needless
  · rw [if_neg needless, NameRule.decide_merge_self]
    exact ite_self _

/-- A decision does not depend on a rule for another name. -/
theorem decide_addRule (different : rule.name ≠ other.name) :
    (seccomp.addRule other).decide rule = seccomp.decide rule := by
  have same : rule.decide (seccomp.addRule other).syscalls = rule.decide seccomp.syscalls := by
    rw [syscalls_addRule]
    split
    next => rfl
    next => exact NameRule.decide_merge different
  rw [decide, decide, same]
  rfl

/-! ### The rules of a text -/

/-- A settled rule stays so while no other rule for its name is added. -/
theorem decide_addRules_of_settled (settled : seccomp.decide rule = .nothing)
    (alike : ∀ other ∈ others, rule.name = other.name → rule = other) :
    (seccomp.addRules others).1.decide rule = .nothing := by
  induction others generalizing seccomp with
  | nil => exact settled
  | cons other others hypothesis =>
    obtain ⟨first, later⟩ := List.forall_mem_cons.mp alike
    refine hypothesis ?_ later
    by_cases here : rule.name = other.name
    · cases first here
      exact decide_addRule_self
    · rw [decide_addRule here]
      exact settled

/-- **After the rules of a text**, each of them is settled. By induction on the rules: the first one
is settled as soon as it is added, and stays so. -/
theorem decide_addRules
    (alike : ∀ first ∈ rules, ∀ second ∈ rules, first.name = second.name → first = second) :
    ∀ rule ∈ rules, (seccomp.addRules rules).1.decide rule = .nothing := by
  induction rules generalizing seccomp with
  | nil => exact fun _ member => absurd member List.not_mem_nil
  | cons first rest hypothesis =>
    intro rule member
    rcases List.mem_cons.mp member with rfl | later
    · show ((seccomp.addRule rule).addRules rest).1.decide rule = .nothing
      refine decide_addRules_of_settled decide_addRule_self fun other inside => ?_
      exact alike rule List.mem_cons_self other (List.mem_cons_of_mem _ inside)
    · refine hypothesis (fun one inside two inside' => ?_) rule later
      exact alike one (List.mem_cons_of_mem _ inside) two (List.mem_cons_of_mem _ inside')

/-- Settled rules change nothing. -/
theorem addRules_of_settled (settled : ∀ rule ∈ rules, seccomp.decide rule = .nothing) :
    seccomp.addRules rules = (seccomp, rules.map fun _ => .nothing) := by
  induction rules with
  | nil => rfl
  | cons rule rest hypothesis =>
    obtain ⟨here, later⟩ := List.forall_mem_cons.mp settled
    rw [addRules, addRule_of_decide_eq_nothing here, hypothesis later, here]
    rfl

/-- **The second time**, the rules of a text change nothing. -/
theorem addRules_addRules
    (alike : ∀ first ∈ rules, ∀ second ∈ rules, first.name = second.name → first = second) :
    (seccomp.addRules rules).1.addRules rules =
      ((seccomp.addRules rules).1, rules.map fun _ => .nothing) :=
  addRules_of_settled (decide_addRules alike)

end Seccomp

/-! ### Drafts -/

namespace Draft

variable {draft : Draft} {input : String} {rules : List NameRule}

/-- The draft after the rules of a text are added, and the decisions on them. -/
theorem perform_addRules (read : NameRule.readAll input = .ok rules) :
    draft.perform (.edit (.seccomp (.addRules input))) =
      ({ draft with config := draft.config.withSeccomp fun seccomp => (seccomp.addRules rules).1 },
        .ok ((draft.config.seccomp.getD default).addRules rules).2) := by
  rw [perform_edit, step, apply, SeccompEdit.apply, read]
  rfl

/-- **Rules that are added again.** A text that is read is added to every draft; adding it once more
decides nothing for each of its rules, and leaves the whole draft as it is. -/
theorem perform_addRules_again (draft : Draft) (read : NameRule.readAll input = .ok rules) :
    let adding : Operation := .edit (.seccomp (.addRules input))
    (draft.perform adding).2.isOk = true ∧
      (draft.perform adding).1.perform adding =
        ((draft.perform adding).1, .ok (rules.map fun _ => .nothing)) := by
  intro adding
  have again (seccomp : Seccomp) := seccomp.addRules_addRules (NameRule.eq_of_readAll read)
  rw [perform_addRules read]
  refine ⟨rfl, ?_⟩
  rw [perform_addRules read, Config.withSeccomp_withSeccomp]
  refine Prod.ext ?_ ?_
  · have same : (fun seccomp : Seccomp => (seccomp.addRules rules).1) ∘
        (fun seccomp : Seccomp => (seccomp.addRules rules).1) =
        fun seccomp => (seccomp.addRules rules).1 := by
      funext seccomp
      rw [Function.comp_apply, again]
    rw [same]
  · show Except.ok ((Seccomp.addRules _ rules).1.addRules rules).2 = _
    rw [again]

/-- A text that names `read` twice, for a filter that kills by default, has a rule for several names
and an unconditional one for `read`. -/
theorem perform_addRules_again_read :
    let condition : ArgCondition := ⟨0, 1, 0, "SCMP_CMP_EQ"⟩
    let seccomp : Seccomp := ⟨"SCMP_ACT_KILL", [],
      [⟨["write", "read"], "SCMP_ACT_ERRNO", []⟩, ⟨["read"], "SCMP_ACT_ALLOW", []⟩]⟩
    let draft := ofConfig default ((default : Config).withSeccomp fun _ => seccomp)
    let adding : Operation := .edit (.seccomp (.addRules "allow:read,write,read:0:1:0:EQ"))
    NameRule.readAll "allow:read,write,read:0:1:0:EQ" = .ok [⟨"read", .allow, [condition]⟩,
        ⟨"write", .allow, [condition]⟩, ⟨"read", .allow, [condition]⟩] ∧
      (draft.perform adding).2 = .ok [.overwrite 1, .append, .nothing] ∧
      (draft.perform adding).1.perform adding =
        ((draft.perform adding).1, .ok [.nothing, .nothing, .nothing]) := by
  intro condition seccomp draft adding
  have read : NameRule.readAll "allow:read,write,read:0:1:0:EQ" =
      .ok [⟨"read", .allow, [condition]⟩, ⟨"write", .allow, [condition]⟩,
        ⟨"read", .allow, [condition]⟩] := by rfl
  refine ⟨read, ?_, (perform_addRules_again draft read).2⟩
  rw [perform_addRules read]
  rfl

end Draft

end OciBundle
