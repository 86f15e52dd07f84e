/-
**Edits of the filter on system calls break no guarded rule.**

* `NameRule.not_fails_of_readAll`: rules that are read have known actions and operators.
* `Seccomp.noWorse_addRules`: merging rules that break no rule.
* `Seccomp.noWorse_removeRule`, `Seccomp.noWorse_removeName`: taking rules or names out.
* `SeccompEdit.noWorse`: what such an edit leaves.
-/

import OciBundle.Edit.Seccomp
import OciBundle.Proofs.Seccomp.Notation
import OciBundle.Proofs.Validation.Bundle

namespace OciBundle

open Code (guarded)
open Keyed (refits_addNew refits_of_sublist)
open Violation (Reports noWorse_of_not_reports not_reports_nil noWorse_getD_some noWorse_getD_map)

variable {code : Code} {config after : Config}

/-! ### Rules that are read -/

namespace NameRule

/-- A condition that is read has a known operator. -/
theorem isKnown_of_readFields {input index value valueTwo operator : String}
    {condition : ArgCondition}
    (done : readFields input index value valueTwo operator = .ok condition) :
    Vocabulary.isKnown SeccompOperator condition.operator = true := by
  obtain ⟨_, _, rest⟩ := exists_of_bind_eq_ok done
  dsimp only at rest
  split at rest
  next =>
    obtain ⟨_, _, rest⟩ := exists_of_bind_eq_ok rest
    obtain ⟨_, _, rest⟩ := exists_of_bind_eq_ok rest
    obtain ⟨_, _, rest⟩ := exists_of_bind_eq_ok rest
    obtain ⟨word, _, equal⟩ := exists_of_bind_eq_ok rest
    cases equal
    exact Vocabulary.isKnown_text word
  next => cases rest

theorem isKnown_of_readConditions {input : String} {fields : List String}
    {conditions : List ArgCondition} (done : readConditions input fields = .ok conditions) :
    ∀ condition ∈ conditions, Vocabulary.isKnown SeccompOperator condition.operator = true := by
  induction fields using readConditions.induct generalizing conditions with
  | case1 index value valueTwo operator rest hypothesis =>
    rw [readConditions] at done
    obtain ⟨first, read, later⟩ := exists_of_bind_eq_ok done
    obtain ⟨others, readOthers, equal⟩ := exists_of_bind_eq_ok later
    cases equal
    exact List.forall_mem_cons.mpr ⟨isKnown_of_readFields read, hypothesis readOthers⟩
  | case2 fields few =>
    rw [readConditions] at done
    · cases done
      exact fun condition member => nomatch member
    · exact few

theorem not_fails_toRule {rule : NameRule}
    (known : ∀ condition ∈ rule.args, Vocabulary.isKnown SeccompOperator condition.operator = true) :
    ¬ rule.toRule.Fails code := by
  rintro (⟨unknown, _⟩ | ⟨condition, member, ⟨_, unknown⟩, _⟩)
  · rw [toRule, Seccomp.actionHolds, Bool.or_eq_false_iff] at unknown
    exact Bool.false_ne_true (unknown.2.symm.trans (Vocabulary.isKnown_text rule.action))
  · exact Bool.false_ne_true (unknown.symm.trans (known condition member))

/-- Rules that are read have known operators. -/
theorem isKnown_of_readAll {input : String} {rules : List NameRule}
    (done : readAll input = .ok rules) : ∀ rule ∈ rules, ∀ condition ∈ rule.args,
      Vocabulary.isKnown SeccompOperator condition.operator = true := by
  obtain ⟨names, _, _, args, _, readArgs, rfl⟩ := exists_of_readAll done
  intro rule member
  obtain ⟨name, _, rfl⟩ := List.mem_map.mp member
  exact isKnown_of_readConditions readArgs

/-- **Rules that are read** have a known action and known operators. -/
theorem not_fails_of_readAll {input : String} {rules : List NameRule}
    (done : readAll input = .ok rules) : ∀ rule ∈ rules, ¬ rule.toRule.Fails code :=
  fun rule member => not_fails_toRule (isKnown_of_readAll done rule member)

end NameRule

/-! ### Merging rules -/

namespace NameRule

theorem mem_apply {rule : NameRule} {decision : Decision} {rules : List SyscallRule}
    {listed : SyscallRule} (member : listed ∈ rule.apply decision rules) :
    listed ∈ rules ∨ listed = rule.toRule := by
  unfold apply at member
  split at member
  next => exact .inl member
  next =>
    split at member
    next => exact List.mem_or_eq_of_mem_set member
    next => exact (List.mem_append.mp member).imp_right List.mem_singleton.mp
  next => exact (List.mem_append.mp member).imp_right List.mem_singleton.mp

end NameRule

namespace Seccomp

theorem NoWorse.trans {first second third : Seccomp} (left : NoWorse code first second)
    (right : NoWorse code second third) : NoWorse code first third where
  defaultAction unknown := left.defaultAction (right.defaultAction unknown)
  architectures := left.architectures.trans right.architectures
  syscalls rule member fault := by
    obtain ⟨other, inside, wrong⟩ := right.syscalls rule member fault
    exact left.syscalls other inside wrong

theorem noWorse_addRule {seccomp : Seccomp} {rule : NameRule} (fits : ¬ rule.toRule.Fails code) :
    NoWorse code seccomp (seccomp.addRule rule) := by
  refine { NoWorse.refl code seccomp with syscalls := fun listed member fault => ?_ }
  rcases NameRule.mem_apply member with old | rfl
  · exact ⟨listed, old, fault⟩
  · exact absurd fault fits

/-- **Merging rules** that break no rule. -/
theorem noWorse_addRules {seccomp : Seccomp} {rules : List NameRule}
    (fits : ∀ rule ∈ rules, ¬ rule.toRule.Fails code) :
    NoWorse code seccomp (seccomp.addRules rules).1 := by
  induction rules generalizing seccomp with
  | nil => exact .refl code _
  | cons rule rules hypothesis =>
    obtain ⟨first, others⟩ := List.forall_mem_cons.mp fits
    exact (noWorse_addRule first).trans (hypothesis others)

/-- Rules that are left have the action and the conditions of old ones. -/
theorem noWorse_dropNameless {seccomp : Seccomp} {change : SyscallRule → SyscallRule}
    (kept : ∀ rule, (change rule).action = rule.action ∧ (change rule).args = rule.args) :
    NoWorse code seccomp
      { seccomp with syscalls := dropNameless (seccomp.syscalls.map change) } := by
  refine { NoWorse.refl code seccomp with syscalls := fun rule member fault => ?_ }
  obtain ⟨old, inside, rfl⟩ := List.mem_map.mp (List.mem_filter.mp member).1
  unfold SyscallRule.Fails at fault
  rw [(kept old).1, (kept old).2] at fault
  exact ⟨old, inside, fault⟩

theorem noWorse_removeRule (seccomp : Seccomp) (rule : NameRule) :
    NoWorse code seccomp (seccomp.removeRule rule) := by
  refine noWorse_dropNameless fun listed => ?_
  split
  · exact ⟨rfl, rfl⟩
  · exact ⟨rfl, rfl⟩

theorem noWorse_removeRules (seccomp : Seccomp) (rules : List NameRule) :
    NoWorse code seccomp (rules.foldl removeRule seccomp) := by
  induction rules generalizing seccomp with
  | nil => exact .refl code _
  | cons rule rules hypothesis => exact (noWorse_removeRule seccomp rule).trans (hypothesis _)

theorem noWorse_removeName (seccomp : Seccomp) (name : String) :
    NoWorse code seccomp (seccomp.removeName name) :=
  noWorse_dropNameless fun _ => ⟨rfl, rfl⟩

theorem noWorse_removeAction (seccomp : Seccomp) (action : SeccompAction) :
    NoWorse code seccomp (seccomp.removeAction action) :=
  { NoWorse.refl code seccomp with
    syscalls := fun rule member fault => ⟨rule, (List.mem_filter.mp member).1, fault⟩ }

/-- A known default action. -/
theorem actionHolds_text (action : SeccompAction) : actionHolds action.text = true := by
  rw [actionHolds, Bool.or_eq_true_iff]
  exact .inr (Vocabulary.isKnown_text action)

theorem noWorse_setDefault (seccomp : Seccomp) (action : SeccompAction) :
    NoWorse code seccomp { seccomp with defaultAction := action.text } := by
  refine { NoWorse.refl code seccomp with defaultAction := fun unknown => ?_ }
  exact absurd (unknown.symm.trans (actionHolds_text action)) Bool.false_ne_true

end Seccomp

/-! ### All edits -/

namespace Config

theorem noWorse_withSeccomp {change : Seccomp → Seccomp} (member : code ∈ guarded)
    (kept : ∀ seccomp : Seccomp, Seccomp.NoWorse code seccomp (change seccomp)) :
    NoWorse code config (config.withSeccomp change) := by
  have fresh : ¬ Reports (default : Seccomp).check code := not_reports_nil
  exact noWorse_withLinux member
    { Linux.NoWorse.refl code _ with
      seccomp := noWorse_getD_some fresh (kept _).check }

theorem noWorse_mapSeccomp {change : Seccomp → Seccomp} (member : code ∈ guarded)
    (kept : ∀ seccomp : Seccomp, Seccomp.NoWorse code seccomp (change seccomp)) :
    NoWorse code config (config.mapSeccomp change) :=
  noWorse_mapLinux member fun _ =>
    { Linux.NoWorse.refl code _ with
      seccomp := noWorse_getD_map fun seccomp _ => (kept seccomp).check }

end Config

/-- **An edit of the filter on system calls** leaves no part worse. -/
theorem SeccompEdit.noWorse {edit : SeccompEdit} {decisions : List Decision}
    (member : code ∈ guarded) (done : edit.apply config = .ok (after, decisions)) :
    Config.NoWorse code config after := by
  cases edit with
  | setDefault word =>
    obtain ⟨action, _, equal⟩ := exists_of_bind_eq_ok done
    cases equal
    exact Config.noWorse_withSeccomp member fun seccomp => Seccomp.noWorse_setDefault seccomp action
  | setDefaultForce word =>
    obtain ⟨action, _, equal⟩ := exists_of_bind_eq_ok done
    cases equal
    exact Config.noWorse_withSeccomp member fun seccomp =>
      (Seccomp.noWorse_removeAction seccomp action).trans (Seccomp.noWorse_setDefault _ action)
  | addArch word =>
    obtain ⟨arch, _, equal⟩ := exists_of_bind_eq_ok done
    cases equal
    exact Config.noWorse_withSeccomp member fun seccomp =>
      { Seccomp.NoWorse.refl code _ with
        architectures := Seccomp.noWorse_checkArchitectures
          (refits_addNew (Vocabulary.isKnown_text arch) _) }
  | removeArch word =>
    obtain ⟨arch, _, equal⟩ := exists_of_bind_eq_ok done
    cases equal
    exact Config.noWorse_mapSeccomp member fun seccomp =>
      { Seccomp.NoWorse.refl code _ with
        architectures := Seccomp.noWorse_checkArchitectures
          (refits_of_sublist List.filter_sublist) }
  | clearArches =>
    cases done
    exact Config.noWorse_mapSeccomp member fun seccomp =>
      { Seccomp.NoWorse.refl code _ with architectures := noWorse_of_not_reports not_reports_nil }
  | addRules input =>
    obtain ⟨rules, read, equal⟩ := exists_of_bind_eq_ok done
    cases equal
    exact Config.noWorse_withSeccomp member fun seccomp =>
      Seccomp.noWorse_addRules (NameRule.not_fails_of_readAll (eq_ok_of_mapError_eq_ok read))
  | removeRule rule =>
    cases done
    exact Config.noWorse_mapSeccomp member fun seccomp => Seccomp.noWorse_removeRule seccomp rule
  | removeRules input =>
    obtain ⟨rules, _, equal⟩ := exists_of_bind_eq_ok done
    cases equal
    exact Config.noWorse_mapSeccomp member fun seccomp => Seccomp.noWorse_removeRules seccomp rules
  | removeName name =>
    cases done
    exact Config.noWorse_mapSeccomp member fun seccomp => Seccomp.noWorse_removeName seccomp name
  | removeAction word =>
    obtain ⟨action, _, equal⟩ := exists_of_bind_eq_ok done
    cases equal
    exact Config.noWorse_mapSeccomp member fun seccomp =>
      Seccomp.noWorse_removeAction seccomp action
  | clearRules =>
    cases done
    exact Config.noWorse_mapSeccomp member fun seccomp =>
      { Seccomp.NoWorse.refl code _ with syscalls := fun rule inside => nomatch inside }

end OciBundle
