/-
**Edits of the filter on system calls in place.**

Rules are merged and removed one after the other, each with its own writings. Together they leave the
configuration that the edit makes in one go: the filter is made by the first rule, and is there for
the others.

* `NameRule.outcome_perform`, `NameRule.outcome_mapM_perform`: one rule merged, and many.
* `NameRule.outcome_performRemoval`, `NameRule.outcome_forM_performRemoval`: one rule removed, and
  many.
* `SeccompEdit.outcome_perform`: the programs of the edits.
-/

import OciBundle.Proofs.InPlace.Edit
import OciBundle.Proofs.Seccomp.Notation

namespace OciBundle

open InPlace (settle outcome_check)

variable {config : Config} {first second : Seccomp → Seccomp}

/-! ### Changes of the filter -/

namespace Config

theorem withSeccomp_withSeccomp :
    (config.withSeccomp first).withSeccomp second = config.withSeccomp (second ∘ first) := rfl

theorem mapSeccomp_mapSeccomp :
    (config.mapSeccomp first).mapSeccomp second = config.mapSeccomp (second ∘ first) := by
  simp only [mapSeccomp, mapLinux, Linux.mapSeccomp, Option.map_map, Function.comp_def]

theorem mapSeccomp_id : config.mapSeccomp id = config := by
  have same : (Linux.mapSeccomp id : Linux → Linux) = id := by
    funext linux
    rw [Linux.mapSeccomp, Option.map_id_apply, id]
  rw [mapSeccomp, same, mapLinux, Option.map_id_apply]

/-- The filter that is changed or made. -/
theorem getD_seccomp (config : Config) :
    config.seccomp.getD default = (config.linux.getD default).seccomp.getD default := by
  rw [seccomp]
  cases config.linux with
  | none => rfl
  | some linux => rfl

end Config

theorem SeccompEdit.outcome_strip {change : SyscallRule → SyscallRule} :
    (strip change).outcome config = (.ok (), config.mapSeccomp fun seccomp =>
      { seccomp with syscalls := Seccomp.dropNameless (seccomp.syscalls.map change) }) := by
  show (Except.ok (), (config.mapSeccomp _).mapSeccomp _) = _
  rw [Config.mapSeccomp_mapSeccomp]
  rfl

/-! ### Rules one after the other -/

namespace NameRule

variable {rule : NameRule} {rules : List NameRule}

theorem outcome_perform : rule.perform.outcome config =
    (.ok ((config.seccomp.getD default).decide rule), config.withSeccomp (·.addRule rule)) := by
  rw [Config.getD_seccomp]
  rfl

/-- **Rules are merged one after the other** as they are in one go, if there are any. -/
theorem outcome_mapM_perform : ((rule :: rules).mapM NameRule.perform).outcome config =
    (.ok ((config.seccomp.getD default).addRules (rule :: rules)).2,
      config.withSeccomp fun seccomp => (seccomp.addRules (rule :: rules)).1) := by
  induction rules generalizing rule config with
  | nil =>
    rw [List.mapM_cons, InPlace.outcome_bind outcome_perform]
    rfl
  | cons next rules hypothesis =>
    rw [List.mapM_cons, InPlace.outcome_bind outcome_perform, InPlace.outcome_bind hypothesis,
      Config.getD_seccomp config]
    rfl

theorem outcome_performRemoval :
    rule.performRemoval.outcome config = (.ok (), config.mapSeccomp (·.removeRule rule)) :=
  SeccompEdit.outcome_strip

/-- **Rules are removed one after the other** as they are in one go. -/
theorem outcome_forM_performRemoval : (rules.forM NameRule.performRemoval).outcome config =
    (.ok (), config.mapSeccomp (rules.foldl Seccomp.removeRule)) := by
  induction rules generalizing config with
  | nil => exact congrArg (Except.ok (), ·) Config.mapSeccomp_id.symm
  | cons rule rules hypothesis =>
    rw [List.forM_eq_forM, List.forM_cons, InPlace.outcome_bind outcome_performRemoval,
      ← List.forM_eq_forM, hypothesis, Config.mapSeccomp_mapSeccomp]
    rfl

end NameRule

namespace SeccompEdit

/-- What is left when a new configuration and decisions are made. -/
def decided (config : Config) (result : Except Rejection (Config × List Decision)) :
    Except Rejection (List Decision) × Config :=
  settle config id result

theorem outcome_perform (edit : SeccompEdit) :
    edit.perform.outcome config = decided config (edit.apply config) := by
  cases edit with
  | setDefault action => exact outcome_check fun _ => rfl
  | setDefaultForce action => exact outcome_check fun _ => rfl
  | addArch arch => exact outcome_check fun _ => rfl
  | removeArch arch => exact outcome_check fun _ => rfl
  | addRules input =>
    dsimp only [perform, apply]
    cases read : NameRule.readAll input with
    | error fault => rfl
    | ok rules =>
      cases rules with
      | nil => exact absurd rfl (NameRule.ne_nil_of_readAll read)
      | cons rule rules => exact NameRule.outcome_mapM_perform
  | removeRule rule =>
    dsimp only [perform, apply]
    rw [InPlace.outcome_bind NameRule.outcome_performRemoval]
    rfl
  | removeRules input =>
    refine outcome_check fun rules => ?_
    rw [InPlace.outcome_bind NameRule.outcome_forM_performRemoval]
    rfl
  | removeName name =>
    dsimp only [perform, apply]
    rw [InPlace.outcome_bind outcome_strip]
    rfl
  | removeAction action => exact outcome_check fun _ => rfl
  | clearArches | clearRules => rfl

end SeccompEdit

end OciBundle
