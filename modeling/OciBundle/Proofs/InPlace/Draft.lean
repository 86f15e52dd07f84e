/-
**Rejected operations leave no trace.**

An operation that is rejected leaves the draft as it was: nothing has been written, and no part has
been made. So the rejected ones among many may as well be left out.

* `Draft.perform_edit`: an edit in place does to a draft what the edit does.
* `Draft.perform_mergeRule`: the merge of a single rule is never rejected.
* `Draft.perform_eq_of_rejected`: one rejected operation.
* `Draft.performAll_granted`: many operations, some of them rejected.
* `Draft.rejections_leave_no_trace`: all of this together.
-/

import OciBundle.InPlace.Draft
import OciBundle.Proofs.InPlace.Seccomp

namespace OciBundle

open InPlace (settled)

namespace Draft

variable {draft : Draft} {rejection : Rejection}

/-! ### One operation -/

/-- What becomes of a draft: a new one with decisions, or the old one when all is rejected. -/
def become (draft : Draft) :
    Except Rejection (Draft × List Decision) → Draft × Except Rejection (List Decision)
  | .ok (after, decisions) => (after, .ok decisions)
  | .error rejection => (draft, .error rejection)

theorem step_eq_become (edit : Edit) : draft.step edit = draft.become (draft.apply edit) := by
  rw [step]
  cases draft.apply edit with
  | error rejection => rfl
  | ok made => rfl

/-- What a program without decisions makes of a draft. -/
theorem within_silent {program : InPlace Unit} {result : Except Rejection Config}
    (does : program.outcome draft.config = settled draft.config result) :
    draft.within (silent program) =
      draft.become (do return ({ draft with config := ← result }, [])) := by
  rw [within, silent]
  cases result with
  | error rejection =>
    rw [InPlace.outcome_bind_error does]
    rfl
  | ok config =>
    rw [InPlace.outcome_bind does]
    rfl

/-- What a program with decisions makes of a draft. -/
theorem within_decided {program : InPlace (List Decision)}
    {result : Except Rejection (Config × List Decision)}
    (does : program.outcome draft.config = SeccompEdit.decided draft.config result) :
    draft.within program = draft.become (do
      let (config, decisions) ← result
      return ({ draft with config }, decisions)) := by
  rw [within, does]
  cases result with
  | error rejection => rfl
  | ok made => rfl

/-- **An edit in place does to a draft what the edit does.** -/
theorem perform_edit (edit : Edit) : draft.perform (.edit edit) = draft.step edit := by
  rw [step_eq_become]
  cases edit with
  | general edit => exact within_silent edit.outcome_perform
  | process edit => exact within_silent (edit.outcome_perform draft.target)
  | mount edit => exact within_silent edit.outcome_perform
  | hook edit => exact within_silent edit.outcome_perform
  | linux edit => exact within_silent edit.outcome_perform
  | resources edit => exact within_silent edit.outcome_perform
  | seccomp edit => exact within_decided edit.outcome_perform
  | sanitize => rfl
  | setHostSpecific hostSpecific => rfl

/-- The merge of a single rule is never rejected. -/
theorem perform_mergeRule (rule : NameRule) :
    draft.perform (.mergeRule rule) =
      ({ draft with config := draft.config.withSeccomp (·.addRule rule) },
        .ok [(draft.config.seccomp.getD default).decide rule]) := by
  rw [perform, within, InPlace.outcome_bind NameRule.outcome_perform]
  rfl

/-- An edit that is rejected leaves the draft as it was. -/
theorem step_eq_of_rejected {edit : Edit} (rejected : (draft.step edit).2 = .error rejection) :
    (draft.step edit).1 = draft := by
  rw [step] at rejected ⊢
  split at rejected
  next => cases rejected
  next => rfl

/-- **A rejected operation leaves the draft as it was.** -/
theorem perform_eq_of_rejected {operation : Operation}
    (rejected : (draft.perform operation).2 = .error rejection) :
    (draft.perform operation).1 = draft := by
  cases operation with
  | edit edit =>
    rw [perform_edit] at rejected ⊢
    exact step_eq_of_rejected rejected
  | mergeRule rule =>
    rw [perform_mergeRule] at rejected
    cases rejected

/-! ### Many operations -/

theorem performAll_cons (operation : Operation) (rest : List Operation) :
    draft.performAll (operation :: rest) =
      (((draft.perform operation).1.performAll rest).1,
        (draft.perform operation).2 :: ((draft.perform operation).1.performAll rest).2) := rfl

/-- Whether an operation is among those that are not rejected is told by its own result. -/
theorem granted_cons (operation : Operation) (rest : List Operation) :
    draft.granted (operation :: rest) =
      (if (draft.perform operation).2.isOk then [operation] else []) ++
        (draft.perform operation).1.granted rest := by
  rw [granted, performAll_cons, List.zip_cons_cons, List.filter_cons]
  dsimp only
  split
  next => rfl
  next => rfl

/-- **Without the rejected operations**, the others leave the same draft with the same results. -/
theorem performAll_granted (operations : List Operation) :
    draft.performAll (draft.granted operations) =
      ((draft.performAll operations).1, (draft.performAll operations).2.filter (·.isOk)) := by
  induction operations generalizing draft with
  | nil => rfl
  | cons operation rest hypothesis =>
    rw [granted_cons, performAll_cons]
    cases here : (draft.perform operation).2 with
    | error rejection =>
      -- The rest begins with the draft before the rejected operation.
      have same : (draft.perform operation).1 = draft := perform_eq_of_rejected here
      rw [same]
      exact hypothesis
    | ok decisions =>
      have fine : (Except.ok decisions : Except Rejection (List Decision)).isOk = true := rfl
      rw [if_pos fine, List.singleton_append, performAll_cons, hypothesis, here]
      rfl

/-! ### All together -/

/-- **Rejected operations leave no trace.** A rejected operation leaves the draft as it was;
operations one after the other leave the same draft without the rejected ones, and the others have
the same results; and a rule text that is not read, wherever it is wrong, adds and removes no
rules. -/
theorem rejections_leave_no_trace :
    (∀ (draft : Draft) (operation : Operation) (rejection : Rejection),
      (draft.perform operation).2 = .error rejection → (draft.perform operation).1 = draft) ∧
    (∀ (draft : Draft) (operations : List Operation),
      draft.performAll (draft.granted operations) =
        ((draft.performAll operations).1, (draft.performAll operations).2.filter (·.isOk))) ∧
    ∀ (draft : Draft) (input : String) (fault : ParseFault), NameRule.readAll input = .error fault →
      draft.perform (.edit (.seccomp (.addRules input))) = (draft, .error (.parse fault)) ∧
        draft.perform (.edit (.seccomp (.removeRules input))) = (draft, .error (.parse fault)) := by
  refine ⟨fun _ _ _ => perform_eq_of_rejected, fun _ => performAll_granted, ?_⟩
  intro draft input fault unread
  rw [perform_edit, perform_edit, step, step, apply, apply, SeccompEdit.apply, SeccompEdit.apply,
    unread]
  exact ⟨rfl, rfl⟩

/-- A text for two names whose last word is no operator, given to a draft without a filter. -/
theorem rejections_leave_no_trace_text :
    let draft := ofConfig default default
    let input := "errno:read,write:0:1:0:EQ:1:2:0:BAD"
    let rejected := Except.error (.parse (.unrecognized "operator" "BAD"))
    draft.perform (.edit (.seccomp (.addRules input))) = (draft, rejected) ∧
      draft.performAll [.edit (.seccomp (.addRules input)), .edit (.seccomp .clearRules)] =
        (draft, [rejected, .ok []]) := by
  intro draft input rejected
  have unread : NameRule.readAll "errno:read,write:0:1:0:EQ:1:2:0:BAD" =
      .error (.unrecognized "operator" "BAD") := rfl
  have added := (rejections_leave_no_trace.2.2 draft input _ unread).1
  refine ⟨added, ?_⟩
  rw [performAll_cons, added]
  rfl

end Draft

end OciBundle
