/-
**Runs of steps.**

A run takes steps up to the first that fails. Of a run that succeeds, what every step keeps is kept.

* `Step.Asks`: what is known of the edit that a step asks for, if it asks for one.
* `Step.AllAsk`: the same of a list of steps, with lemmas for the lists that the values of a flag
  make.
* `of_run_needDefaultAction`, `exists_of_defaultAction_ne_empty`: what the demand for a default
  action lets through.
* `exists_of_runAll_append`: a run in two parts.
* `holds_runAll`: a property of drafts that all wanted edits keep.
* `kept_runAll`, `noWorse_runAll`: runs of tame edits, and of plain ones.
-/

import OciBundle.Flags.Step
import OciBundle.Proofs.Draft
import OciBundle.Proofs.Edit.Complete

namespace OciBundle.Step

open Code (guarded)
open Config (Kept)

variable {α : Type} {draft after : Draft} {steps : List Step} {wanted : Edit → Prop}

/-! ### What steps ask for -/

/-- Whether the edit of a step, if it has one, is a wanted one. -/
def Asks (wanted : Edit → Prop) : Step → Prop
  | .edit _ change => wanted change
  | .refuse _ | .needDefaultAction => True

@[simp] theorem asks_edit {label : String} {change : Edit} :
    (Step.edit label change).Asks wanted ↔ wanted change :=
  Iff.rfl

@[simp] theorem asks_needDefaultAction : Step.needDefaultAction.Asks wanted :=
  trivial

@[simp] theorem asks_ofRead {read : Except Failure α} {step : α → Step} :
    (ofRead read step).Asks wanted ↔ ∀ value, read = .ok value → (step value).Asks wanted := by
  cases read with
  | error failure => exact iff_of_true trivial nofun
  | ok value =>
    constructor
    · rintro asks _ ⟨⟩
      exact asks
    · intro asks
      exact asks value rfl

/-- Whether the edits of all steps are wanted ones. -/
def AllAsk (wanted : Edit → Prop) (steps : List Step) : Prop :=
  ∀ step ∈ steps, step.Asks wanted

@[simp] theorem allAsk_nil : AllAsk wanted [] :=
  fun _ member => absurd member List.not_mem_nil

@[simp] theorem allAsk_singleton {step : Step} : AllAsk wanted [step] ↔ step.Asks wanted :=
  List.forall_mem_singleton

@[simp] theorem allAsk_append {first second : List Step} :
    AllAsk wanted (first ++ second) ↔ AllAsk wanted first ∧ AllAsk wanted second :=
  List.forall_mem_append

@[simp] theorem allAsk_ite {condition : Prop} [Decidable condition] {first second : List Step} :
    AllAsk wanted (if condition then first else second) ↔
      (condition → AllAsk wanted first) ∧ (¬ condition → AllAsk wanted second) := by
  split
  next holds => simp [holds]
  next fails => simp [fails]

@[simp] theorem allAsk_map {values : List α} {step : α → Step} :
    AllAsk wanted (values.map step) ↔ ∀ value ∈ values, (step value).Asks wanted :=
  List.forall_mem_map

@[simp] theorem allAsk_flatMap {values : List α} {steps : α → List Step} :
    AllAsk wanted (values.flatMap steps) ↔ ∀ value ∈ values, AllAsk wanted (steps value) :=
  List.forall_mem_flatMap

@[simp] theorem allAsk_ofOption {label : String} {edit : α → Edit} {value : Option α} :
    AllAsk wanted (ofOption label edit value) ↔ ∀ given ∈ value, wanted (edit given) := by
  rw [ofOption, allAsk_map]
  simp

@[simp] theorem allAsk_ofTexts {flag : String} {edit : String → Edit} {values : List String} :
    AllAsk wanted (ofTexts flag edit values) ↔ ∀ value ∈ values, wanted (edit value) :=
  allAsk_map

/-! ### Runs -/

theorem exists_of_run_edit {label : String} {change : Edit}
    (done : (Step.edit label change).run draft = .ok after) :
    ∃ decisions, draft.apply change = .ok (after, decisions) := by
  rw [run] at done
  split at done
  next decisions applied =>
    cases done
    exact ⟨decisions, applied⟩
  next => cases done

/-- The demand for a default action changes nothing. -/
theorem of_run_needDefaultAction (done : needDefaultAction.run draft = .ok after) :
    after = draft ∧ defaultAction draft.config ≠ "" := by
  rw [run] at done
  split at done
  next => cases done
  next given =>
    cases done
    exact ⟨rfl, given⟩

/-- A default action belongs to a filter. -/
theorem exists_of_defaultAction_ne_empty {config : Config} (acts : defaultAction config ≠ "") :
    ∃ seccomp, config.seccomp = some seccomp ∧ seccomp.defaultAction ≠ "" := by
  unfold defaultAction at acts
  cases found : config.seccomp with
  | none =>
    rw [found] at acts
    exact absurd rfl acts
  | some seccomp =>
    rw [found] at acts
    exact ⟨seccomp, rfl, acts⟩

/-- A step that asks for no edit changes nothing. -/
theorem holds_run (holds : Draft → Prop) {step : Step} (asks : step.Asks wanted)
    (each : ∀ change decisions, wanted change → draft.apply change = .ok (after, decisions) →
      holds draft → holds after)
    (start : holds draft) (done : step.run draft = .ok after) : holds after := by
  cases step with
  | edit label change =>
    obtain ⟨decisions, applied⟩ := exists_of_run_edit done
    exact each change decisions asks applied start
  | refuse failure => cases done
  | needDefaultAction =>
    obtain ⟨rfl, _⟩ := of_run_needDefaultAction done
    exact start

theorem exists_of_runAll_cons {step : Step} (done : runAll draft (step :: steps) = .ok after) :
    ∃ between, step.run draft = .ok between ∧ runAll between steps = .ok after := by
  rw [runAll, List.foldlM_cons] at done
  exact exists_of_bind_eq_ok done

theorem exists_of_runAll_append {first second : List Step}
    (done : runAll draft (first ++ second) = .ok after) :
    ∃ between, runAll draft first = .ok between ∧ runAll between second = .ok after := by
  rw [runAll, List.foldlM_append] at done
  exact exists_of_bind_eq_ok done

/-- **What every wanted edit keeps, a run keeps** that asks for nothing else. -/
theorem holds_runAll (holds : Draft → Prop) (asks : AllAsk wanted steps)
    (each : ∀ before after change decisions, wanted change →
      before.apply change = .ok (after, decisions) → holds before → holds after)
    (start : holds draft) (done : runAll draft steps = .ok after) : holds after := by
  induction steps generalizing draft with
  | nil =>
    cases done
    exact start
  | cons step steps hypothesis =>
    obtain ⟨first, others⟩ := List.forall_mem_cons.mp asks
    obtain ⟨between, here, later⟩ := exists_of_runAll_cons done
    exact hypothesis others (holds_run holds first (each draft between) start here) later

theorem exists_of_runAll_ofOption {label : String} {edit : α → Edit} {value : Option α}
    (done : runAll draft (ofOption label edit value) = .ok after) :
    value = none ∧ after = draft ∨
      ∃ given decisions, value = some given ∧ draft.apply (edit given) = .ok (after, decisions) := by
  cases value with
  | none =>
    cases done
    exact .inl ⟨rfl, rfl⟩
  | some given =>
    obtain ⟨between, here, later⟩ := exists_of_runAll_cons done
    cases later
    obtain ⟨decisions, applied⟩ := exists_of_run_edit here
    exact .inr ⟨given, decisions, rfl, applied⟩

/-- **A run of tame edits.** -/
theorem kept_runAll (tame : AllAsk Edit.IsTame steps)
    (done : runAll draft steps = .ok after) : Kept draft.config after.config :=
  holds_runAll (fun other => Kept draft.config other.config) tame
    (fun _ _ _ _ tame applied kept => kept.trans (Draft.kept_apply tame applied))
    (.refl draft.config) done

/-- **A run of plain edits** makes no guarded rule be reported. -/
theorem noWorse_runAll {code : Code} (member : code ∈ guarded)
    (plain : AllAsk Edit.IsPlain steps) (done : runAll draft steps = .ok after) :
    Violation.NoWorse code draft.config.violations after.config.violations :=
  holds_runAll
    (fun other => Violation.NoWorse code draft.config.violations other.config.violations)
    plain
    (fun _ _ _ _ plain applied kept =>
      kept.trans ((Draft.noWorse_apply member plain applied).violations member))
    (.refl _) done

end OciBundle.Step
