/-
**Steps that succeed.**

* `exists_of_bind_eq_ok`, `of_check_eq_ok`: the steps of a sequence that succeeds succeed, and its
  checks let it through.
* `map_eq_ok_iff`, `bind_eq_ok_iff`: when one step after another succeeds, and with what result.
* `isOk_bind_pure`, `isOk_ite`: whether a step succeeds, apart from its result.
* `mapM_eq_ok_iff`, `mapM_eq_ok_iff_map`, `exists_mem_of_mapM_eq_ok`: steps over a list, whose results
  come from its items.
* `Vocabulary.ofText?_of_read`: a word that is read is the one with that text.
-/

import Mathlib.Data.List.Forall2
import OciBundle.Rejection

namespace OciBundle

section Steps

variable {ε ε' α β : Type}

/-- Both steps of a sequence that succeeds succeed. -/
theorem exists_of_bind_eq_ok {step : Except ε α} {next : α → Except ε β} {result : β}
    (done : step >>= next = .ok result) : ∃ value, step = .ok value ∧ next value = .ok result := by
  cases step with
  | error fault => cases done
  | ok value => exact ⟨value, rfl, done⟩

/-- What a check lets through goes on. -/
theorem of_check_eq_ok {refused : Prop} [Decidable refused] {fault : ε}
    {next : PUnit → Except ε β} {result : β}
    (done : (if refused then throw fault >>= next else next ⟨⟩) = .ok result) :
    ¬ refused ∧ next ⟨⟩ = .ok result := by
  by_cases here : refused
  · rw [if_pos here] at done
    cases done
  · rw [if_neg here] at done
    exact ⟨here, done⟩

/-- What is left of a step when its faults are renamed. -/
theorem eq_ok_of_mapError_eq_ok {step : Except ε α} {rename : ε → ε'} {value : α}
    (done : step.mapError rename = .ok value) : step = .ok value := by
  cases step with
  | error fault => cases done
  | ok result =>
    cases done
    rfl

theorem mapError_eq_ok_iff {step : Except ε α} {rename : ε → ε'} {value : α} :
    step.mapError rename = .ok value ↔ step = .ok value :=
  ⟨eq_ok_of_mapError_eq_ok, fun done => done ▸ rfl⟩

/-- A step succeeds whatever is made of its result, and with what is made of it. -/
theorem map_eq_ok_iff {step : Except ε α} {change : α → β} {result : β} :
    step.map change = .ok result ↔ ∃ value, step = .ok value ∧ change value = result := by
  cases step with
  | error fault => exact iff_of_false nofun fun ⟨_, done, _⟩ => nomatch done
  | ok value =>
    constructor
    · intro done
      cases done
      exact ⟨value, rfl, rfl⟩
    · rintro ⟨_, done, rfl⟩
      cases done
      rfl

theorem bind_eq_ok_iff {step : Except ε α} {next : α → Except ε β} {result : β} :
    step >>= next = .ok result ↔ ∃ value, step = .ok value ∧ next value = .ok result :=
  ⟨exists_of_bind_eq_ok, fun ⟨_, done, goes⟩ => done ▸ goes⟩

/-- A step that succeeds has a result. -/
theorem exists_of_isOk {step : Except ε α} (done : step.isOk = true) :
    ∃ value, step = .ok value := by
  cases step with
  | error fault => cases done
  | ok value => exact ⟨value, rfl⟩

/-- A step that only succeeds or fails. -/
theorem eq_ok_of_isOk {step : Except ε Unit} (done : step.isOk = true) : step = .ok () := by
  obtain ⟨_, succeeds⟩ := exists_of_isOk done
  exact succeeds

theorem isOk_iff_eq_ok {step : Except ε Unit} : step.isOk = true ↔ step = .ok () :=
  ⟨eq_ok_of_isOk, fun done => done ▸ rfl⟩

/-- A step succeeds whatever is made of its result. -/
theorem isOk_bind_pure {step : Except ε α} {next : α → β} :
    (step >>= fun value => (pure (next value) : Except ε β)).isOk = step.isOk := by
  cases step <;> rfl

theorem isOk_ite {holds : Prop} [Decidable holds] {value : α} {fault : ε} :
    (if holds then (.ok value : Except ε α) else .error fault).isOk = true ↔ holds := by
  by_cases here : holds
  · rw [if_pos here]
    exact iff_of_true rfl here
  · rw [if_neg here]
    exact iff_of_false nofun here

/-- **Steps over a list succeed** when each of them does. -/
theorem mapM_eq_ok_iff {check : α → Except ε β} {items : List α} {results : List β} :
    items.mapM check = .ok results ↔
      List.Forall₂ (fun item result => check item = .ok result) items results := by
  induction items generalizing results with
  | nil =>
    constructor
    · intro done
      cases done
      exact .nil
    · intro each
      cases each
      rfl
  | cons item items hypothesis =>
    rw [List.mapM_cons]
    constructor
    · intro done
      obtain ⟨first, here, done⟩ := exists_of_bind_eq_ok done
      obtain ⟨rest, later, done⟩ := exists_of_bind_eq_ok done
      cases done
      exact .cons here (hypothesis.mp later)
    · intro each
      cases each with
      | cons here later =>
        rw [here, hypothesis.mpr later]
        rfl

/-- Steps over a list succeed with what each item is turned into, where each of them can be taken. -/
theorem mapM_eq_ok_iff_map {check : α → Except ε β} {holds : α → Prop} {value : α → β}
    (meaning : ∀ item result, check item = .ok result ↔ holds item ∧ value item = result)
    {items : List α} {results : List β} :
    items.mapM check = .ok results ↔
      (∀ item ∈ items, holds item) ∧ items.map value = results := by
  have values : List.Forall₂ (fun item result => value item = result) items results ↔
      items.map value = results := by
    rw [← List.forall₂_map_left_iff (R := (· = ·)), List.forall₂_eq_eq_eq]
  simp only [mapM_eq_ok_iff, meaning, List.forall₂_and_left, values]

/-- A list of results holds a result of an item each. -/
theorem exists_mem_of_mapM_eq_ok {check : α → Except ε β} {items : List α}
    {results : List β} (done : items.mapM check = .ok results) :
    ∀ result ∈ results, ∃ item ∈ items, check item = .ok result := by
  have each := mapM_eq_ok_iff.mp done
  clear done
  induction each with
  | nil => exact fun _ member => absurd member List.not_mem_nil
  | cons here _ hypothesis =>
    intro result member
    rcases List.mem_cons.mp member with rfl | later
    · exact ⟨_, List.mem_cons_self, here⟩
    · obtain ⟨item, inside, equal⟩ := hypothesis result later
      exact ⟨item, List.mem_cons_of_mem _ inside, equal⟩

end Steps

/-! ### Words -/

namespace Vocabulary

variable {α : Type} [Vocabulary α]

/-- A word that is read is the one with that text. -/
theorem ofText?_of_read {value : String} {word : α} (done : read α value = .ok word) :
    ofText? value = some word := by
  rw [read] at done
  cases found : ofText? (α := α) value with
  | none =>
    rw [found] at done
    cases done
  | some other =>
    rw [found] at done
    cases done
    rfl

/-- The texts of a vocabulary are known. -/
theorem isKnown_text (word : α) : isKnown α (text word) = true := by
  rw [isKnown, ofText?_eq_some_iff.mpr rfl]
  rfl

end Vocabulary

end OciBundle
