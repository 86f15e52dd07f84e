/-
**What a merge decides.**

A listed rule settles a new one that it implies, and the new rule may replace a listed one for its
name alone that it makes more exact or contradicts. No rule does both to the same one. The decision
for a list asks for any rule that settles the new one, and only then for the first one that the new
rule may replace.

* `NameRule.Settles`, `NameRule.MayReplace`: the two relations between a new rule and a listed one.
* `decide_eq_search`: the decision by a search for either.
* `decide_eq_nothing_iff`: a merge does nothing where a listed rule settles the new one.
* `decide_iff`: each of the three decisions by what is listed.
* `decide_eq_foldl`: the decision also comes of one pass from the front.
-/

import Mathlib.Order.Bounds.Defs
import OciBundle.Proofs.Seccomp.Contradiction

namespace OciBundle.NameRule

variable {rule : NameRule} {listed : SyscallRule} {rules : List SyscallRule} {place : Nat}

/-- Whether a listed rule implies the new one: it has its action, and no condition more. -/
def Settles (rule : NameRule) (listed : SyscallRule) : Prop :=
  listed.covers rule.name = true ∧ listed.action = rule.action.text ∧
    (rule.args = [] ∨ listed.args = rule.args)

/-- Whether the new rule may take the place of a listed one for a single name: it adds conditions
to its action, or has another action under the same conditions. -/
def MayReplace (rule : NameRule) (listed : SyscallRule) : Prop :=
  listed.covers rule.name = true ∧ listed.names.length = 1 ∧
    (listed.action = rule.action.text ∧ listed.args = [] ∧ rule.args ≠ [] ∨
      listed.action ≠ rule.action.text ∧ listed.args = rule.args)

instance : DecidablePred rule.Settles := fun listed =>
  inferInstanceAs (Decidable (listed.covers rule.name = true ∧ _))

instance : DecidablePred rule.MayReplace := fun listed =>
  inferInstanceAs (Decidable (listed.covers rule.name = true ∧ _))

/-- What a covering rule proposes, by the two relations. -/
theorem propose_eq (covers : listed.covers rule.name = true) (place : Nat) :
    rule.propose place listed =
      if rule.Settles listed then .nothing
      else if rule.MayReplace listed then .overwrite place
      else .append := by
  have some : 0 < listed.names.length :=
    List.length_pos_of_mem (List.contains_iff_mem.mp covers)
  have single : listed.names.length = 1 ↔ ¬ listed.names.length > 1 := by omega
  simp only [propose, Settles, MayReplace, covers, single, true_and]
  grind

theorem not_settles_of_not_covers (uncovered : ¬ listed.covers rule.name = true) :
    ¬ rule.Settles listed := fun settles => uncovered settles.1

theorem not_mayReplace_of_not_covers (uncovered : ¬ listed.covers rule.name = true) :
    ¬ rule.MayReplace listed := fun replaceable => uncovered replaceable.1

/-- The decision of a search from a place on: for a rule that settles the new one, and else for the
first one that it may replace. -/
def search (rule : NameRule) (start : Nat) (rules : List SyscallRule) : Decision :=
  if ∃ listed ∈ rules, rule.Settles listed then .nothing
  else match rules.findIdx? (fun listed => rule.MayReplace listed) with
    | some index => .overwrite (start + index)
    | none => .append

theorem search_cons (rule : NameRule) (start : Nat) (listed : SyscallRule)
    (rules : List SyscallRule) :
    rule.search start (listed :: rules) =
      if rule.Settles listed then .nothing
      else if rule.MayReplace listed then (Decision.overwrite start).prefer
        (rule.search (start + 1) rules)
      else rule.search (start + 1) rules := by
  by_cases here : rule.Settles listed
  · simp [search, here]
  by_cases later : ∃ other ∈ rules, rule.Settles other
  · simp [search, here, later, Decision.prefer]
  by_cases replaceable : rule.MayReplace listed
  · cases found : rules.findIdx? (fun other => rule.MayReplace other) <;>
      simp [search, here, later, replaceable, found, List.findIdx?_cons, Decision.prefer]
  · cases found : rules.findIdx? (fun other => rule.MayReplace other) <;>
      simp [search, here, later, replaceable, found, List.findIdx?_cons, Nat.add_comm,
        Nat.add_left_comm]

/-- By induction on the rules: each one decides at its place as the search does. -/
theorem decideFrom_eq_search (rule : NameRule) (start : Nat) (rules : List SyscallRule) :
    rule.decideFrom start rules = rule.search start rules := by
  induction rules generalizing start with
  | nil => rfl
  | cons listed rules hypothesis =>
    rw [decideFrom, search_cons, hypothesis]
    split
    next covers =>
      rw [propose_eq covers]
      split
      · rfl
      · split <;> rfl
    next uncovered =>
      rw [if_neg (not_settles_of_not_covers uncovered),
        if_neg (not_mayReplace_of_not_covers uncovered)]

theorem decide_eq_search (rule : NameRule) (rules : List SyscallRule) :
    rule.decide rules = rule.search 0 rules :=
  decideFrom_eq_search rule 0 rules

/-! ### The three decisions -/

/-- A merge does nothing where a listed rule settles the new one. -/
theorem decide_eq_nothing_iff :
    rule.decide rules = .nothing ↔ ∃ listed ∈ rules, rule.Settles listed := by
  rw [decide_eq_search, search]
  by_cases settled : ∃ listed ∈ rules, rule.Settles listed
  · rw [if_pos settled]
    exact iff_of_true rfl settled
  · rw [if_neg settled]
    refine iff_of_false (fun decided => ?_) settled
    split at decided
    next => cases decided
    next => cases decided

/-- The first rule that the new one may replace, by its place. -/
theorem findIdx?_mayReplace_iff :
    rules.findIdx? (fun listed => rule.MayReplace listed) = some place ↔
      IsLeast {place | ∃ listed, rules[place]? = some listed ∧ rule.MayReplace listed} place := by
  rw [List.findIdx?_eq_some_iff_getElem]
  constructor
  · rintro ⟨inside, replaceable, first⟩
    refine ⟨⟨rules[place], List.getElem?_eq_getElem inside, of_decide_eq_true replaceable⟩, ?_⟩
    rintro other ⟨listed, there, replaceable'⟩
    by_contra before
    obtain ⟨_, rfl⟩ := List.getElem?_eq_some_iff.mp there
    exact first other (Nat.lt_of_not_le before) (decide_eq_true replaceable')
  · rintro ⟨⟨listed, here, replaceable⟩, least⟩
    obtain ⟨inside, rfl⟩ := List.getElem?_eq_some_iff.mp here
    refine ⟨inside, decide_eq_true replaceable, fun other before replaceable' => ?_⟩
    have there : rules[other]? = some rules[other] :=
      List.getElem?_eq_getElem (Nat.lt_trans before inside)
    exact Nat.not_lt.mpr (least ⟨_, there, of_decide_eq_true replaceable'⟩) before

theorem findIdx?_mayReplace_eq_none_iff :
    rules.findIdx? (fun listed => rule.MayReplace listed) = none ↔
      ∀ listed ∈ rules, ¬ rule.MayReplace listed := by
  simp only [List.findIdx?_eq_none_iff, decide_eq_false_iff_not]

/-- **What a merge decides.** It does nothing exactly where a listed rule settles the new one. Else
it overwrites exactly the first of the rules that the new one may replace, and appends exactly where
there is none. -/
theorem decide_iff (rule : NameRule) (rules : List SyscallRule) :
    (rule.decide rules = .nothing ↔ ∃ listed ∈ rules, rule.Settles listed) ∧
    (∀ place, rule.decide rules = .overwrite place ↔
      (¬ ∃ listed ∈ rules, rule.Settles listed) ∧
        IsLeast {place | ∃ listed, rules[place]? = some listed ∧ rule.MayReplace listed} place) ∧
    (rule.decide rules = .append ↔
      (¬ ∃ listed ∈ rules, rule.Settles listed) ∧ ∀ listed ∈ rules, ¬ rule.MayReplace listed) := by
  rw [decide_eq_search, search]
  by_cases settled : ∃ listed ∈ rules, rule.Settles listed
  · simp [settled]
  simp only [settled, if_false, not_false_eq_true, true_and, ← findIdx?_mayReplace_iff,
    ← findIdx?_mayReplace_eq_none_iff]
  cases found : rules.findIdx? (fun listed => rule.MayReplace listed) <;> simp

/-! ### One pass from the front -/

theorem prefer_assoc (first second third : Decision) :
    (first.prefer second).prefer third = first.prefer (second.prefer third) := by
  cases first <;> cases second <;> cases third <;> rfl

theorem prefer_append (decision : Decision) : decision.prefer .append = decision := by
  cases decision <;> rfl

/-- A pass from the front, with the decision so far. -/
theorem foldl_prefer_eq (proposal : SyscallRule × Nat → Decision)
    (covered : List (SyscallRule × Nat)) (decision : Decision) :
    covered.foldl (fun decision placed => decision.prefer (proposal placed)) decision =
      decision.prefer (covered.foldr (fun placed => (proposal placed).prefer) .append) := by
  induction covered generalizing decision with
  | nil => rw [List.foldl_nil, List.foldr_nil, prefer_append]
  | cons placed covered hypothesis =>
    rw [List.foldl_cons, List.foldr_cons, hypothesis, prefer_assoc]

/-- **A decision comes of one pass from the front**, which starts with appending and prefers what it
has over each later proposal. -/
theorem decide_eq_foldl (rule : NameRule) (rules : List SyscallRule) :
    rule.decide rules = (covering rule.name rules).foldl
      (fun decision placed => decision.prefer (rule.propose placed.2 placed.1)) .append := by
  rw [decide_eq_foldr, foldl_prefer_eq (fun placed => rule.propose placed.2 placed.1)]
  rfl

end OciBundle.NameRule
