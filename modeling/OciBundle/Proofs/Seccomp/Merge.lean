/-
**Merging rules for different system calls.**

A decision looks at the rules that cover its name, with their places; a merge changes none of those
for another name, since the only rule that is ever overwritten is one for the merged name alone.

* `covering`: the rules that cover a name, with their places.
* `decide_eq_foldr`: a decision is taken on these.
* `names_of_decide`: what is overwritten is listed for the name alone.
* `covering_merge`: a merge leaves the rules of another name, and their places.
* `merge_merge`: two merges are independent of their order.
-/

import OciBundle.Seccomp.Merge

namespace OciBundle.NameRule

variable {name : String} {rule : NameRule} {rules : List SyscallRule}

/-- The rules from a place on that cover a name, with their places. -/
def coveringFrom (name : String) (start : Nat) (rules : List SyscallRule) :
    List (SyscallRule × Nat) :=
  (rules.zipIdx start).filter (·.1.covers name)

/-- The rules that cover a name, with their places. -/
def covering (name : String) (rules : List SyscallRule) : List (SyscallRule × Nat) :=
  coveringFrom name 0 rules

theorem coveringFrom_cons (name : String) (start : Nat) (listed : SyscallRule)
    (rules : List SyscallRule) :
    coveringFrom name start (listed :: rules) =
      if listed.covers name then (listed, start) :: coveringFrom name (start + 1) rules
      else coveringFrom name (start + 1) rules := by
  rw [coveringFrom, List.zipIdx_cons, List.filter_cons, coveringFrom]

/-! ### Decisions -/

theorem decideFrom_eq_foldr (rule : NameRule) (start : Nat) (rules : List SyscallRule) :
    rule.decideFrom start rules = (coveringFrom rule.name start rules).foldr
      (fun placed => (rule.propose placed.2 placed.1).prefer) .append := by
  induction rules generalizing start with
  | nil => rfl
  | cons listed rules hypothesis =>
    rw [decideFrom, coveringFrom_cons, hypothesis]
    split
    · rw [List.foldr_cons]
    · rfl

/-- **A decision is taken on the covering rules** and their places. -/
theorem decide_eq_foldr (rule : NameRule) (rules : List SyscallRule) :
    rule.decide rules = (covering rule.name rules).foldr
      (fun placed => (rule.propose placed.2 placed.1).prefer) .append :=
  decideFrom_eq_foldr rule 0 rules

theorem map_fst_coveringFrom (name : String) (start : Nat) (rules : List SyscallRule) :
    (coveringFrom name start rules).map Prod.fst = rules.filter (·.covers name) := by
  induction rules generalizing start with
  | nil => rfl
  | cons listed rules hypothesis =>
    rw [coveringFrom_cons, List.filter_cons]
    split
    · rw [List.map_cons, hypothesis]
    · rw [hypothesis]

theorem filter_covers (name : String) (rules : List SyscallRule) :
    rules.filter (·.covers name) = (covering name rules).map Prod.fst :=
  (map_fst_coveringFrom name 0 rules).symm

theorem propose_cases (rule : NameRule) (index : Nat) (listed : SyscallRule) :
    rule.propose index listed = .nothing ∨ rule.propose index listed = .append ∨
      rule.propose index listed = .overwrite index ∧ listed.names.length ≤ 1 := by
  unfold propose
  grind

/-- Where a rule that covers the name proposes a place, it is its own one, and the rule is listed
for this name alone. -/
theorem names_of_propose {index place : Nat} {listed : SyscallRule}
    (covers : listed.covers rule.name = true)
    (proposed : rule.propose index listed = .overwrite place) :
    place = index ∧ listed.names = [rule.name] := by
  rcases rule.propose_cases index listed with none | last | ⟨here, few⟩
  · cases none.symm.trans proposed
  · cases last.symm.trans proposed
  · cases here.symm.trans proposed
    have member : rule.name ∈ listed.names := List.contains_iff_mem.mp covers
    have one : listed.names.length = 1 := by
      have some := List.length_pos_of_mem member
      omega
    obtain ⟨only, shape⟩ := List.length_eq_one_iff.mp one
    rw [shape, List.mem_singleton] at member
    exact ⟨rfl, by rw [shape, member]⟩

/-- Of two decisions, one of them is preferred. -/
theorem prefer_eq_overwrite {first second : Decision} {place : Nat}
    (preferred : first.prefer second = .overwrite place) :
    first = .overwrite place ∨ second = .overwrite place := by
  cases first with
  | nothing => cases preferred
  | append => exact .inr preferred
  | overwrite index =>
    cases second with
    | nothing => cases preferred
    | append => exact .inl preferred
    | overwrite other => exact .inl preferred

theorem names_of_decideFrom {start place : Nat}
    (decided : rule.decideFrom start rules = .overwrite place) :
    ∃ index listed, place = start + index ∧ rules[index]? = some listed ∧
      listed.names = [rule.name] := by
  induction rules generalizing start with
  | nil => cases decided
  | cons listed rules hypothesis =>
    have later (decided : rule.decideFrom (start + 1) rules = .overwrite place) :
        ∃ index other, place = start + index ∧ (listed :: rules)[index]? = some other ∧
          other.names = [rule.name] := by
      obtain ⟨index, other, equal, here, names⟩ := hypothesis decided
      exact ⟨index + 1, other, by omega, here, names⟩
    rw [decideFrom] at decided
    split at decided
    next covers =>
      rcases prefer_eq_overwrite decided with proposed | decided
      · obtain ⟨equal, names⟩ := names_of_propose covers proposed
        exact ⟨0, listed, equal, rfl, names⟩
      · exact later decided
    next => exact later decided

/-- **What is overwritten** is listed for the name alone. -/
theorem names_of_decide {place : Nat} (decided : rule.decide rules = .overwrite place) :
    ∃ listed, rules[place]? = some listed ∧ listed.names = [rule.name] := by
  obtain ⟨index, listed, equal, here, names⟩ := names_of_decideFrom decided
  rw [Nat.zero_add] at equal
  exact ⟨listed, equal ▸ here, names⟩

/-! ### Merges -/

/-- A rule for one name covers no other one. -/
theorem covers_of_names {listed : SyscallRule} {only : String} (names : listed.names = [only])
    (other : name ≠ only) : listed.covers name = false := by
  rw [SyscallRule.covers, names, ← Bool.not_eq_true, List.contains_iff_mem, List.mem_singleton]
  exact other

theorem coveringFrom_append_of_not_covers {start : Nat} {listed : SyscallRule}
    (uncovered : listed.covers name = false) :
    coveringFrom name start (rules ++ [listed]) = coveringFrom name start rules := by
  induction rules generalizing start with
  | nil =>
    rw [List.nil_append, coveringFrom_cons, uncovered, if_neg Bool.false_ne_true]
    rfl
  | cons first rules hypothesis =>
    rw [List.cons_append, coveringFrom_cons, coveringFrom_cons, hypothesis]

theorem coveringFrom_set_of_not_covers {start index : Nat} {old new : SyscallRule}
    (here : rules[index]? = some old) (uncovered : old.covers name = false)
    (uncovered' : new.covers name = false) :
    coveringFrom name start (rules.set index new) = coveringFrom name start rules := by
  induction rules generalizing start index with
  | nil => rfl
  | cons first rules hypothesis =>
    cases index with
    | zero =>
      cases here
      rw [List.set_cons_zero, coveringFrom_cons, coveringFrom_cons, uncovered, uncovered',
        if_neg Bool.false_ne_true, if_neg Bool.false_ne_true]
    | succ index =>
      rw [List.set_cons_succ, coveringFrom_cons, coveringFrom_cons, hypothesis here]

theorem apply_overwrite {place : Nat} {listed : SyscallRule}
    (here : rules[place]? = some listed) :
    rule.apply (.overwrite place) rules = rules.set place rule.toRule := by
  obtain ⟨inside, _⟩ := List.getElem?_eq_some_iff.mp here
  rw [apply, if_pos inside]

/-- **A merge leaves the rules of another name**, and their places. -/
theorem covering_merge (other : name ≠ rule.name) :
    covering name (rule.merge rules) = covering name rules := by
  have uncovered : rule.toRule.covers name = false := covers_of_names rfl other
  rw [merge]
  cases decided : rule.decide rules with
  | nothing => rfl
  | append => exact coveringFrom_append_of_not_covers uncovered
  | overwrite place =>
    obtain ⟨listed, here, names⟩ := names_of_decide decided
    rw [apply_overwrite here]
    exact coveringFrom_set_of_not_covers here (covers_of_names names other) uncovered

theorem filter_covers_merge (other : name ≠ rule.name) :
    (rule.merge rules).filter (·.covers name) = rules.filter (·.covers name) := by
  rw [filter_covers, covering_merge other, filter_covers]

/-- A decision does not depend on merges for other names. -/
theorem decide_merge {rule' : NameRule} (different : rule.name ≠ rule'.name) :
    rule.decide (rule'.merge rules) = rule.decide rules := by
  rw [decide_eq_foldr, covering_merge different, decide_eq_foldr]

/-! ### Two merges -/

section Two

variable {first second : NameRule}

/-- Two merges, each with the decision for the original list. -/
theorem merge_merge_eq (different : first.name ≠ second.name) :
    second.merge (first.merge rules) =
      second.apply (second.decide rules) (first.apply (first.decide rules) rules) := by
  rw [merge, decide_merge different.symm, merge]

/-- An overwriting merge and an appending one. -/
theorem apply_overwrite_append {place : Nat} {listed new : SyscallRule}
    (here : rules[place]? = some listed) :
    first.apply (.overwrite place) (rules ++ [new]) =
      first.apply (.overwrite place) rules ++ [new] := by
  obtain ⟨inside, _⟩ := List.getElem?_eq_some_iff.mp here
  rw [apply_overwrite here, apply_overwrite (by rw [List.getElem?_append_left inside, here]),
    List.set_append_left _ _ inside]

/-- Two overwriting merges. -/
theorem apply_overwrite_overwrite (different : first.name ≠ second.name) {place place' : Nat}
    (decided : first.decide rules = .overwrite place)
    (decided' : second.decide rules = .overwrite place') :
    second.apply (.overwrite place') (first.apply (.overwrite place) rules) =
      first.apply (.overwrite place) (second.apply (.overwrite place') rules) := by
  obtain ⟨listed, here, names⟩ := names_of_decide decided
  obtain ⟨listed', here', names'⟩ := names_of_decide decided'
  have apart : place ≠ place' := by
    rintro rfl
    cases here.symm.trans here'
    exact different (List.cons.inj (names.symm.trans names')).1
  rw [apply_overwrite here, apply_overwrite here',
    apply_overwrite (by rw [List.getElem?_set_ne apart, here']),
    apply_overwrite (by rw [List.getElem?_set_ne apart.symm, here]), List.set_comm _ _ apart]

/-- Merges that do not both append give the same list in both orders. -/
theorem merge_comm (different : first.name ≠ second.name)
    (notBoth : ¬ (first.decide rules = .append ∧ second.decide rules = .append)) :
    second.merge (first.merge rules) = first.merge (second.merge rules) := by
  rw [merge_merge_eq different, merge_merge_eq different.symm]
  cases decided : first.decide rules with
  | nothing => rfl
  | append =>
    cases decided' : second.decide rules with
    | nothing => rfl
    | append => exact absurd ⟨decided, decided'⟩ notBoth
    | overwrite place' =>
      obtain ⟨listed, here, _⟩ := names_of_decide decided'
      exact apply_overwrite_append here
  | overwrite place =>
    cases decided' : second.decide rules with
    | nothing => rfl
    | append =>
      obtain ⟨listed, here, _⟩ := names_of_decide decided
      exact (apply_overwrite_append here).symm
    | overwrite place' => exact apply_overwrite_overwrite different decided decided'

/-- Where both merges append, the lists differ in their last two rules. -/
theorem merge_merge_of_append (different : first.name ≠ second.name)
    (decided : first.decide rules = .append) (decided' : second.decide rules = .append) :
    second.merge (first.merge rules) = rules ++ [first.toRule, second.toRule] := by
  rw [merge_merge_eq different, decided, decided', apply, apply, List.append_assoc]
  rfl

/-- The lists of both orders hold the same rules. -/
theorem perm_merge_merge (different : first.name ≠ second.name) :
    (second.merge (first.merge rules)).Perm (first.merge (second.merge rules)) := by
  by_cases both : first.decide rules = .append ∧ second.decide rules = .append
  · rw [merge_merge_of_append different both.1 both.2,
      merge_merge_of_append different.symm both.2 both.1]
    exact (List.Perm.swap _ _ _).append_left rules
  · rw [merge_comm different both]

/-- The lists of both orders are equal only if not both rules are appended. -/
theorem merge_comm_iff (different : first.name ≠ second.name) :
    second.merge (first.merge rules) = first.merge (second.merge rules) ↔
      ¬ (first.decide rules = .append ∧ second.decide rules = .append) := by
  refine ⟨fun equal both => ?_, merge_comm different⟩
  rw [merge_merge_of_append different both.1 both.2,
    merge_merge_of_append different.symm both.2 both.1] at equal
  have same : first.toRule = second.toRule := (List.cons.inj (List.append_cancel_left equal)).1
  exact different (List.cons.inj (congrArg SyscallRule.names same)).1

/-- The rules of every name are the same in both orders. -/
theorem filter_covers_merge_merge (different : first.name ≠ second.name) (name : String) :
    (second.merge (first.merge rules)).filter (·.covers name) =
      (first.merge (second.merge rules)).filter (·.covers name) := by
  by_cases both : first.decide rules = .append ∧ second.decide rules = .append
  · rw [merge_merge_of_append different both.1 both.2,
      merge_merge_of_append different.symm both.2 both.1, List.filter_append, List.filter_append]
    by_cases here : name = first.name
    · have uncovered : second.toRule.covers name = false :=
        covers_of_names rfl (here ▸ different)
      simp [List.filter_cons, uncovered]
    · have uncovered : first.toRule.covers name = false := covers_of_names rfl here
      simp [List.filter_cons, uncovered]
  · rw [merge_comm different both]

/-- **Merging rules for different system calls does not depend on their order.** Each decision is
the same with or without the other rule; the lists hold the same rules, and are equal unless both
rules are appended; the rules of every name are the same, in the same order; and a merge leaves the
rules of every other name. -/
theorem merge_merge (different : first.name ≠ second.name) (rules : List SyscallRule) :
    (second.decide (first.merge rules) = second.decide rules ∧
      first.decide (second.merge rules) = first.decide rules) ∧
    (second.merge (first.merge rules)).Perm (first.merge (second.merge rules)) ∧
    (second.merge (first.merge rules) = first.merge (second.merge rules) ↔
      ¬ (first.decide rules = .append ∧ second.decide rules = .append)) ∧
    (∀ name, (second.merge (first.merge rules)).filter (·.covers name) =
      (first.merge (second.merge rules)).filter (·.covers name)) ∧
    ∀ name, (name ≠ first.name →
        (first.merge rules).filter (·.covers name) = rules.filter (·.covers name)) ∧
      (name ≠ second.name →
        (second.merge rules).filter (·.covers name) = rules.filter (·.covers name)) := by
  refine ⟨⟨decide_merge different.symm, decide_merge different⟩, perm_merge_merge different,
    merge_comm_iff different, filter_covers_merge_merge different, fun name => ?_⟩
  exact ⟨fun other => filter_covers_merge other, fun other => filter_covers_merge other⟩

end Two

/-- A rule that is overwritten among several, and one that is appended. -/
theorem merge_merge_write_read :
    let first : NameRule := ⟨"write", .errno, []⟩
    let second : NameRule := ⟨"read", .errno, []⟩
    let rules : List SyscallRule :=
      [⟨["write", "read"], "SCMP_ACT_ALLOW", []⟩, ⟨["write"], "SCMP_ACT_ALLOW", []⟩, ⟨[], "", []⟩]
    first.name ≠ second.name ∧
      second.merge (first.merge rules) = first.merge (second.merge rules) ∧
      (second.merge (first.merge rules)).filter (·.covers "write") =
        (first.merge (second.merge rules)).filter (·.covers "write") := by
  intro first second rules
  have different : first.name ≠ second.name := by decide
  have both := merge_merge different rules
  exact ⟨different, both.2.2.1.mpr (by decide), both.2.2.2.1 "write"⟩

end OciBundle.NameRule
