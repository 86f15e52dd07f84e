/-
**What a dropped rule is implied by.**

A rule stands for the calls that have one of its names and meet all of its conditions. A merge drops
a rule where a listed one with its action is the same or more exact. If that one has the conditions
of the new rule, it implies it, whatever the conditions mean. If it has conditions and the new rule
has none, the more exact rule stands, and the other calls of the name are not decided by it.

* `Interpretation`: calls with their names, and the conditions that they meet.
* `SyscallRule.Matches`, `NameRule.Implied`: the calls of a rule, and rules that have them all.
* `implied_literal_iff`: what is implied when no call meets a condition.
* `implied_iff`: which dropped rules are implied, whatever the conditions mean.
* `not_implied_read`: a dropped rule that is not.
-/

import OciBundle.Proofs.Seccomp.Decision

namespace OciBundle

variable {Call : Type}

/-- Calls with their names, and the conditions that they meet. -/
structure Interpretation (Call : Type) where
  name : Call → String
  Meets : Call → ArgCondition → Prop

/-- Whether a rule lists the name of a call, and the call meets all its conditions. -/
def SyscallRule.Matches (meaning : Interpretation Call) (rule : SyscallRule) (call : Call) : Prop :=
  rule.covers (meaning.name call) = true ∧ ∀ condition ∈ rule.args, meaning.Meets call condition

namespace NameRule

variable {meaning : Interpretation Call} {rule : NameRule} {listed : SyscallRule}
  {rules : List SyscallRule}

/-- Whether every call that a rule matches is matched by a listed rule with its action. -/
def Implied (meaning : Interpretation Call) (rule : NameRule) (rules : List SyscallRule) : Prop :=
  ∀ call, rule.toRule.Matches meaning call →
    ∃ listed ∈ rules, listed.action = rule.action.text ∧ listed.Matches meaning call

/-- A rule for one name matches calls of this name. -/
theorem name_of_matches {call : Call} (matched : rule.toRule.Matches meaning call) :
    meaning.name call = rule.name := by
  have member : meaning.name call ∈ [rule.name] := List.contains_iff_mem.mp matched.1
  exact List.mem_singleton.mp member

/-- A rule is implied by one that has its name and its action and no condition more. -/
theorem implied_of_subset (member : listed ∈ rules) (covers : listed.covers rule.name = true)
    (same : listed.action = rule.action.text) (fewer : listed.args ⊆ rule.args) :
    rule.Implied meaning rules := by
  intro call matched
  refine ⟨listed, member, same, ?_, fun condition inside => matched.2 condition (fewer inside)⟩
  rw [name_of_matches matched]
  exact covers

/-- A listed rule that settles a new one matches no other calls of its name. -/
theorem Settles.matches_toRule (settles : rule.Settles listed) {call : Call}
    (named : meaning.name call = rule.name) (matched : listed.Matches meaning call) :
    rule.toRule.Matches meaning call := by
  obtain ⟨_, _, implied⟩ := settles
  refine ⟨?_, fun condition inside => ?_⟩
  · rw [named]
    exact covers_of_names_eq rfl
  · have conditions : condition ∈ rule.args := inside
    rcases implied with none | equal
    · rw [none] at conditions
      cases conditions
    · exact matched.2 condition (equal ▸ conditions)

/-! ### Calls that meet no condition -/

/-- Calls that are names and nothing else, and meet no condition. -/
def literal : Interpretation String where
  name := id
  Meets _ _ := False

theorem matches_literal_iff {name : String} :
    listed.Matches literal name ↔ listed.covers name = true ∧ listed.args = [] :=
  and_congr_right fun _ => List.eq_nil_iff_forall_not_mem.symm

/-- Of such calls, a rule with conditions matches none, and one without needs another one without. -/
theorem implied_literal_iff :
    rule.Implied literal rules ↔ rule.args ≠ [] ∨ ∃ listed ∈ rules,
      listed.covers rule.name = true ∧ listed.action = rule.action.text ∧ listed.args = [] := by
  by_cases unconditional : rule.args = []
  · rw [or_iff_right (not_not_intro unconditional)]
    constructor
    · intro implied
      have matched : rule.toRule.Matches literal rule.name :=
        matches_literal_iff.mpr ⟨covers_of_names_eq rfl, unconditional⟩
      obtain ⟨listed, member, same, matched'⟩ := implied rule.name matched
      obtain ⟨covers, none⟩ := matches_literal_iff.mp matched'
      exact ⟨listed, member, covers, same, none⟩
    · rintro ⟨listed, member, covers, same, none⟩
      exact implied_of_subset member covers same (none ▸ List.nil_subset _)
  · refine iff_of_true (fun name matched => ?_) (.inl unconditional)
    exact absurd (matches_literal_iff.mp matched).2 unconditional

/-! ### Dropped rules -/

/-- **What a dropped rule is implied by.** A listed rule with its action has its name, and matches no
other calls of this name. The list implies the rule, whatever the conditions mean, exactly if it has
conditions, or a listed rule with its name and its action has none. -/
theorem implied_iff (decided : rule.decide rules = .nothing) :
    (∃ listed ∈ rules, listed.covers rule.name = true ∧ listed.action = rule.action.text ∧
      ∀ (Call : Type) (meaning : Interpretation Call) (call : Call),
        meaning.name call = rule.name → listed.Matches meaning call →
          rule.toRule.Matches meaning call) ∧
    ((∀ (Call : Type) (meaning : Interpretation Call), rule.Implied meaning rules) ↔
      rule.args ≠ [] ∨ ∃ listed ∈ rules,
        listed.covers rule.name = true ∧ listed.action = rule.action.text ∧ listed.args = []) := by
  obtain ⟨listed, member, settles⟩ := decide_eq_nothing_iff.mp decided
  have narrower (Call : Type) (meaning : Interpretation Call) (call : Call) :
      meaning.name call = rule.name → listed.Matches meaning call →
        rule.toRule.Matches meaning call := settles.matches_toRule
  obtain ⟨covers, same, either⟩ := settles
  refine ⟨⟨listed, member, covers, same, narrower⟩, ?_, ?_⟩
  · intro implied
    exact implied_literal_iff.mp (implied String literal)
  · rintro (conditional | ⟨other, member', covers', same', none⟩) Call meaning
    · have equal : listed.args = rule.args := either.resolve_left conditional
      exact implied_of_subset member covers same (equal ▸ List.Subset.refl _)
    · exact implied_of_subset member' covers' same' (none ▸ List.nil_subset _)

/-- A rule with conditions is dropped beside a rule for several names that has the same ones. -/
theorem implied_iff_read :
    let condition : ArgCondition := ⟨0, 1, 0, "SCMP_CMP_EQ"⟩
    let rule : NameRule := ⟨"read", .errno, [condition]⟩
    let rules : List SyscallRule :=
      [⟨["read"], "SCMP_ACT_ALLOW", []⟩, ⟨["write", "read"], "SCMP_ACT_ERRNO", [condition]⟩]
    rule.decide rules = .nothing ∧
      ∀ (Call : Type) (meaning : Interpretation Call), rule.Implied meaning rules := by
  intro condition rule rules
  have decided : rule.decide rules = .nothing := by decide
  exact ⟨decided, (implied_iff decided).2.mpr (.inl (by decide))⟩

/-- **A dropped rule that is not implied**: every read is to be allowed, and the list allows those
with a certain first argument. A read with another one is matched by the rule, and by no listed rule
with its action. -/
theorem not_implied_read :
    let rule : NameRule := ⟨"read", .allow, []⟩
    let rules : List SyscallRule :=
      [⟨["read"], "SCMP_ACT_ALLOW", [⟨0, 1, 0, "SCMP_CMP_EQ"⟩]⟩]
    let meaning : Interpretation (String × UInt64) :=
      ⟨Prod.fst, fun call condition => call.2 = condition.value⟩
    rule.decide rules = .nothing ∧ rule.toRule.Matches meaning ("read", 0) ∧
      ¬ ∃ listed ∈ rules, listed.action = rule.action.text ∧
        listed.Matches meaning ("read", 0) := by
  intro rule rules meaning
  refine ⟨by decide, ⟨by decide, fun _ inside => absurd inside List.not_mem_nil⟩, ?_⟩
  rintro ⟨listed, member, _, _, meets⟩
  rw [List.mem_singleton.mp member] at meets
  have equal : (0 : UInt64) = 1 := meets _ List.mem_cons_self
  exact absurd equal (by decide)

end NameRule

end OciBundle
