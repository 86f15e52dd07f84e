/-
**Contradictory rules.**

A list of rules contradicts itself when two rules cover the same name under the same conditions and
have different actions. Merging never lists two unconditional rules that contradict each other. It
lists contradictory rules with conditions in one way only: the merged rule takes the place of the
unconditional rule of its action, the first place that it may have, while a later rule has the same
conditions and another action.

* `Says`, `Contradictory`: what a list says of a name under some conditions.
* `NameRule.Narrows`: the merge that leaves a contradictory rule.
* `Tidy`: what holds of every list that is made by merging.
* `contradictory_merge_iff`: when a list is contradictory after one merge.
* `contradictory_mergeAll_iff`: when it is after a sequence of merges.
-/

import Mathlib.Data.List.Nodup
import OciBundle.Proofs.Seccomp.Merge

namespace OciBundle

variable {name : String} {args : List ArgCondition} {action : String} {rule : NameRule}
  {rules : List SyscallRule}

/-- Whether a list says to do an action for a name under some conditions. -/
def Says (name : String) (args : List ArgCondition) (action : String)
    (rules : List SyscallRule) : Prop :=
  ∃ listed ∈ rules, listed.covers name = true ∧ listed.args = args ∧ listed.action = action

/-- Whether a list says two different things for a name under the same conditions. -/
def Contradictory (name : String) (args : List ArgCondition) (rules : List SyscallRule) : Prop :=
  ∃ first second, Says name args first rules ∧ Says name args second rules ∧ first ≠ second

namespace NameRule

/-- The list after merging rules one after the other. -/
def mergeAll (merged : List NameRule) (rules : List SyscallRule) : List SyscallRule :=
  merged.foldl (fun listed rule => rule.merge listed) rules

/-- Whether a merge puts the rule in the place of a listed one. -/
def Replaces (rule : NameRule) (rules : List SyscallRule) (listed : SyscallRule) : Prop :=
  ∃ place, rule.decide rules = .overwrite place ∧ rules[place]? = some listed

/-- Whether a rule with conditions takes the place of an unconditional one, while the list says
something else under its conditions. -/
def Narrows (rule : NameRule) (rules : List SyscallRule) : Prop :=
  rule.args ≠ [] ∧ (∃ listed, rule.Replaces rules listed ∧ listed.args = []) ∧
    ∃ action, Says rule.name rule.args action rules ∧ action ≠ rule.action.text

/-! ### Decisions -/

theorem prefer_eq_append {first second : Decision} (preferred : first.prefer second = .append) :
    first = .append ∧ second = .append := by
  cases first with
  | nothing => cases preferred
  | append => exact ⟨rfl, preferred⟩
  | overwrite index => cases second <;> cases preferred

theorem prefer_eq_nothing {first second : Decision}
    (either : first = .nothing ∨ second = .nothing) : first.prefer second = .nothing := by
  rcases either with rfl | rfl
  · rfl
  · cases first <;> rfl

theorem mem_covering {placed : SyscallRule × Nat} :
    placed ∈ covering name rules ↔ rules[placed.2]? = some placed.1 ∧ placed.1.covers name := by
  rw [covering, coveringFrom, List.mem_filter, List.mem_zipIdx_iff_getElem?]

theorem foldr_prefer_eq_nothing (proposal : SyscallRule × Nat → Decision)
    {placed : SyscallRule × Nat} {covered : List (SyscallRule × Nat)} (member : placed ∈ covered)
    (proposed : proposal placed = .nothing) :
    covered.foldr (fun placed => (proposal placed).prefer) .append = .nothing := by
  induction covered with
  | nil => cases member
  | cons first covered hypothesis =>
    rw [List.foldr_cons]
    rcases List.mem_cons.mp member with rfl | later
    · exact prefer_eq_nothing (.inl proposed)
    · exact prefer_eq_nothing (.inr (hypothesis later))

theorem foldr_prefer_eq_append {proposal : SyscallRule × Nat → Decision}
    {covered : List (SyscallRule × Nat)}
    (decided : covered.foldr (fun placed => (proposal placed).prefer) .append = .append) :
    ∀ placed ∈ covered, proposal placed = .append := by
  induction covered with
  | nil => exact fun placed member => absurd member List.not_mem_nil
  | cons first covered hypothesis =>
    obtain ⟨here, later⟩ := prefer_eq_append decided
    exact List.forall_mem_cons.mpr ⟨here, hypothesis later⟩

theorem foldr_prefer_eq_overwrite {proposal : SyscallRule × Nat → Decision}
    {covered : List (SyscallRule × Nat)} {place : Nat}
    (decided : covered.foldr (fun placed => (proposal placed).prefer) .append =
      .overwrite place) :
    ∃ placed ∈ covered, proposal placed = .overwrite place := by
  induction covered with
  | nil => cases decided
  | cons first covered hypothesis =>
    rcases prefer_eq_overwrite decided with here | later
    · exact ⟨first, List.mem_cons_self, here⟩
    · obtain ⟨placed, member, proposed⟩ := hypothesis later
      exact ⟨placed, List.mem_cons_of_mem _ member, proposed⟩

/-- A rule that is not dropped says more than every rule of its action for its name. -/
theorem args_of_decide_ne_nothing {listed : SyscallRule} (decided : rule.decide rules ≠ .nothing)
    (member : listed ∈ rules) (covers : listed.covers rule.name = true)
    (same : listed.action = rule.action.text) : rule.args ≠ [] ∧ listed.args ≠ rule.args := by
  obtain ⟨index, here⟩ := List.getElem?_of_mem member
  rw [← not_or]
  intro implied
  have proposed : rule.propose index listed = .nothing := by
    rw [propose, if_pos same, if_pos implied]
  have covered : (listed, index) ∈ covering rule.name rules := mem_covering.mpr ⟨here, covers⟩
  rw [decide_eq_foldr] at decided
  exact decided (foldr_prefer_eq_nothing (fun placed => rule.propose placed.2 placed.1)
    covered proposed)

/-- A rule is appended to rules for single names only if it neither narrows nor contradicts one. -/
theorem args_of_decide_eq_append {listed : SyscallRule} (decided : rule.decide rules = .append)
    (single : listed.names.length ≤ 1) (member : listed ∈ rules)
    (covers : listed.covers rule.name = true) :
    if listed.action = rule.action.text then listed.args ≠ [] else listed.args ≠ rule.args := by
  obtain ⟨index, here⟩ := List.getElem?_of_mem member
  have proposed : rule.propose index listed = .append := by
    rw [decide_eq_foldr] at decided
    exact foldr_prefer_eq_append decided (listed, index) (mem_covering.mpr ⟨here, covers⟩)
  have few : ¬ listed.names.length > 1 := Nat.not_lt.mpr single
  rw [propose, if_neg few] at proposed
  grind

/-- A rule that takes a place either narrows the rule there or contradicts it. -/
theorem names_of_replaces {listed : SyscallRule} (replaces : rule.Replaces rules listed) :
    listed.names = [rule.name] ∧
      if listed.action = rule.action.text then listed.args = [] else listed.args = rule.args := by
  obtain ⟨place, decided, here⟩ := replaces
  rw [decide_eq_foldr] at decided
  obtain ⟨⟨other, index⟩, member, proposed⟩ := foldr_prefer_eq_overwrite decided
  obtain ⟨there, covers⟩ := mem_covering.mp member
  obtain ⟨rfl, names⟩ := names_of_propose covers proposed
  cases here.symm.trans there
  refine ⟨names, ?_⟩
  rw [propose] at proposed
  grind

theorem decide_ne_nothing_of_replaces {listed : SyscallRule}
    (replaces : rule.Replaces rules listed) : rule.decide rules ≠ .nothing := by
  obtain ⟨place, decided, _⟩ := replaces
  rw [decided]
  exact Decision.noConfusion

/-- A merge replaces one rule at most. -/
theorem Replaces.unique {first second : SyscallRule} (replaces : rule.Replaces rules first)
    (replaces' : rule.Replaces rules second) : first = second := by
  obtain ⟨place, decided, here⟩ := replaces
  obtain ⟨place', decided', there⟩ := replaces'
  cases decided.symm.trans decided'
  exact Option.some.inj (here.symm.trans there)

end NameRule

/-! ### Tidy lists -/

/-- What holds of every list that is made by merging: each rule has one name, no rule is listed
twice, and a name has one unconditional rule at most. -/
structure Tidy (rules : List SyscallRule) : Prop where
  names : ∀ listed ∈ rules, ∃ name, listed.names = [name]
  nodup : rules.Nodup
  unconditional : ∀ first ∈ rules, ∀ second ∈ rules, first.args = [] → second.args = [] →
    first.names = second.names → first = second

theorem covers_of_names_eq {listed : SyscallRule} (names : listed.names = [name]) :
    listed.covers name = true := by
  rw [SyscallRule.covers, names, List.contains_iff_mem]
  exact List.mem_singleton.mpr rfl

/-- A rule that is not dropped is not listed. -/
theorem toRule_not_mem (decided : rule.decide rules ≠ .nothing) : rule.toRule ∉ rules := by
  intro member
  exact (rule.args_of_decide_ne_nothing decided member (covers_of_names_eq rfl) rfl).2 rfl

namespace Tidy

theorem nil : Tidy [] where
  names _ member := absurd member List.not_mem_nil
  nodup := List.nodup_nil
  unconditional _ member := absurd member List.not_mem_nil

/-- In a tidy list a name is covered by the rules that have this name alone. -/
theorem says_iff (tidy : Tidy rules) :
    Says name args action rules ↔ ⟨[name], action, args⟩ ∈ rules := by
  constructor
  · rintro ⟨⟨names, action, args⟩, member, covers, rfl, rfl⟩
    obtain ⟨only, single⟩ := tidy.names _ member
    by_cases same : name = only
    · rw [same]
      exact single ▸ member
    · rw [NameRule.covers_of_names single same] at covers
      cases covers
  · intro member
    exact ⟨_, member, covers_of_names_eq rfl, rfl, rfl⟩

theorem contradictory_iff (tidy : Tidy rules) :
    Contradictory name args rules ↔
      ∃ first second, ⟨[name], first, args⟩ ∈ rules ∧ ⟨[name], second, args⟩ ∈ rules ∧
        first ≠ second := by
  simp only [Contradictory, tidy.says_iff]

theorem not_contradictory_nil (tidy : Tidy rules) : ¬ Contradictory name [] rules := by
  rw [tidy.contradictory_iff]
  rintro ⟨first, second, said, said', different⟩
  have same := tidy.unconditional _ said _ said' rfl rfl rfl
  exact different (congrArg SyscallRule.action same)

/-- **The rules after a merge** that does not drop the rule. -/
theorem mem_merge (tidy : Tidy rules) (decided : rule.decide rules ≠ .nothing)
    (listed : SyscallRule) :
    listed ∈ rule.merge rules ↔
      listed = rule.toRule ∨ listed ∈ rules ∧ ¬ rule.Replaces rules listed := by
  rw [NameRule.merge]
  cases decision : rule.decide rules with
  | nothing => exact absurd decision decided
  | append =>
    have replacesNone : ¬ rule.Replaces rules listed := by
      rintro ⟨place, other, _⟩
      cases decision.symm.trans other
    rw [NameRule.apply, List.mem_append, List.mem_singleton, or_comm]
    exact or_congr_right (and_iff_left replacesNone).symm
  | overwrite place =>
    obtain ⟨old, here, _⟩ := NameRule.names_of_decide decision
    obtain ⟨inside, _⟩ := List.getElem?_eq_some_iff.mp here
    have replaced : rule.Replaces rules old := ⟨place, decision, here⟩
    rw [NameRule.apply_overwrite here, List.mem_iff_getElem?]
    constructor
    · rintro ⟨index, found⟩
      by_cases same : place = index
      · rw [← same, List.getElem?_set_self inside] at found
        exact .inl (Option.some.inj found).symm
      · rw [List.getElem?_set_ne same] at found
        refine .inr ⟨List.mem_of_getElem? found, fun replaced' => same ?_⟩
        rw [replaced'.unique replaced, ← here] at found
        exact (List.getElem?_inj inside tidy.nodup).mp found.symm
    · rintro (rfl | ⟨member, kept⟩)
      · exact ⟨place, List.getElem?_set_self inside⟩
      · obtain ⟨index, found⟩ := List.getElem?_of_mem member
        refine ⟨index, ?_⟩
        rw [List.getElem?_set_ne, found]
        rintro rfl
        exact kept ⟨place, decision, found⟩

/-- A merge does not list a second unconditional rule for a name. -/
theorem args_of_kept (tidy : Tidy rules) (decided : rule.decide rules ≠ .nothing)
    {listed : SyscallRule} (member : listed ∈ rules) (kept : ¬ rule.Replaces rules listed)
    (names : listed.names = [rule.name]) (unconditional : listed.args = []) :
    rule.args ≠ [] := by
  intro empty
  have differs : listed.action ≠ rule.action.text := fun same =>
    (rule.args_of_decide_ne_nothing decided member (covers_of_names_eq names) same).1 empty
  cases decision : rule.decide rules with
  | nothing => exact decided decision
  | append =>
    have apart := NameRule.args_of_decide_eq_append decision (by simp [names]) member
      (covers_of_names_eq names)
    rw [if_neg differs, unconditional, empty] at apart
    exact apart rfl
  | overwrite place =>
    obtain ⟨old, here, single⟩ := NameRule.names_of_decide decision
    have replaced : rule.Replaces rules old := ⟨place, decision, here⟩
    have none : old.args = [] := by
      have either := (NameRule.names_of_replaces replaced).2
      rw [empty, ite_self] at either
      exact either
    have inside : old ∈ rules := List.mem_of_getElem? here
    have same : old = listed :=
      tidy.unconditional old inside listed member none unconditional (single.trans names.symm)
    exact kept (same ▸ replaced)

theorem nodup_merge (tidy : Tidy rules) (decided : rule.decide rules ≠ .nothing) :
    (rule.merge rules).Nodup := by
  have fresh := toRule_not_mem decided
  rw [NameRule.merge]
  cases decision : rule.decide rules with
  | nothing => exact absurd decision decided
  | append => exact List.nodup_append.mpr ⟨tidy.nodup, List.nodup_singleton _, by grind⟩
  | overwrite place =>
    obtain ⟨old, here, _⟩ := NameRule.names_of_decide decision
    rw [NameRule.apply_overwrite here]
    exact tidy.nodup.set fresh

theorem merge_of_decide_eq_nothing (decided : rule.decide rules = .nothing) :
    rule.merge rules = rules := by
  rw [NameRule.merge, decided, NameRule.apply]

/-- **Merging keeps a list tidy.** -/
theorem merge (tidy : Tidy rules) (rule : NameRule) : Tidy (rule.merge rules) := by
  by_cases decided : rule.decide rules = .nothing
  · rw [merge_of_decide_eq_nothing decided]
    exact tidy
  constructor
  case names =>
    intro listed member
    rcases (tidy.mem_merge decided listed).mp member with rfl | ⟨old, _⟩
    · exact ⟨rule.name, rfl⟩
    · exact tidy.names listed old
  case nodup => exact tidy.nodup_merge decided
  case unconditional =>
    intro first member second member' none none' same
    rcases (tidy.mem_merge decided first).mp member with rfl | ⟨old, kept⟩
    · rcases (tidy.mem_merge decided second).mp member' with rfl | ⟨old', kept'⟩
      · rfl
      · exact absurd none (tidy.args_of_kept decided old' kept' same.symm none')
    · rcases (tidy.mem_merge decided second).mp member' with rfl | ⟨old', _⟩
      · exact absurd none' (tidy.args_of_kept decided old kept same none)
      · exact tidy.unconditional first old second old' none none' same

end Tidy

/-! ### One merge -/

namespace Tidy

/-- A rule that is listed, and not replaced, with the conditions of a merged one. -/
theorem contradictory_or_narrows (tidy : Tidy rules) (decided : rule.decide rules ≠ .nothing)
    (member : ⟨[rule.name], action, rule.args⟩ ∈ rules)
    (kept : ¬ rule.Replaces rules ⟨[rule.name], action, rule.args⟩)
    (different : action ≠ rule.action.text) :
    Contradictory rule.name rule.args rules ∨ rule.Narrows rules := by
  cases decision : rule.decide rules with
  | nothing => exact absurd decision decided
  | append =>
    have apart := NameRule.args_of_decide_eq_append decision Nat.le.refl member
      (covers_of_names_eq rfl)
    rw [if_neg different] at apart
    exact absurd rfl apart
  | overwrite place =>
    obtain ⟨⟨names, action', args⟩, here, single⟩ := NameRule.names_of_decide decision
    have replaced : rule.Replaces rules ⟨names, action', args⟩ := ⟨place, decision, here⟩
    have inside := List.mem_of_getElem? here
    obtain ⟨rfl, either⟩ := NameRule.names_of_replaces replaced
    by_cases same : action' = rule.action.text
    · rw [if_pos same] at either
      have more := rule.args_of_decide_ne_nothing decided inside (covers_of_names_eq rfl) same
      exact .inr ⟨more.1, ⟨_, replaced, either⟩, action, tidy.says_iff.mpr member, different⟩
    · rw [if_neg same] at either
      obtain rfl : args = rule.args := either
      refine .inl (tidy.contradictory_iff.mpr ⟨action, action', member, inside, ?_⟩)
      rintro rfl
      exact kept replaced

/-- A contradiction stays when one of its rules is replaced. -/
theorem contradictory_merge_of_replaces (tidy : Tidy rules) {second : String}
    (replaced : rule.Replaces rules ⟨[name], action, args⟩)
    (member : ⟨[name], action, args⟩ ∈ rules) (member' : ⟨[name], second, args⟩ ∈ rules)
    (different : action ≠ second) : Contradictory name args (rule.merge rules) := by
  have decided := rule.decide_ne_nothing_of_replaces replaced
  have conditional : args ≠ [] := by
    rintro rfl
    exact tidy.not_contradictory_nil
      (tidy.contradictory_iff.mpr ⟨action, second, member, member', different⟩)
  obtain ⟨single, either⟩ := NameRule.names_of_replaces replaced
  obtain rfl : name = rule.name := (List.cons.inj single).1
  obtain rfl : args = rule.args := by
    by_cases same : action = rule.action.text
    · rw [if_pos same] at either
      exact absurd either conditional
    · rw [if_neg same] at either
      exact either
  have said : ⟨[rule.name], rule.action.text, rule.args⟩ ∈ rule.merge rules :=
    (tidy.mem_merge decided _).mpr (.inl rfl)
  have said' : ⟨[rule.name], second, rule.args⟩ ∈ rule.merge rules := by
    refine (tidy.mem_merge decided _).mpr (.inr ⟨member', fun replaced' => different ?_⟩)
    exact congrArg SyscallRule.action (replaced.unique replaced')
  refine (tidy.merge rule).contradictory_iff.mpr ⟨_, _, said, said', ?_⟩
  rintro rfl
  exact toRule_not_mem decided member'

/-- **When a list is contradictory after a merge**: it was so, or the rule narrows one. -/
theorem contradictory_merge_iff (tidy : Tidy rules) :
    Contradictory name args (rule.merge rules) ↔
      Contradictory name args rules ∨
        (rule.name = name ∧ rule.args = args) ∧ rule.Narrows rules := by
  by_cases decided : rule.decide rules = .nothing
  · have narrowsNone : ¬ rule.Narrows rules := by
      rintro ⟨_, ⟨listed, replaced, _⟩, _⟩
      exact NameRule.decide_ne_nothing_of_replaces replaced decided
    rw [merge_of_decide_eq_nothing decided, or_iff_left fun narrows => narrowsNone narrows.2]
  rw [(tidy.merge rule).contradictory_iff]
  constructor
  · rintro ⟨first, second, member, member', different⟩
    rcases (tidy.mem_merge decided _).mp member with new | ⟨old, kept⟩
    · cases new
      rcases (tidy.mem_merge decided _).mp member' with new' | ⟨old', kept'⟩
      · cases new'
        exact absurd rfl different
      · exact (tidy.contradictory_or_narrows decided old' kept' different.symm).imp_right
          fun narrows => ⟨⟨rfl, rfl⟩, narrows⟩
    · rcases (tidy.mem_merge decided _).mp member' with new' | ⟨old', _⟩
      · cases new'
        exact (tidy.contradictory_or_narrows decided old kept different).imp_right
          fun narrows => ⟨⟨rfl, rfl⟩, narrows⟩
      · exact .inl (tidy.contradictory_iff.mpr ⟨first, second, old, old', different⟩)
  · rw [← (tidy.merge rule).contradictory_iff]
    rintro (before | ⟨⟨rfl, rfl⟩, conditional, ⟨listed, replaced, unconditional⟩, other, said, different⟩)
    · obtain ⟨first, second, member, member', different⟩ := tidy.contradictory_iff.mp before
      by_cases replaced : rule.Replaces rules ⟨[name], first, args⟩
      · exact tidy.contradictory_merge_of_replaces replaced member member' different
      by_cases replaced' : rule.Replaces rules ⟨[name], second, args⟩
      · exact tidy.contradictory_merge_of_replaces replaced' member' member different.symm
      have said := (tidy.mem_merge decided _).mpr (.inr ⟨member, replaced⟩)
      have said' := (tidy.mem_merge decided _).mpr (.inr ⟨member', replaced'⟩)
      exact (tidy.merge rule).contradictory_iff.mpr ⟨first, second, said, said', different⟩
    · have member := tidy.says_iff.mp said
      have kept : ¬ rule.Replaces rules ⟨[rule.name], other, rule.args⟩ := by
        intro replaced'
        rw [replaced.unique replaced'] at unconditional
        exact conditional unconditional
      have merged := (tidy.mem_merge decided _).mpr (.inl rfl)
      have still := (tidy.mem_merge decided _).mpr (.inr ⟨member, kept⟩)
      exact (tidy.merge rule).contradictory_iff.mpr ⟨_, _, still, merged, different⟩

end Tidy

/-! ### Sequences of merges -/

namespace NameRule

variable {merged : List NameRule}

theorem tidy_mergeAll (tidy : Tidy rules) (merged : List NameRule) :
    Tidy (mergeAll merged rules) := by
  induction merged generalizing rules with
  | nil => exact tidy
  | cons rule merged hypothesis => exact hypothesis (tidy.merge rule)

theorem contradictory_mergeAll_iff_or (tidy : Tidy rules) :
    Contradictory name args (mergeAll merged rules) ↔
      Contradictory name args rules ∨
        ∃ before rule after, merged = before ++ rule :: after ∧
          (rule.name = name ∧ rule.args = args) ∧ rule.Narrows (mergeAll before rules) := by
  induction merged generalizing rules with
  | nil =>
    refine (or_iff_left ?_).symm
    rintro ⟨before, rule, after, split, _⟩
    exact List.append_ne_nil_of_right_ne_nil before (List.cons_ne_nil rule after) split.symm
  | cons first merged hypothesis =>
    rw [mergeAll, List.foldl_cons, ← mergeAll, hypothesis (tidy.merge first),
      tidy.contradictory_merge_iff, or_assoc]
    refine or_congr_right ⟨?_, ?_⟩
    · rintro (narrows | ⟨before, rule, after, rfl, narrows⟩)
      · exact ⟨[], first, merged, rfl, narrows⟩
      · exact ⟨first :: before, rule, after, rfl, narrows⟩
    · rintro ⟨before, rule, after, split, narrows⟩
      cases before with
      | nil =>
        cases split
        exact .inl narrows
      | cons other before =>
        cases split
        exact .inr ⟨before, rule, after, rfl, narrows⟩

/-- **When merging makes a list contradictory.** Unconditional rules never contradict each other;
rules with conditions do exactly where a rule with these conditions took the place of the
unconditional rule of its action, while another action was listed for the same conditions. -/
theorem contradictory_mergeAll_iff (merged : List NameRule) (name : String)
    (args : List ArgCondition) :
    ¬ Contradictory name [] (mergeAll merged []) ∧
    (Contradictory name args (mergeAll merged []) ↔
      ∃ before rule after, merged = before ++ rule :: after ∧
        (rule.name = name ∧ rule.args = args) ∧ rule.Narrows (mergeAll before [])) := by
  refine ⟨(tidy_mergeAll .nil merged).not_contradictory_nil, ?_⟩
  rw [contradictory_mergeAll_iff_or .nil, or_iff_right]
  rintro ⟨first, _, ⟨listed, member, _⟩, _⟩
  cases member

/-- Reading is allowed, then refused under a condition, then allowed under the same condition: the
last rule takes the place of the first one. -/
theorem contradictory_mergeAll_read :
    ¬ ∀ (merged : List NameRule) (name : String) (args : List ArgCondition),
      ¬ Contradictory name args (mergeAll merged []) := by
  let condition : ArgCondition := ⟨0, 1, 0, "SCMP_CMP_EQ"⟩
  intro never
  refine never [⟨"read", .allow, []⟩, ⟨"read", .errno, [condition]⟩, ⟨"read", .allow, [condition]⟩]
    "read" [condition] ?_
  have listed : mergeAll [⟨"read", .allow, []⟩, ⟨"read", .errno, [condition]⟩,
      ⟨"read", .allow, [condition]⟩] [] =
        [⟨["read"], "SCMP_ACT_ALLOW", [condition]⟩, ⟨["read"], "SCMP_ACT_ERRNO", [condition]⟩] := by
    decide
  rw [listed]
  refine ⟨"SCMP_ACT_ALLOW", "SCMP_ACT_ERRNO", ?_, ?_, by decide⟩
  · exact ⟨_, List.mem_cons_self, rfl, rfl, rfl⟩
  · exact ⟨_, List.mem_cons_of_mem _ List.mem_cons_self, rfl, rfl, rfl⟩

end NameRule

end OciBundle
