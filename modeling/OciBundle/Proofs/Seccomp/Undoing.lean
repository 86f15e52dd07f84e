/-
**Rules that are added and removed again.**

Rules for names that no listed rule is for take no place in the list: they are appended, or not
needed. A removal takes names out of the rules with an action and some conditions; whatever these
are, it leaves rules that do not list its names, and leaves no name to the rules that were added.

* `SyscallRule.without`: a listed rule without the names that some rules are for.
* `Seccomp.removeRules_eq`: many removals in one pass.
* `Accounts.eq_append`: an edit that overwrites nothing.
* `Seccomp.removeRules_addRules`: rules for new names, added to a filter and removed again.
* `Draft.perform_addRules_removeRules`: a text that is added to a draft and removed again.
-/

import OciBundle.Proofs.Seccomp.Account
import OciBundle.Proofs.Seccomp.View

namespace OciBundle

/-- A listed rule without the names that some rules with its action and conditions are for. -/
def SyscallRule.without (removed : List NameRule) (listed : SyscallRule) : SyscallRule :=
  { listed with
    names := listed.names.filter fun name => !removed.any (·.isFor name listed.entry) }

/-! ### Many removals in one pass -/

namespace SyscallRule

variable {listed : SyscallRule} {rule : NameRule} {removed : List NameRule}

/-- Whether a single rule is for a name: by its own name, and by its action and conditions. -/
theorem any_isFor (rule : NameRule) (name : String) (listed : SyscallRule) :
    [rule].any (·.isFor name listed.entry) = (decide (name = rule.name) &&
      decide (listed.action = rule.action.text ∧ listed.args = rule.args)) := by
  rw [List.any_cons, List.any_nil, Bool.or_false, NameRule.isFor, Bool.decide_and]
  rfl

theorem without_nil (listed : SyscallRule) : listed.without [] = listed := by
  have all : (listed.names.filter fun name =>
      !([] : List NameRule).any (·.isFor name listed.entry)) = listed.names := List.filter_true _
  rw [without, all]

theorem without_without (rule : NameRule) (removed : List NameRule) (listed : SyscallRule) :
    (listed.without [rule]).without removed = listed.without (rule :: removed) := by
  have names : ((listed.without [rule]).without removed).names =
      (listed.without (rule :: removed)).names := by
    show (List.filter _ (List.filter _ listed.names)) = List.filter _ listed.names
    rw [List.filter_filter]
    refine List.filter_congr fun name _ => ?_
    rw [List.any_cons, List.any_cons, List.any_nil, Bool.or_false, Bool.not_or, Bool.and_comm]
    rfl
  exact congrArg (fun names => ({ listed with names } : SyscallRule)) names

theorem names_without_of_nil (nameless : listed.names = []) :
    (listed.without removed).names = [] := by
  show listed.names.filter _ = []
  rw [nameless]
  rfl

/-- A rule keeps its names where none of them is removed. -/
theorem without_of_not_mem (other : ∀ rule ∈ removed, rule.name ∉ listed.names) :
    listed.without removed = listed := by
  have all : (listed.names.filter fun name => !removed.any (·.isFor name listed.entry)) =
      listed.names := by
    refine List.filter_eq_self.mpr fun name member => ?_
    rw [Bool.not_eq_true', List.any_eq_false]
    intro rule inside isFor
    obtain ⟨rfl, _⟩ := of_decide_eq_true isFor
    exact other rule inside member
  rw [without, all]

/-- A rule that was added for one name has none left when this is removed. -/
theorem names_without_toRule (member : rule ∈ removed) :
    (rule.toRule.without removed).names = [] := by
  refine List.filter_eq_nil_iff.mpr fun name inside => ?_
  obtain rfl : name = rule.name := List.mem_singleton.mp inside
  have isFor : rule.isFor rule.name rule.toRule.entry = true := decide_eq_true ⟨rfl, rfl, rfl⟩
  rw [Bool.not_eq_true', Bool.not_eq_false]
  exact List.any_eq_true.mpr ⟨rule, member, isFor⟩

end SyscallRule

namespace Seccomp

open SyscallRule (without any_isFor)

variable {seccomp : Seccomp} {rule : NameRule} {rules : List SyscallRule}
  {removed : List NameRule}

theorem removeRule_eq (seccomp : Seccomp) (rule : NameRule) :
    seccomp.removeRule rule =
      { seccomp with syscalls := dropNameless (seccomp.syscalls.map (without [rule])) } := by
  have same : (fun listed : SyscallRule =>
      if listed.action = rule.action.text ∧ listed.args = rule.args then
        { listed with names := listed.names.filter (· ≠ rule.name) }
      else listed) = without [rule] := by
    funext listed
    by_cases said : listed.action = rule.action.text ∧ listed.args = rule.args
    · rw [if_pos said, without]
      congr 1
      refine List.filter_congr fun name _ => ?_
      rw [any_isFor, decide_eq_true said, Bool.and_true, decide_not]
    · rw [if_neg said, without]
      have all : (listed.names.filter fun name => !([rule].any (·.isFor name listed.entry))) =
          listed.names := by
        refine List.filter_eq_self.mpr fun name _ => ?_
        rw [any_isFor, decide_eq_false said, Bool.and_false]
        rfl
      rw [all]
  rw [removeRule, same]

theorem dropNameless_of_named (named : ∀ listed ∈ rules, listed.names ≠ []) :
    dropNameless rules = rules :=
  List.filter_eq_self.mpr fun listed member => decide_eq_true (named listed member)

/-- Rules without names may as well be dropped before others lose theirs. -/
theorem dropNameless_map_dropNameless (removed : List NameRule) (rules : List SyscallRule) :
    dropNameless ((dropNameless rules).map (without removed)) =
      dropNameless (rules.map (without removed)) := by
  rw [dropNameless, dropNameless, List.filter_map, List.filter_filter, dropNameless,
    List.filter_map]
  congr 1
  refine List.filter_congr fun listed _ => ?_
  rw [Bool.and_eq_left_iff_imp, Function.comp_apply, decide_eq_true_iff, decide_eq_true_iff]
  exact mt SyscallRule.names_without_of_nil

/-- **Many removals in one pass**, on a list whose rules all have names. By induction on the
removals: the rules that the first one leaves all have names. -/
theorem removeRules_eq (named : ∀ listed ∈ seccomp.syscalls, listed.names ≠ [])
    (removed : List NameRule) :
    removed.foldl removeRule seccomp =
      { seccomp with syscalls := dropNameless (seccomp.syscalls.map (without removed)) } := by
  induction removed generalizing seccomp with
  | nil =>
    have same : seccomp.syscalls.map (without []) = seccomp.syscalls := by
      rw [funext SyscallRule.without_nil]
      exact List.map_id' _
    rw [same, dropNameless_of_named named]
    rfl
  | cons rule removed hypothesis =>
    have left : ∀ listed ∈ (seccomp.removeRule rule).syscalls, listed.names ≠ [] :=
      fun _ => SyscallRule.ne_nil_of_mem_dropNameless
    have both : without removed ∘ without [rule] = without (rule :: removed) :=
      funext (SyscallRule.without_without rule removed)
    rw [List.foldl_cons, hypothesis left, removeRule_eq]
    simp only [dropNameless_map_dropNameless, List.map_map, both]

end Seccomp

/-! ### Rules for new names -/

/-- **An edit that overwrites nothing** leaves the list in front of what it appends. -/
theorem Accounts.eq_append {before after : List SyscallRule} {taken : List (NameRule × Decision)}
    (accounts : Accounts before after taken)
    (free : ∀ rule place, (rule, .overwrite place) ∉ taken) : after = before ++ appended taken := by
  have longer : before.length ≤ after.length := by
    have length := accounts.length
    omega
  have front : after.take before.length = before := by
    refine List.ext_getElem? fun place => ?_
    by_cases inside : place < before.length
    · rw [List.getElem?_take_of_lt inside,
        accounts.unchanged place inside fun rule => free rule place]
    · rw [List.getElem?_eq_none (by rw [List.length_take]; omega), List.getElem?_eq_none (by omega)]
  calc after = after.take before.length ++ after.drop before.length :=
        (List.take_append_drop before.length after).symm
    _ = before ++ appended taken := by rw [front, accounts.behind]

namespace Seccomp

open SyscallRule (without)

variable {seccomp : Seccomp} {rules : List NameRule}

/-- Merging rules changes nothing but the list. -/
theorem addRules_eq (seccomp : Seccomp) (rules : List NameRule) :
    (seccomp.addRules rules).1 =
      { seccomp with syscalls := (seccomp.addRules rules).1.syscalls } := by
  induction rules generalizing seccomp with
  | nil => rfl
  | cons rule rules hypothesis => exact hypothesis (seccomp.addRule rule)

theorem mem_of_mem_appended {listed : SyscallRule}
    (member : listed ∈ appended (seccomp.account rules)) :
    ∃ rule ∈ rules, rule.toRule = listed := by
  obtain ⟨⟨rule, decision⟩, inside, equal⟩ := List.mem_map.mp member
  exact ⟨rule, (List.of_mem_zip (List.mem_of_mem_filter inside)).1, equal⟩

/-- **Rules for new names are appended**, those that are needed. -/
theorem syscalls_addRules_of_new
    (alike : ∀ first ∈ rules, ∀ second ∈ rules, first.name = second.name → first = second)
    (new : ∀ rule ∈ rules, ∀ listed ∈ seccomp.syscalls, rule.name ∉ listed.names) :
    (seccomp.addRules rules).1.syscalls =
      seccomp.syscalls ++ appended (seccomp.account rules) := by
  have accounts : Accounts seccomp.syscalls (seccomp.addRules rules).1.syscalls
      (seccomp.account rules) := accounts_addRules alike
  refine accounts.eq_append fun rule place member => ?_
  obtain ⟨⟨inside, names⟩, _⟩ := accounts.overwritten rule place member
  have listed : rule.name ∈ seccomp.syscalls[place].names := by
    rw [names]
    exact List.mem_singleton_self rule.name
  exact new rule (List.of_mem_zip member).1 _ (List.getElem_mem inside) listed

/-- **Rules for new names, added and removed again**, leave a filter as it was. -/
theorem removeRules_addRules (named : ∀ listed ∈ seccomp.syscalls, listed.names ≠ [])
    (alike : ∀ first ∈ rules, ∀ second ∈ rules, first.name = second.name → first = second)
    (new : ∀ rule ∈ rules, ∀ listed ∈ seccomp.syscalls, rule.name ∉ listed.names) :
    rules.foldl removeRule (seccomp.addRules rules).1 = seccomp := by
  have split := syscalls_addRules_of_new alike new
  have still : ∀ listed ∈ (seccomp.addRules rules).1.syscalls, listed.names ≠ [] := by
    rw [split]
    refine List.forall_mem_append.mpr ⟨named, fun listed member => ?_⟩
    obtain ⟨rule, _, rfl⟩ := mem_of_mem_appended member
    exact List.cons_ne_nil rule.name []
  have old : seccomp.syscalls.map (without rules) = seccomp.syscalls := by
    refine (List.map_congr_left fun listed member => ?_).trans (List.map_id _)
    exact SyscallRule.without_of_not_mem fun rule inside => new rule inside listed member
  have gone : dropNameless ((appended (seccomp.account rules)).map (without rules)) = [] := by
    refine List.filter_eq_nil_iff.mpr (List.forall_mem_map.mpr fun listed member => ?_)
    obtain ⟨rule, inside, rfl⟩ := mem_of_mem_appended member
    rw [decide_eq_true_iff, not_not]
    exact SyscallRule.names_without_toRule inside
  have left : dropNameless ((seccomp.addRules rules).1.syscalls.map (without rules)) =
      seccomp.syscalls := by
    rw [split, List.map_append, old, dropNameless, List.filter_append, ← dropNameless,
      ← dropNameless, gone, List.append_nil, dropNameless_of_named named]
  rw [removeRules_eq still, addRules_eq, left]

end Seccomp

/-! ### Drafts -/

namespace Draft

variable {draft : Draft} {input : String} {rules : List NameRule} {seccomp : Seccomp}

/-- The draft after the rules of a text are removed. -/
theorem perform_removeRules (read : NameRule.readAll input = .ok rules) :
    draft.perform (.edit (.seccomp (.removeRules input))) =
      ({ draft with config := draft.config.mapSeccomp (rules.foldl Seccomp.removeRule) },
        .ok []) := by
  rw [perform_edit, step, apply, SeccompEdit.apply, read]
  rfl

/-- **Rules that are added and removed again.** For every filter whose rules all have names, and
every text that is read and has rules for new names only, the text is added, and removing it gives
back the draft as it was. -/
theorem perform_addRules_removeRules (draft : Draft) (given : draft.config.seccomp = some seccomp)
    (named : ∀ listed ∈ seccomp.syscalls, listed.names ≠ [])
    (read : NameRule.readAll input = .ok rules)
    (new : ∀ rule ∈ rules, ∀ listed ∈ seccomp.syscalls, rule.name ∉ listed.names) :
    (draft.perform (.edit (.seccomp (.addRules input)))).2.isOk = true ∧
      (draft.perform (.edit (.seccomp (.addRules input)))).1.perform
        (.edit (.seccomp (.removeRules input))) = (draft, .ok []) := by
  have there : draft.config.seccomp.isSome = true := Option.isSome_of_eq_some given
  have undone : rules.foldl Seccomp.removeRule (seccomp.addRules rules).1 = seccomp :=
    Seccomp.removeRules_addRules named (NameRule.eq_of_readAll read) new
  have config : ((draft.config.withSeccomp fun seccomp => (seccomp.addRules rules).1).mapSeccomp
      (rules.foldl Seccomp.removeRule)) = draft.config := by
    rw [Config.withSeccomp_eq_mapSeccomp there, Config.mapSeccomp_mapSeccomp,
      Config.mapSeccomp_of_some given, Function.comp_apply, undone]
    have same : draft.config.mapSeccomp id = draft.config.mapSeccomp fun _ => seccomp :=
      Config.mapSeccomp_of_some given
    exact same.symm.trans Config.mapSeccomp_id
  rw [perform_addRules read]
  refine ⟨rfl, ?_⟩
  rw [perform_removeRules read]
  exact congrArg (fun config => (({ draft with config } : Draft), Except.ok [])) config

/-- A text that has a name twice, for a filter with rules that have its action and conditions. -/
theorem perform_addRules_removeRules_open :
    let condition : ArgCondition := ⟨0, 1, 0, "SCMP_CMP_EQ"⟩
    let seccomp : Seccomp := ⟨"SCMP_ACT_ALLOW", ["SCMP_ARCH_X86"],
      [⟨["write", "read", "write"], "SCMP_ACT_ALLOW", [condition]⟩,
        ⟨["read"], "SCMP_ACT_ALLOW", []⟩]⟩
    let draft := ofConfig default ((default : Config).withSeccomp fun _ => seccomp)
    let input := "allow:open,close,open:0:1:0:EQ"
    let rules : List NameRule := [⟨"open", .allow, [condition]⟩, ⟨"close", .allow, [condition]⟩,
      ⟨"open", .allow, [condition]⟩]
    draft.config.seccomp = some seccomp ∧ (∀ listed ∈ seccomp.syscalls, listed.names ≠ []) ∧
      NameRule.readAll input = .ok rules ∧
      (∀ rule ∈ rules, ∀ listed ∈ seccomp.syscalls, rule.name ∉ listed.names) ∧
      (draft.perform (.edit (.seccomp (.addRules input)))).1.perform
        (.edit (.seccomp (.removeRules input))) = (draft, .ok []) := by
  intro condition seccomp draft input rules
  have given : draft.config.seccomp = some seccomp := rfl
  have named : ∀ listed ∈ seccomp.syscalls, listed.names ≠ [] := by decide
  have read : NameRule.readAll "allow:open,close,open:0:1:0:EQ" = .ok rules := by rfl
  have new : ∀ rule ∈ rules, ∀ listed ∈ seccomp.syscalls, rule.name ∉ listed.names := by decide
  exact ⟨given, named, read, new, (perform_addRules_removeRules draft given named read new).2⟩

end Draft

end OciBundle
