/-
**Removals from the filter, as each system call sees them.**

A name has a view of the listed rules: the action and the conditions of those that list it, in their
order. A removal drops entries of the views, told by the name and the entry, and leaves the others in
their order: what it takes out of the names of a rule is dropped from the views of these names, and
rules that are left without names are in no view.

* `SyscallRule.view`: the actions and conditions for a name.
* `SeccompEdit.drops`: the entries that an edit drops.
* `view_strip`: names that are taken out of rules, and rules that are dropped for want of names.
* `SeccompEdit.Does`, `SeccompEdit.removes_of_isRemoval`: what a removal does to a filter.
* `Draft.perform_removal`: what it does to a draft.
-/

import OciBundle.Proofs.Config.Kept
import OciBundle.Proofs.InPlace.Draft
import OciBundle.Proofs.Seccomp.Contradiction

namespace OciBundle

/-- The action and the conditions of a rule. -/
def SyscallRule.entry (listed : SyscallRule) : String × List ArgCondition :=
  (listed.action, listed.args)

/-- The view of a name: the actions and conditions of the rules that list it, in their order. -/
def SyscallRule.view (name : String) (rules : List SyscallRule) : List (String × List ArgCondition) :=
  (rules.filter (·.covers name)).map SyscallRule.entry

/-- Whether a rule is for a name and has the action and the conditions of an entry. -/
def NameRule.isFor (rule : NameRule) (name : String) (entry : String × List ArgCondition) : Bool :=
  name = rule.name ∧ entry.1 = rule.action.text ∧ entry.2 = rule.args

namespace SeccompEdit

/-- Whether an edit drops an entry from the view of a name. A text that is not read drops nothing. -/
def drops (edit : SeccompEdit) (name : String) (entry : String × List ArgCondition) : Bool :=
  match edit with
  | .removeRule rule => rule.isFor name entry
  | .removeRules input =>
    match NameRule.readAll input with
    | .ok rules => rules.any (·.isFor name entry)
    | .error _ => false
  | .removeName gone => name = gone
  | .removeAction action | .setDefaultForce action =>
    match NameRule.readAction action with
    | .ok action => entry.1 = action.text
    | .error _ => false
  | .clearRules => true
  | .setDefault _ | .addArch _ | .removeArch _ | .clearArches | .addRules _ => false

/-- Whether an edit takes something out of the filter. -/
def isRemoval : SeccompEdit → Bool
  | .setDefault _ | .addArch _ | .addRules _ => false
  | .setDefaultForce _ | .removeArch _ | .clearArches | .removeRule _ | .removeRules _
  | .removeName _ | .removeAction _ | .clearRules => true

/-- Whether an edit takes names out of rules. -/
def takesNames : SeccompEdit → Bool
  | .removeRule _ | .removeName _ => true
  | .removeRules input => (NameRule.readAll input).isOk
  | .setDefault _ | .setDefaultForce _ | .addArch _ | .removeArch _ | .clearArches | .addRules _
  | .removeAction _ | .clearRules => false

end SeccompEdit

namespace SyscallRule

open Seccomp (dropNameless removeRule)

variable {seccomp : Seccomp} {name : String} {rule : NameRule} {rules : List SyscallRule}

/-! ### Names that are taken out of rules -/

/-- Rules without names are in no view. -/
theorem view_dropNameless : view name (dropNameless rules) = view name rules := by
  rw [view, dropNameless, List.filter_filter, view]
  congr 1
  refine List.filter_congr fun listed _ => ?_
  rw [Bool.and_eq_left_iff_imp]
  intro covers
  exact decide_eq_true (List.ne_nil_of_mem (List.contains_iff_mem.mp covers))

theorem ne_nil_of_mem_dropNameless {listed : SyscallRule} (member : listed ∈ dropNameless rules) :
    listed.names ≠ [] :=
  of_decide_eq_true (List.mem_filter.mp member).2

/-- **Names that are taken out of rules** are dropped from their views, by what the rules say. -/
theorem view_strip {change : SyscallRule → SyscallRule}
    {gone : String × List ArgCondition → Bool}
    (entry : ∀ listed, (change listed).entry = listed.entry)
    (covers : ∀ listed, (change listed).covers name = (listed.covers name && !gone listed.entry)) :
    view name (dropNameless (rules.map change)) = (view name rules).filter (!gone ·) := by
  have entries : SyscallRule.entry ∘ change = SyscallRule.entry := funext entry
  have covering : (fun listed : SyscallRule => listed.covers name) ∘ change =
      fun listed => !gone listed.entry && listed.covers name := by
    funext listed
    rw [Function.comp_apply, covers, Bool.and_comm]
  rw [view_dropNameless, view, view, List.filter_map, List.map_map, entries, covering,
    ← List.filter_filter, List.filter_map]
  rfl

/-- A list of names without some of them. -/
theorem contains_filter_ne {names : List String} {gone : String} :
    (names.filter (· ≠ gone)).contains name = (names.contains name && !decide (name = gone)) := by
  rw [Bool.eq_iff_iff, Bool.and_eq_true, List.contains_iff_mem, List.contains_iff_mem,
    List.mem_filter, decide_not]

theorem view_removeRule : view name (seccomp.removeRule rule).syscalls =
    (view name seccomp.syscalls).filter (!rule.isFor name ·) := by
  refine view_strip (fun listed => ?_) fun listed => ?_
  · split
    next => rfl
    next => rfl
  · rw [NameRule.isFor, Bool.decide_and]
    split
    next same =>
      have told : decide (listed.entry.1 = rule.action.text ∧ listed.entry.2 = rule.args) = true :=
        decide_eq_true same
      rw [told, Bool.and_true]
      exact contains_filter_ne
    next other =>
      have told : decide (listed.entry.1 = rule.action.text ∧ listed.entry.2 = rule.args) = false :=
        decide_eq_false other
      rw [told, Bool.and_false, Bool.not_false, Bool.and_true]

theorem view_removeName {gone : String} : view name (seccomp.removeName gone).syscalls =
    (view name seccomp.syscalls).filter fun _ => !decide (name = gone) :=
  view_strip (fun _ => rfl) fun _ => contains_filter_ne

theorem view_removeAction {action : SeccompAction} :
    view name (seccomp.removeAction action).syscalls =
      (view name seccomp.syscalls).filter fun entry => !decide (entry.1 = action.text) := by
  rw [view, view, List.filter_map, Seccomp.removeAction, List.filter_filter, List.filter_filter]
  congr 1
  refine List.filter_congr fun listed _ => ?_
  rw [Bool.and_comm, decide_not]
  rfl

/-- By induction on the rules: each one drops what it says from what the others left. -/
theorem view_removeRules {removed : List NameRule} :
    view name (removed.foldl removeRule seccomp).syscalls =
      (view name seccomp.syscalls).filter fun entry => !removed.any (·.isFor name entry) := by
  induction removed generalizing seccomp with
  | nil => exact (List.filter_true _).symm
  | cons rule removed hypothesis =>
    rw [List.foldl_cons, hypothesis, view_removeRule, List.filter_filter]
    refine List.filter_congr fun entry _ => ?_
    rw [List.any_cons, Bool.not_or, Bool.and_comm]

theorem names_removeRules {removed : List NameRule} (some : removed ≠ []) :
    ∀ listed ∈ (removed.foldl removeRule seccomp).syscalls, listed.names ≠ [] := by
  obtain ⟨front, last, rfl⟩ := (List.eq_nil_or_concat' removed).resolve_left some
  rw [List.foldl_append]
  exact fun _ => ne_nil_of_mem_dropNameless

end SyscallRule

/-! ### Removals -/

namespace Config

variable {config : Config} {change : Seccomp → Seccomp}

/-- A filter that is changed is replaced by what it becomes. -/
theorem mapSeccomp_of_some {before : Seccomp} (given : config.seccomp = some before) :
    config.mapSeccomp change = config.mapSeccomp fun _ => change before := by
  obtain ⟨linux, inside, found⟩ := Option.bind_eq_some_iff.mp given
  rw [mapSeccomp, mapLinux, mapSeccomp, mapLinux, inside, Option.map_some, Option.map_some,
    Linux.mapSeccomp, Linux.mapSeccomp, found, Option.map_some, Option.map_some]

theorem mapSeccomp_of_none (missing : config.seccomp = none) : config.mapSeccomp change = config := by
  rcases config with ⟨_, _, _, _, _, _, _, _, linux⟩
  cases linux with
  | none => rfl
  | some linux =>
    have none : linux.seccomp = none := missing
    rw [mapSeccomp, mapLinux, Option.map_some, Linux.mapSeccomp, none, Option.map_none, ← none]

end Config

namespace SeccompEdit

variable {edit : SeccompEdit} {change : Seccomp → Seccomp} {config : Config}

/-- What a removal does to every filter: it drops entries of the views, and leaves no rule without
names where it takes some. -/
structure Does (edit : SeccompEdit) (change : Seccomp → Seccomp) : Prop where
  view : ∀ seccomp name, SyscallRule.view name (change seccomp).syscalls =
    (SyscallRule.view name seccomp.syscalls).filter (!edit.drops name ·)
  named : edit.takesNames = true →
    ∀ seccomp, ∀ listed ∈ (change seccomp).syscalls, listed.names ≠ []

/-- A change that leaves the rules. -/
theorem Does.of_same (same : ∀ seccomp, (change seccomp).syscalls = seccomp.syscalls)
    (none : ∀ name entry, edit.drops name entry = false) (keeps : edit.takesNames = false) :
    edit.Does change where
  view seccomp name := by
    rw [same, List.filter_eq_self.mpr]
    exact fun entry _ => by rw [none]; rfl
  named takes := absurd (takes.symm.trans keeps) Bool.true_eq_false.mp

/-- Whether an edit changes the filter of a configuration by a removal, or is rejected and is none. -/
def Removes (edit : SeccompEdit) (config : Config) : Prop :=
  ∃ change, edit.Does change ∧ (edit.apply config = .ok (config.mapSeccomp change, []) ∨
    change = id ∧ ∃ rejection, edit.apply config = .error rejection)

theorem Does.removes (does : edit.Does change)
    (applies : edit.apply config = .ok (config.mapSeccomp change, [])) : edit.Removes config :=
  ⟨change, does, .inl applies⟩

/-- An edit that reads a word or a text first. -/
theorem removes_of_reading {α : Type} {step : Except ParseFault α} {change : α → Seccomp → Seccomp}
    (does : ∀ value, step = .ok value → edit.Does (change value))
    (unread : ∀ fault, step = .error fault → edit.Does id)
    (applies : edit.apply config = do
      let value ← ParseFault.lift step
      return (config.mapSeccomp (change value), [])) : edit.Removes config := by
  cases read : step with
  | error fault =>
    rw [read] at applies
    exact ⟨id, unread fault read, .inr ⟨rfl, .parse fault, applies⟩⟩
  | ok value =>
    rw [read] at applies
    exact (does value read).removes applies

/-- **Every removal** does so where there is a filter, and those that do not make one do anyway. -/
theorem removes_of_isRemoval (removes : edit.isRemoval = true)
    (given : config.seccomp.isSome = true ∨ ∀ action, edit ≠ .setDefaultForce action) :
    edit.Removes config := by
  have keeps {P : Prop} (takes : false = true) : P := absurd takes Bool.false_ne_true
  cases edit with
  | setDefault _ | addArch _ | addRules _ => cases removes
  | setDefaultForce word =>
    have there := given.resolve_right fun other => other word rfl
    have applies : (setDefaultForce word).apply config = do
        let action ← ParseFault.lift (NameRule.readAction word)
        return (config.mapSeccomp fun seccomp =>
          { seccomp.removeAction action with defaultAction := action.text }, []) := by
      simp only [← Config.withSeccomp_eq_mapSeccomp there]
      rfl
    refine removes_of_reading (fun action read => ⟨fun seccomp name => ?_, keeps⟩)
      (fun fault read => .of_same (fun _ => rfl) (fun _ _ => ?_) rfl) applies
    · simp only [drops, read]
      exact SyscallRule.view_removeAction
    · rw [drops, read]
  | removeArch word =>
    refine removes_of_reading (fun _ _ => ?_) (fun _ _ => ?_) rfl
    · exact .of_same (fun _ => rfl) (fun _ _ => rfl) rfl
    · exact .of_same (fun _ => rfl) (fun _ _ => rfl) rfl
  | clearArches =>
    refine Does.removes ?_ rfl
    exact .of_same (fun _ => rfl) (fun _ _ => rfl) rfl
  | removeRule rule =>
    exact Does.removes ⟨fun _ _ => SyscallRule.view_removeRule,
      fun _ _ _ => SyscallRule.ne_nil_of_mem_dropNameless⟩ rfl
  | removeRules input =>
    refine removes_of_reading (fun rules read => ⟨fun seccomp name => ?_, fun _ _ => ?_⟩)
      (fun fault read => .of_same (fun _ => rfl) (fun _ _ => ?_) ?_) rfl
    · simp only [drops, read]
      exact SyscallRule.view_removeRules
    · exact SyscallRule.names_removeRules (NameRule.ne_nil_of_readAll read)
    · rw [drops, read]
    · rw [takesNames, read]
      rfl
  | removeName gone =>
    exact Does.removes ⟨fun _ _ => SyscallRule.view_removeName,
      fun _ _ _ => SyscallRule.ne_nil_of_mem_dropNameless⟩ rfl
  | removeAction word =>
    refine removes_of_reading (fun action read => ⟨fun seccomp name => ?_, keeps⟩)
      (fun fault read => .of_same (fun _ => rfl) (fun _ _ => ?_) rfl) rfl
    · simp only [drops, read]
      exact SyscallRule.view_removeAction
    · rw [drops, read]
  | clearRules =>
    refine Does.removes ⟨fun seccomp name => ?_, keeps⟩ rfl
    exact (List.filter_eq_nil_iff.mpr fun _ _ => Bool.false_ne_true).symm

end SeccompEdit

namespace Draft

variable {draft : Draft} {edit : SeccompEdit}

/-- What a removal makes of a draft. -/
theorem exists_does_perform (removes : edit.Removes draft.config) : ∃ change, edit.Does change ∧
    (draft.perform (.edit (.seccomp edit))).1 =
      { draft with config := draft.config.mapSeccomp change } := by
  obtain ⟨change, does, applies | ⟨rfl, rejection, refused⟩⟩ := removes
  · refine ⟨change, does, ?_⟩
    rw [perform_edit, step, apply, applies]
    rfl
  · refine ⟨id, does, ?_⟩
    rw [perform_edit, step, apply, refused, Config.mapSeccomp_id]
    rfl

/-- A removal that makes a filter makes nothing else. -/
theorem perform_setDefaultForce (draft : Draft) (word : String) :
    (draft.perform (.edit (.seccomp (.setDefaultForce word)))).1 = draft ∨
      ∃ made, (draft.perform (.edit (.seccomp (.setDefaultForce word)))).1 =
        { draft with config := draft.config.withSeccomp fun _ => made } := by
  rw [perform_edit, step, apply, SeccompEdit.apply]
  cases NameRule.readAction word with
  | error fault => exact .inl rfl
  | ok action => exact .inr ⟨_, rfl⟩

/-- **Removals from the filter.** Where there is a filter, a removal changes nothing else; it drops
from the view of every name exactly the entries that it is for, and leaves the others in their order;
and one that takes names out of rules leaves no rule without names. Where there is none, a removal
does nothing; only to set the default action by force makes one, and changes nothing else. -/
theorem perform_removal (draft : Draft) (removes : edit.isRemoval = true) :
    (∀ before, draft.config.seccomp = some before → ∃ left : Seccomp,
      (draft.perform (.edit (.seccomp edit))).1 =
        { draft with config := draft.config.mapSeccomp fun _ => left } ∧
      (∀ name, SyscallRule.view name left.syscalls =
        (SyscallRule.view name before.syscalls).filter (!edit.drops name ·)) ∧
      (edit.takesNames = true → ∀ listed ∈ left.syscalls, listed.names ≠ [])) ∧
    (draft.config.seccomp = none →
      (draft.perform (.edit (.seccomp edit))).1 = draft ∨ ∃ word made,
        edit = .setDefaultForce word ∧ (draft.perform (.edit (.seccomp edit))).1 =
          { draft with config := draft.config.withSeccomp fun _ => made }) := by
  constructor
  · intro before given
    have there : draft.config.seccomp.isSome = true := Option.isSome_of_eq_some given
    obtain ⟨change, does, performs⟩ :=
      exists_does_perform (SeccompEdit.removes_of_isRemoval removes (.inl there))
    rw [Config.mapSeccomp_of_some given] at performs
    exact ⟨change before, performs, does.view before, fun takes => does.named takes before⟩
  · intro missing
    by_cases force : ∃ word, edit = .setDefaultForce word
    · obtain ⟨word, rfl⟩ := force
      exact (perform_setDefaultForce draft word).imp_right fun ⟨made, performs⟩ =>
        ⟨word, made, rfl, performs⟩
    · obtain ⟨change, _, performs⟩ := exists_does_perform
        (SeccompEdit.removes_of_isRemoval removes (.inr (not_exists.mp force)))
      rw [Config.mapSeccomp_of_none missing] at performs
      exact .inl performs

/-- A text for two names: they are taken out of rules for more names, one of which has a name twice,
and a rule without names is dropped. -/
theorem perform_removal_read :
    let before : Seccomp := ⟨"SCMP_ACT_KILL", [],
      [⟨["read", "open", "read"], "SCMP_ACT_ALLOW", []⟩, ⟨["write"], "SCMP_ACT_ALLOW", []⟩,
        ⟨["open", "read"], "SCMP_ACT_ERRNO", []⟩, ⟨[], "SCMP_ACT_TRAP", []⟩]⟩
    let draft := ofConfig default ((default : Config).withSeccomp fun _ => before)
    let edit : SeccompEdit := .removeRules "allow:read,write"
    edit.isRemoval = true ∧ draft.config.seccomp = some before ∧ ∃ left : Seccomp,
      (draft.perform (.edit (.seccomp edit))).1 =
        { draft with config := draft.config.mapSeccomp fun _ => left } ∧
      SyscallRule.view "read" left.syscalls = [("SCMP_ACT_ERRNO", [])] ∧
      SyscallRule.view "open" left.syscalls = [("SCMP_ACT_ALLOW", []), ("SCMP_ACT_ERRNO", [])] ∧
      ∀ listed ∈ left.syscalls, listed.names ≠ [] := by
  intro before draft edit
  have removes : edit.isRemoval = true := rfl
  have given : draft.config.seccomp = some before := rfl
  obtain ⟨left, performs, view, named⟩ := (perform_removal draft removes).1 before given
  refine ⟨removes, given, left, performs, ?_, ?_, named rfl⟩
  · rw [view]
    rfl
  · rw [view]
    rfl

end Draft

end OciBundle
