/-
**A filter on system calls keeps a default action.**

Edits that add to a filter make one without a default action where there is none, so the flags
demand a default action before they add anything, and after all that could have removed the filter
of the template.

* `Config.ActsLike`: the default action afterwards is one of the actions, or the one from before.
* `SeccompEdit.actsLike`, `Draft.actsLike_apply`: one edit that makes no filter by adding to it.
* `Step.actsLike_runAll`, `Step.runAll_of_acts`: runs that add to no filter, and runs of edits of a
  filter with a default action, which is never lost to them.
* `SeccompFlags.acts`: the flags about the filter.
* `GenerateFlags.default_action_of_build`: all flags and every template.
-/

import OciBundle.Proofs.Flags.Order
import OciBundle.Proofs.Flags.Tame

namespace OciBundle

/-! ### Where a default action comes from -/

namespace Config

variable {before config after : Config} {change : Seccomp → Seccomp}

/-- **Where a default action comes from**: the default action of a filter that is there afterwards
is   one of the actions, or the one of the filter that was there before. -/
def ActsLike (before after : Config) : Prop :=
  ∀ seccomp, after.seccomp = some seccomp →
    (∃ action : SeccompAction, seccomp.defaultAction = action.text) ∨
      ∃ old, before.seccomp = some old ∧ seccomp.defaultAction = old.defaultAction

theorem ActsLike.refl (config : Config) : ActsLike config config :=
  fun seccomp found => .inr ⟨seccomp, found, rfl⟩

theorem ActsLike.trans (first : ActsLike before config) (second : ActsLike config after) :
    ActsLike before after := by
  intro seccomp found
  rcases second seccomp found with canonical | ⟨between, found, same⟩
  · exact .inl canonical
  · rcases first between found with ⟨action, text⟩ | ⟨old, found, same'⟩
    · exact .inl ⟨action, same.trans text⟩
    · exact .inr ⟨old, found, same.trans same'⟩

theorem actsLike_of_eq (same : after.seccomp = before.seccomp) : ActsLike before after :=
  fun seccomp found => .inr ⟨seccomp, same.symm.trans found, rfl⟩

theorem actsLike_of_none (none : after.seccomp = none) : ActsLike before after :=
  fun _ found => nomatch none.symm.trans found

theorem actsLike_mapSeccomp
    (keeps : ∀ seccomp, (change seccomp).defaultAction = seccomp.defaultAction) :
    ActsLike config (config.mapSeccomp change) := by
  intro seccomp found
  rw [seccomp_mapSeccomp] at found
  obtain ⟨old, given, rfl⟩ := Option.map_eq_some_iff.mp found
  exact .inr ⟨old, given, keeps old⟩

theorem actsLike_withSeccomp {action : SeccompAction}
    (sets : ∀ seccomp, (change seccomp).defaultAction = action.text) :
    ActsLike config (config.withSeccomp change) := by
  intro seccomp found
  obtain rfl := Option.some.inj found
  exact .inl ⟨action, sets _⟩

/-- The filter belongs to one part. -/
theorem seccomp_of_only (same : after.only (.linux .seccomp) = before.only (.linux .seccomp)) :
    after.seccomp = before.seccomp := by
  have listed (config : Config) : config.seccomp = (config.only (.linux .seccomp)).seccomp := by
    obtain ⟨_, _, _, _, _, _, _, _, linux⟩ := config
    cases linux <;> rfl
  rw [listed after, same, ← listed before]

end Config

open Config (ActsLike actsLike_mapSeccomp actsLike_of_eq actsLike_of_none actsLike_withSeccomp)

/-! ### Edits of the filter -/

namespace Seccomp

theorem defaultAction_addRules (seccomp : Seccomp) (rules : List NameRule) :
    (seccomp.addRules rules).1.defaultAction = seccomp.defaultAction := by
  induction rules generalizing seccomp with
  | nil => rfl
  | cons rule rules hypothesis => exact hypothesis (seccomp.addRule rule)

theorem defaultAction_removeRules (seccomp : Seccomp) (rules : List NameRule) :
    (rules.foldl removeRule seccomp).defaultAction = seccomp.defaultAction := by
  induction rules generalizing seccomp with
  | nil => rfl
  | cons rule rules hypothesis => exact hypothesis (seccomp.removeRule rule)

end Seccomp

namespace SeccompEdit

variable {edit : SeccompEdit} {config after : Config} {decisions : List Decision}

/-- **An edit of the filter**; what adds to a filter needs one. -/
theorem actsLike (given : edit.Adds → config.seccomp.isSome = true)
    (done : edit.apply config = .ok (after, decisions)) : ActsLike config after := by
  cases edit with
  | setDefault _ | setDefaultForce _ =>
    obtain ⟨action, _, equal⟩ := exists_of_bind_eq_ok done
    cases equal
    exact actsLike_withSeccomp fun _ => rfl
  | addArch word =>
    obtain ⟨arch, _, equal⟩ := exists_of_bind_eq_ok done
    cases equal
    rw [Config.withSeccomp_eq_mapSeccomp (given trivial)]
    exact actsLike_mapSeccomp fun _ => rfl
  | addRules input =>
    obtain ⟨rules, _, equal⟩ := exists_of_bind_eq_ok done
    cases equal
    rw [Config.withSeccomp_eq_mapSeccomp (given trivial)]
    exact actsLike_mapSeccomp (·.defaultAction_addRules rules)
  | removeRules input =>
    obtain ⟨rules, _, equal⟩ := exists_of_bind_eq_ok done
    cases equal
    exact actsLike_mapSeccomp (·.defaultAction_removeRules rules)
  | removeArch _ | removeAction _ =>
    obtain ⟨_, _, equal⟩ := exists_of_bind_eq_ok done
    cases equal
    exact actsLike_mapSeccomp fun _ => rfl
  | clearArches | removeRule _ | removeName _ | clearRules =>
    cases done
    exact actsLike_mapSeccomp fun _ => rfl

end SeccompEdit

/-! ### All edits -/

theorem ProcessEdit.filter_not_mem_parts {edit : ProcessEdit} (other : edit ≠ .setPrivileged) :
    .linux .seccomp ∉ edit.parts := by
  have process : .linux .seccomp ∉ [Config.Part.process] := by decide
  cases edit <;> first | exact absurd rfl other | exact process

theorem LinuxEdit.part_ne_seccomp (edit : LinuxEdit) : edit.part ≠ .seccomp := by
  cases edit <;> exact nofun

theorem Config.seccomp_privileged (config : Config) (host : Option Host) :
    (config.privileged host).seccomp = none := by
  obtain ⟨_, _, _, _, _, _, _, _, linux⟩ := config
  cases linux <;> rfl

theorem Config.seccomp_sanitize (config : Config) : config.sanitize.seccomp = none := by
  obtain ⟨_, _, _, _, _, _, _, _, linux⟩ := config
  cases linux <;> rfl

/-- **An accepted edit** leaves the default action or sets one of the actions, or else removes the
filter, unless it makes a filter by adding to it. -/
theorem Draft.actsLike_apply {draft after : Draft} {edit : Edit} {decisions : List Decision}
    (given : ∀ change, edit = .seccomp change → change.Adds → draft.config.seccomp.isSome = true)
    (done : draft.apply edit = .ok (after, decisions)) : ActsLike draft.config after.config := by
  have apart {parts : List Config.Part} {act : Config → Except Rejection Config}
      (confined : Config.Confined parts act) (outside : .linux .seccomp ∉ parts)
      (yields : act draft.config = .ok after.config) : ActsLike draft.config after.config :=
    actsLike_of_eq (Config.seccomp_of_only (confined.frame _ _ yields _ outside))
  have yields := yields_apply done
  cases edit with
  | general edit => exact apart edit.confined (by decide) yields
  | process edit =>
    by_cases privileged : edit = .setPrivileged
    · subst privileged
      obtain same : draft.config.privileged draft.target = after.config :=
        Except.ok.inj yields
      exact actsLike_of_none (same ▸ Config.seccomp_privileged _ _)
    · exact apart (edit.confined draft.target) (ProcessEdit.filter_not_mem_parts privileged)
        yields
  | mount edit => exact apart edit.confined (by decide) yields
  | hook edit => exact apart edit.confined (by decide) yields
  | linux edit =>
    refine apart edit.confined (fun inside => edit.part_ne_seccomp ?_) yields
    exact (Config.Part.linux.inj (List.mem_singleton.mp inside)).symm
  | resources edit => exact apart edit.confined (by decide) yields
  | seccomp edit => exact SeccompEdit.actsLike (given edit rfl) yields
  | sanitize => exact actsLike_of_none (yields ▸ Config.seccomp_sanitize _)
  | setHostSpecific _ => exact actsLike_of_eq (congrArg Config.seccomp yields)

/-! ### Runs of steps -/

namespace Step

variable {draft after : Draft} {steps : List Step}

/-- Whether an edit adds to no filter. -/
def AddsNothing (edit : Edit) : Prop :=
  ∀ change, edit = .seccomp change → ¬ change.Adds

/-- **A run that adds to no filter.** -/
theorem actsLike_runAll (nothing : AllAsk AddsNothing steps)
    (done : runAll draft steps = .ok after) : ActsLike draft.config after.config :=
  holds_runAll (fun other => ActsLike draft.config other.config) nothing
    (fun _ _ _ _ nothing applied like => like.trans
      (Draft.actsLike_apply (fun change same adds => absurd adds (nothing change same)) applied))
    (.refl draft.config) done

/-- A filter that is there and acts like one with a default action has one. -/
theorem defaultAction_ne_empty_of_actsLike {before config : Config} (acts : defaultAction before ≠ "")
    (like : ActsLike before config) {seccomp : Seccomp} (found : config.seccomp = some seccomp) :
    seccomp.defaultAction ≠ "" := by
  obtain ⟨old, given, named⟩ := exists_of_defaultAction_ne_empty acts
  rcases like seccomp found with ⟨action, text⟩ | ⟨old', given', same⟩
  · rw [text]
    exact action.text_ne_empty
  · obtain rfl := Option.some.inj (given.symm.trans given')
    rw [same]
    exact named

/-- **A run of edits of a filter with a default action** leaves it one. -/
theorem runAll_of_acts (asks : AllAsk (fun edit => ∃ change, edit = .seccomp change) steps)
    (acts : defaultAction draft.config ≠ "") (done : runAll draft steps = .ok after) :
    ActsLike draft.config after.config ∧ defaultAction after.config ≠ "" := by
  refine holds_runAll
    (fun other => ActsLike draft.config other.config ∧ defaultAction other.config ≠ "") asks ?_
    ⟨.refl draft.config, acts⟩ done
  rintro before between _ decisions ⟨change, rfl⟩ applied ⟨like, acts⟩
  obtain ⟨seccomp, found, _⟩ := exists_of_defaultAction_ne_empty acts
  have there : before.config.seccomp.isSome = true := Option.isSome_of_eq_some found
  have step : ActsLike before.config between.config :=
    Draft.actsLike_apply (fun _ _ _ => there) applied
  refine ⟨like.trans step, ?_⟩
  obtain ⟨seccomp', found'⟩ := Option.isSome_iff_exists.mp
    (SeccompEdit.isSome_seccomp there (Draft.yields_apply applied))
  have named := defaultAction_ne_empty_of_actsLike acts step found'
  rw [defaultAction, found']
  exact named

/-- A flag that sets the default action. -/
theorem defaultAction_ne_empty_of_set {label : String} {edit : String → SeccompEdit}
    {value : Option String}
    (sets : ∀ word, edit word = .setDefault word ∨ edit word = .setDefaultForce word)
    (given : value.isSome = true)
    (done : runAll draft (ofOption label (.seccomp ∘ edit) value) = .ok after) :
    defaultAction after.config ≠ "" := by
  rcases exists_of_runAll_ofOption done with ⟨rfl, _⟩ | ⟨word, decisions, _, applied⟩
  · cases given
  · have yields : (edit word).apply draft.config = .ok (after.config, decisions) :=
      Draft.yields_apply applied
    obtain ⟨action, made⟩ : ∃ action : SeccompAction, defaultAction after.config = action.text := by
      rcases sets word with same | same
      all_goals
        rw [same] at yields
        obtain ⟨action, _, equal⟩ := exists_of_bind_eq_ok yields
        obtain ⟨made, _⟩ := Prod.mk.inj (Except.ok.inj equal)
        exact ⟨action, by rw [← made]; rfl⟩
    rw [made]
    exact action.text_ne_empty

end Step

/-! ### Flags -/

namespace SeccompFlags

open Step (AddsNothing actsLike_runAll defaultAction_ne_empty_of_set exists_of_runAll_append
  exists_of_runAll_cons of_run_needDefaultAction runAll_of_acts)

variable {flags : SeccompFlags} {draft after : Draft}

/-- Whether a flag sets the default action. -/
def setsDefault (flags : SeccompFlags) : Bool :=
  flags.defaultAction.isSome || flags.defaultActionForced.isSome

/-- **The flags about the filter** leave the default action or set one of the actions. Where one of
them adds to the filter or sets the default action, there is a filter with a default action. -/
theorem acts (done : Step.runAll draft flags.steps = .ok after) :
    ActsLike draft.config after.config ∧
      (flags.adds = true ∨ flags.setsDefault = true → Step.defaultAction after.config ≠ "") := by
  rw [steps] at done
  simp only [List.append_assoc] at done
  obtain ⟨first, default, done⟩ := exists_of_runAll_append done
  obtain ⟨second, forced, done⟩ := exists_of_runAll_append done
  obtain ⟨third, guarded, rest⟩ := exists_of_runAll_append done
  have like : ActsLike draft.config second.config :=
    (actsLike_runAll (by simp [AddsNothing, SeccompEdit.Adds]) default).trans
      (actsLike_runAll (by simp [AddsNothing, SeccompEdit.Adds]) forced)
  have set (given : flags.setsDefault = true) : Step.defaultAction second.config ≠ "" := by
    rcases Bool.or_eq_true_iff.mp given with given | given
    · have acts := defaultAction_ne_empty_of_set (fun _ => .inl rfl) given default
      exact (runAll_of_acts (by simp) acts forced).2
    · exact defaultAction_ne_empty_of_set (fun _ => .inr rfl) given forced
  have demanded : third = second ∧ (flags.adds = true → Step.defaultAction second.config ≠ "") := by
    cases added : flags.adds with
    | false =>
      rw [added, if_neg Bool.false_ne_true] at guarded
      cases guarded
      exact ⟨rfl, (absurd · Bool.false_ne_true)⟩
    | true =>
      rw [added, if_pos rfl] at guarded
      obtain ⟨between, demand, done⟩ := exists_of_runAll_cons guarded
      cases done
      obtain ⟨rfl, acts⟩ := of_run_needDefaultAction demand
      exact ⟨rfl, fun _ => acts⟩
  obtain ⟨rfl, need⟩ := demanded
  -- Without a default action at this point, the demand was not made, so nothing is added later.
  by_cases acts : Step.defaultAction third.config ≠ ""
  · obtain ⟨like', acts'⟩ := runAll_of_acts (by simp) acts rest
    exact ⟨like.trans like', fun _ => acts'⟩
  · obtain ⟨arches, rules⟩ := adds_eq_false_iff.mp (Bool.eq_false_iff.mpr (mt need acts))
    have nothing := actsLike_runAll (by simp [arches, rules, AddsNothing, SeccompEdit.Adds]) rest
    exact ⟨like.trans nothing, fun given => absurd (given.elim need set) acts⟩

end SeccompFlags

namespace GenerateFlags

open Step (AddsNothing AllAsk)

variable {flags : GenerateFlags} {host : Host} {hostSpecific : Bool} {tree : FileTree} {draft : Draft}

/-- The flags of the other families add to no filter. -/
theorem addsNothing_steps (flags : GenerateFlags) : AllAsk AddsNothing (flags.general.steps
    ++ flags.process.steps ++ flags.namespaces.steps ++ flags.mounts.steps ++ flags.hooks.steps
    ++ flags.linux.steps ++ flags.resources.steps) := by
  have process : AllAsk AddsNothing flags.process.steps := by
    delta ProcessFlags.steps
    simp [AddsNothing]
  simp [process, GeneralFlags.steps, NamespaceFlags.steps, MountFlags.steps, HookFlags.steps,
    LinuxFlags.steps, ResourcesFlags.steps, ResourcesFlags.cpuMemorySteps,
    ResourcesFlags.blockIoSteps, ResourcesFlags.throttleSteps, AddsNothing]

/-- **No filter is built without a default action**, unless the template has one and the flags leave
it   alone: then none of them adds to the filter or sets its default action. Where architectures or
rules are added, there is a filter, and its default action is one of the actions or the one of the
template, which is not empty. -/
theorem default_action_of_build (done : flags.build host hostSpecific tree = .ok draft) :
    ∃ start, flags.base host tree = .ok start ∧
      (∀ seccomp, draft.config.seccomp = some seccomp → seccomp.defaultAction = "" →
        (∃ before, start.seccomp = some before ∧ before.defaultAction = "") ∧
          flags.seccomp.arches = [] ∧ flags.seccomp.rules = [] ∧
          flags.seccomp.defaultAction = none ∧ flags.seccomp.defaultActionForced = none) ∧
      (flags.seccomp.arches ≠ [] ∨ flags.seccomp.rules ≠ [] →
        ∃ seccomp, draft.config.seccomp = some seccomp ∧
          ((∃ action : SeccompAction, seccomp.defaultAction = action.text) ∨
            ∃ before, start.seccomp = some before ∧ before.defaultAction ≠ "" ∧
              seccomp.defaultAction = before.defaultAction)) := by
  obtain ⟨start, based, ran⟩ := exists_of_bind_eq_ok done
  obtain ⟨between, others, filtered⟩ := Step.exists_of_runAll_append ran
  obtain ⟨like, acts⟩ := SeccompFlags.acts filtered
  have start_like : ActsLike start (if flags.sanitize then start.sanitize else start) := by
    split
    next => exact actsLike_of_none start.seccomp_sanitize
    next => exact .refl start
  have kept : ActsLike start draft.config :=
    (start_like.trans (Step.actsLike_runAll flags.addsNothing_steps others)).trans like
  refine ⟨start, based, fun seccomp found empty => ?_, fun added => ?_⟩
  · have idle : ¬ (flags.seccomp.adds = true ∨ flags.seccomp.setsDefault = true) := by
      intro given
      obtain ⟨other, found', named⟩ := Step.exists_of_defaultAction_ne_empty (acts given)
      obtain rfl := Option.some.inj (found.symm.trans found')
      exact named empty
    obtain ⟨adds, sets⟩ := not_or.mp idle
    obtain ⟨arches, rules⟩ := SeccompFlags.adds_eq_false_iff.mp (Bool.eq_false_iff.mpr adds)
    obtain ⟨unset, unforced⟩ := Bool.or_eq_false_iff.mp (Bool.eq_false_iff.mpr sets)
    have none {value : Option String} (missing : value.isSome = false) : value = none :=
      Option.not_isSome_iff_eq_none.mp (Bool.eq_false_iff.mp missing)
    refine ⟨?_, arches, rules, none unset, none unforced⟩
    rcases kept seccomp found with ⟨action, text⟩ | ⟨before, given, same⟩
    · exact absurd (text.symm.trans empty) action.text_ne_empty
    · exact ⟨before, given, same.symm.trans empty⟩
  · have adds : flags.seccomp.adds = true := by
      refine Bool.ne_false_iff.mp fun nothing => ?_
      obtain ⟨arches, rules⟩ := SeccompFlags.adds_eq_false_iff.mp nothing
      exact added.elim (absurd arches ·) (absurd rules ·)
    obtain ⟨seccomp, found, named⟩ := Step.exists_of_defaultAction_ne_empty (acts (.inl adds))
    refine ⟨seccomp, found, (kept seccomp found).imp_right ?_⟩
    rintro ⟨before, given, same⟩
    exact ⟨before, given, same ▸ named, same⟩

/-- A privileged process loses the filter of the template, whose default action is then no longer
there; a flag sets another one, and a rule is added. -/
theorem default_action_of_build_privileged :
    let text := "\x7b\"linux\":\x7b\"seccomp\":\x7b\"defaultAction\":\"\"\x7d\x7d\x7d"
    let tree : FileTree := ⟨[(["t"], .file (.ofString text))], []⟩
    let flags : GenerateFlags :=
      { (default : GenerateFlags) with
        template := some "t"
        process := { (default : ProcessFlags) with privileged := true }
        seccomp := { (default : SeccompFlags) with
          defaultAction := some "errno"
          rules := ["allow:read"] } }
    ∃ draft, flags.build default false tree = .ok draft ∧ ∃ seccomp, draft.config.seccomp = some seccomp ∧
      ∃ action : SeccompAction, seccomp.defaultAction = action.text := by
  intro text tree flags
  obtain ⟨draft, done⟩ : ∃ draft, flags.build default false tree = .ok draft :=
    exists_of_isOk (by decide +kernel)
  obtain ⟨start, based, _, adds⟩ := default_action_of_build done
  obtain ⟨seccomp, found, canonical | ⟨before, given, named, _⟩⟩ := adds (.inr (List.cons_ne_nil _ _))
  · exact ⟨draft, done, seccomp, found, canonical⟩
  · have empty : (flags.base default tree).toOption.bind Config.seccomp = some ⟨"", [], []⟩ := by
      decide +kernel
    rw [based] at empty
    obtain rfl := Option.some.inj (given.symm.trans empty)
    exact absurd rfl named

end GenerateFlags

end OciBundle
