/-
**What the general rules and those about mounts and hooks report.**

* `reports_checkVersion`, `reports_checkPlatform`, `reports_checkAnnotations`: when a rule is
  reported.
* `Mount.reports_check`, `Hook.reports_check`, `Hooks.reports_check`: the same for mounts and hooks.
* `Config.noWorse_checkMounts`, `Hooks.noWorse_mapStage`: changes that are no worse.
-/

import OciBundle.Edit.Mount
import OciBundle.Proofs.Validation.Reports
import OciBundle.Validation.Mount

namespace OciBundle

open Violation (Reports reports_require reports_append reports_map reports_each_of_iff
  noWorse_of_items)

variable {code : Code}

/-! ### Version, platform and annotations -/

namespace Config

theorem not_reports_checkMandatory {config : Config} (other : code ≠ .mandatoryFieldMissing) :
    ¬ Reports config.checkMandatory code := by
  intro found
  obtain ⟨_, _, same⟩ := reports_map.mp found
  exact other same.symm

theorem reports_checkVersion {config : Config} :
    Reports config.checkVersion code ↔
      (config.version ≠ "" ∧ isVersion config.version = false) ∧ .specVersionInSemVer = code := by
  rw [checkVersion, reports_require, Bool.or_eq_false_iff, decide_eq_false_iff_not]

/-- The architecture left aside, the operating system may be unknown. -/
theorem reports_checkPlatform {config : Config} (other : code ≠ .platformArchInvalid) :
    Reports config.checkPlatform code ↔
      (config.platform.os ≠ "" ∧
        Vocabulary.ofText? (α := OperatingSystem) config.platform.os = none) ∧
        .platformOsInvalid = code := by
  unfold checkPlatform
  by_cases empty : config.platform.os = ""
  · simp [empty]
  · simp only [empty, if_false]
    split
    next unknown => simp [empty, unknown]
    next known => simp [known, other.symm]

theorem reports_checkAnnotations {config : Config} :
    Reports config.checkAnnotations code ↔
      config.annotations.get? "" ≠ none ∧ .annotationKeyEmpty = code := by
  rw [checkAnnotations, reports_require, ← Bool.not_eq_true, Option.isNone_iff_eq_none]

end Config

/-! ### Mounts -/

/-- Whether the destination of a mount is relative. -/
def Mount.Fails (code : Code) (mount : Mount) : Prop :=
  (mount.destination ≠ "" ∧ Text.isAbsolute mount.destination = false) ∧ .mountDestinationAbs = code

theorem Mount.reports_check {mount : Mount} {index : Nat} :
    Reports (mount.check index) code ↔ mount.Fails code := by
  rw [check, reports_require, Bool.or_eq_false_iff, decide_eq_false_iff_not, Fails]

/-- The rules that mounts obey by themselves. -/
def Config.checkMounts (config : Config) : List Violation :=
  Violation.each config.mounts fun index mount => mount.check index

theorem Config.reports_checkMounts {config : Config} :
    Reports config.checkMounts code ↔ ∃ mount ∈ config.mounts, mount.Fails code :=
  reports_each_of_iff fun _ _ => Mount.reports_check

theorem Config.noWorse_checkMounts {before after : Config}
    (kept : ∀ mount ∈ after.mounts, (∃ old ∈ before.mounts, old.destination = mount.destination) ∨
      Text.isAbsolute mount.destination = true) :
    Violation.NoWorse code before.checkMounts after.checkMounts := by
  refine noWorse_of_items reports_checkMounts reports_checkMounts fun mount member fault => ?_
  rcases kept mount member with ⟨old, inside, same⟩ | absolute
  · refine ⟨old, inside, ?_⟩
    unfold Mount.Fails
    rw [same]
    exact fault
  · exact absurd (fault.1.2.symm.trans absolute) Bool.false_ne_true

/-! ### Hooks -/

/-- Whether a time limit is none. -/
def Hook.TimeoutFails (hook : Hook) : Prop :=
  ∃ timeout, hook.timeout = some timeout ∧ ¬ 0 < timeout

/-- Whether a hook breaks a rule. -/
def Hook.Fails (code : Code) (hook : Hook) : Prop :=
  ((hook.path ≠ "" ∧ Text.isAbsolute hook.path = false) ∧ .hookPathAbs = code ∨
    (∃ entry ∈ hook.env, isEnvPair entry = false) ∧ .hookEnvInvalid = code) ∨
    hook.TimeoutFails ∧ .hookTimeoutInvalid = code

theorem Hook.reports_check {hook : Hook} {subject : String} :
    Reports (hook.check subject) code ↔ hook.Fails code := by
  rw [check, reports_append, reports_append, reports_require, reports_map, Bool.or_eq_false_iff,
    decide_eq_false_iff_not, Fails]
  refine or_congr (or_congr Iff.rfl ?_) ?_
  · simp only [List.mem_filter, Bool.not_eq_true']
    exact ⟨fun ⟨entry, wrong, same⟩ => ⟨⟨entry, wrong⟩, same⟩,
      fun ⟨⟨entry, wrong⟩, same⟩ => ⟨entry, wrong, same⟩⟩
  · unfold TimeoutFails
    cases hook.timeout with
    | none => simp
    | some timeout => simp [reports_require]

namespace Hooks

/-- The hooks of a stage. -/
def atStage (hooks : Hooks) : HookStage → List Hook
  | .prestart => hooks.prestart
  | .poststart => hooks.poststart
  | .poststop => hooks.poststop

theorem atStage_mapStage (hooks : Hooks) (stage other : HookStage)
    (change : List Hook → List Hook) :
    (hooks.mapStage stage change).atStage other =
      if other = stage then change (hooks.atStage stage) else hooks.atStage other := by
  cases stage <;> cases other <;> rfl

theorem reports_check {hooks : Hooks} :
    Reports hooks.check code ↔ ∃ stage, ∃ hook ∈ hooks.atStage stage, hook.Fails code := by
  have each (name : String) (list : List Hook) :
      Reports (Violation.each list fun index hook =>
        hook.check (Outline.itemPath ("hooks." ++ name) index)) code ↔
        ∃ hook ∈ list, hook.Fails code :=
    reports_each_of_iff fun _ _ => Hook.reports_check
  rw [check, reports_append, reports_append, each, each, each]
  constructor
  · rintro ((found | found) | found)
    · exact ⟨.prestart, found⟩
    · exact ⟨.poststart, found⟩
    · exact ⟨.poststop, found⟩
  · rintro ⟨stage, found⟩
    cases stage with
    | prestart => exact .inl (.inl found)
    | poststart => exact .inl (.inr found)
    | poststop => exact .inr found

/-- A changed stage is no worse when each of its hooks that fails stands for one that did. -/
theorem noWorse_mapStage {hooks : Hooks} {stage : HookStage} {change : List Hook → List Hook}
    (kept : ∀ hook ∈ change (hooks.atStage stage), hook.Fails code →
      ∃ old ∈ hooks.atStage stage, old.Fails code) :
    Violation.NoWorse code hooks.check (hooks.mapStage stage change).check := by
  intro found
  obtain ⟨other, hook, member, fault⟩ := reports_check.mp found
  rw [atStage_mapStage] at member
  split at member
  next => exact reports_check.mpr ⟨stage, kept hook member fault⟩
  next => exact reports_check.mpr ⟨other, hook, member, fault⟩

end Hooks

end OciBundle
