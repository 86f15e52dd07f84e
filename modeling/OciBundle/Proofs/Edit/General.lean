/-
**Edits of the general parts, the mounts and the hooks break no guarded rule.**

* `GeneralEdit.noWorse`, `MountEdit.noWorse`, `HookEdit.noWorse`: what such an edit leaves.
* `HookEdit.IsPlain`: hooks are added without variables and time limits of their own.
-/

import OciBundle.Edit.General
import OciBundle.Proofs.Validation.Bundle

namespace OciBundle

open Code (guarded ne_of_mem_guarded)
open Violation (noWorse_of_not_reports)

variable {code : Code} {config after : Config}

/-! ### General parts -/

/-- **A general edit** leaves no part worse. -/
theorem GeneralEdit.noWorse {edit : GeneralEdit} (member : code ∈ guarded)
    (done : edit.apply config = .ok after) : Config.NoWorse code config after := by
  cases edit with
  | setVersion version =>
    rw [apply] at done
    split at done
    next holds =>
      cases done
      refine { Config.NoWorse.refl code _ with version := noWorse_of_not_reports fun found => ?_ }
      exact Bool.false_ne_true ((Config.reports_checkVersion.mp found).1.2.symm.trans holds)
    next => cases done
  | setHostname hostname =>
    cases done
    exact Config.noWorse_setHostname member hostname
  | setPlatformOs os =>
    obtain ⟨word, _, equal⟩ := exists_of_bind_eq_ok done
    cases equal
    refine { Config.NoWorse.refl code _ with platform := noWorse_of_not_reports fun found => ?_ }
    have unknown := ((Config.reports_checkPlatform (ne_of_mem_guarded member (by decide))).mp
      found).1.2
    have known : Vocabulary.ofText? (Vocabulary.text word) = some word :=
      Vocabulary.ofText?_eq_some_iff.mpr rfl
    cases unknown.symm.trans known
  | setPlatformArch arch =>
    rw [apply] at done
    split at done
    next =>
      cases done
      have other : code ≠ .platformArchInvalid := ne_of_mem_guarded member (by decide)
      refine { Config.NoWorse.refl code _ with platform := fun found => ?_ }
      have unknown := (Config.reports_checkPlatform other).mp found
      exact (Config.reports_checkPlatform other).mpr unknown
    next => cases done
  | annotate key value =>
    rw [apply] at done
    split at done
    next => cases done
    next given =>
      cases done
      refine { Config.NoWorse.refl code _ with annotations := fun found => ?_ }
      obtain ⟨present, same⟩ := Config.reports_checkAnnotations.mp found
      rw [Dict.get?_insert, if_neg (Ne.symm given)] at present
      exact Config.reports_checkAnnotations.mpr ⟨present, same⟩
  | unannotate key =>
    cases done
    refine { Config.NoWorse.refl code _ with annotations := fun found => ?_ }
    obtain ⟨present, same⟩ := Config.reports_checkAnnotations.mp found
    rw [Dict.get?_erase] at present
    split at present
    next => exact absurd rfl present
    next => exact Config.reports_checkAnnotations.mpr ⟨present, same⟩
  | clearAnnotations =>
    cases done
    refine { Config.NoWorse.refl code _ with annotations := noWorse_of_not_reports fun found => ?_ }
    exact (Config.reports_checkAnnotations.mp found).1 rfl
  | setRootPath path =>
    cases done
    exact { Config.NoWorse.refl code config with }
  | setRootReadonly readonly =>
    cases done
    exact { Config.NoWorse.refl code config with }

/-! ### Mounts -/

theorem isAbsolute_of_requireAbsolute {subject path : String}
    (done : requireAbsolute subject path = .ok ()) : Text.isAbsolute path = true := by
  rw [requireAbsolute] at done
  split at done
  next holds => exact holds
  next => cases done

namespace MountEdit

/-- An appended mount has an absolute destination. -/
theorem noWorse_append {mount : Mount} (done : append config mount = .ok after) :
    Config.NoWorse code config after := by
  obtain ⟨_, absolute, equal⟩ := exists_of_bind_eq_ok done
  cases equal
  refine
    { Config.NoWorse.refl code _ with
      mounts := Config.noWorse_checkMounts fun other member => ?_ }
  rcases List.mem_append.mp member with old | new
  · exact .inl ⟨other, old, rfl⟩
  · rw [List.mem_singleton.mp new]
    exact .inr (isAbsolute_of_requireAbsolute absolute)

/-- **An edit of the mounts** leaves no part worse. -/
theorem noWorse {edit : MountEdit} (done : edit.apply config = .ok after) :
    Config.NoWorse code config after := by
  cases edit with
  | add mount => exact noWorse_append done
  | addTmpfs input =>
    obtain ⟨mount, _, appended⟩ := exists_of_bind_eq_ok done
    exact noWorse_append appended
  | addBind input =>
    obtain ⟨mount, _, appended⟩ := exists_of_bind_eq_ok done
    exact noWorse_append appended
  | addCgroup policy =>
    rw [apply] at done
    split at done
    next =>
      cases done
      exact .refl code _
    split at done
    next => exact noWorse_append done
    next => cases done
  | remove destination =>
    cases done
    refine
      { Config.NoWorse.refl code _ with
        mounts := Config.noWorse_checkMounts fun mount member => ?_ }
    exact .inl ⟨mount, (List.mem_filter.mp member).1, rfl⟩
  | clear =>
    cases done
    exact
      { Config.NoWorse.refl code _ with
        mounts := Config.noWorse_checkMounts fun mount member => nomatch member }

end MountEdit

/-! ### Hooks -/

/-- A hook with an absolute path and nothing else that is checked. -/
theorem Hook.not_fails_of_plain {hook : Hook} (absolute : Text.isAbsolute hook.path = true)
    (noEnv : hook.env = []) (noTimeout : hook.timeout = none) : ¬ hook.Fails code := by
  rintro ((⟨⟨_, relative⟩, _⟩ | ⟨⟨entry, member, _⟩, _⟩) | ⟨⟨timeout, given, _⟩, _⟩)
  · exact Bool.false_ne_true (relative.symm.trans absolute)
  · rw [noEnv] at member
    exact absurd member List.not_mem_nil
  · rw [noTimeout] at given
    cases given

/-- A hook that is read has no variables and no time limit. -/
theorem Hook.plain_of_read {input : String} {hook : Hook} (done : Hook.read input = .ok hook) :
    hook.env = [] ∧ hook.timeout = none := by
  rw [Hook.read] at done
  split at done
  next =>
    split at done
    next => cases done
    next =>
      cases done
      exact ⟨rfl, rfl⟩
  next => cases done

namespace HookEdit

/-- Whether an added hook comes without variables and a time limit of its own. -/
def IsPlain : HookEdit → Prop
  | .add _ hook => hook.env = [] ∧ hook.timeout = none
  | _ => True

theorem noWorse_append {stage : HookStage} {hook : Hook} (noEnv : hook.env = [])
    (noTimeout : hook.timeout = none) (done : append config stage hook = .ok after) :
    Config.NoWorse code config after := by
  obtain ⟨_, absolute, equal⟩ := exists_of_bind_eq_ok done
  cases equal
  refine Config.noWorse_withHooks fun hooks => Hooks.noWorse_mapStage fun other member fault => ?_
  rcases List.mem_append.mp member with old | new
  · exact ⟨other, old, fault⟩
  · rw [List.mem_singleton.mp new] at fault
    exact absurd fault
      (Hook.not_fails_of_plain (isAbsolute_of_requireAbsolute absolute) noEnv noTimeout)

/-- A change of the hook with a path, or of a new one, that makes no hook fail. -/
theorem noWorse_change {stage : HookStage} {path : String} {update : Hook → Hook}
    (absolute : Text.isAbsolute path = true)
    (kept : ∀ hook : Hook, (update hook).Fails code → hook.Fails code) :
    Config.NoWorse code config (config.withHooks (·.mapStage stage
      (Keyed.change (·.path = path) update (update (.ofPath path))))) := by
  refine Config.noWorse_withHooks fun hooks => Hooks.noWorse_mapStage fun hook member fault => ?_
  rcases Keyed.mem_change member with old | fresh | ⟨old, inside, _, changed⟩
  · exact ⟨hook, old, fault⟩
  · rw [fresh] at fault
    exact absurd (kept _ fault) (Hook.not_fails_of_plain absolute rfl rfl)
  · rw [changed] at fault
    exact ⟨old, inside, kept old fault⟩

theorem isEnvPair_of_envKey? {pair key : String} (found : envKey? pair = some key) :
    isEnvPair pair = true := by
  unfold envKey? at found
  unfold isEnvPair
  cases cut : Text.cut '=' pair with
  | none =>
    rw [cut] at found
    cases found
  | some parts =>
    rw [cut] at found
    dsimp only at found
    split at found
    next => cases found
    next given => exact decide_eq_true given

/-- **An edit of the hooks** leaves no part worse. -/
theorem noWorse {edit : HookEdit} (plain : edit.IsPlain) (done : edit.apply config = .ok after) :
    Config.NoWorse code config after := by
  cases edit with
  | add stage hook => exact noWorse_append plain.1 plain.2 done
  | addText stage input =>
    obtain ⟨hook, read, appended⟩ := exists_of_bind_eq_ok done
    obtain ⟨noEnv, noTimeout⟩ := Hook.plain_of_read (eq_ok_of_mapError_eq_ok read)
    exact noWorse_append noEnv noTimeout appended
  | addEnv stage path pair =>
    obtain ⟨_, absolute, added⟩ := exists_of_bind_eq_ok done
    split at added
    next => cases added
    next key found =>
      cases added
      refine noWorse_change (isAbsolute_of_requireAbsolute absolute) fun hook fault => ?_
      rcases fault with (relative | ⟨⟨entry, member, wrong⟩, same⟩) | none
      · exact .inl (.inl relative)
      · rcases Keyed.mem_put member with old | rfl
        · exact .inl (.inr ⟨⟨entry, old, wrong⟩, same⟩)
        · exact absurd (wrong.symm.trans (isEnvPair_of_envKey? found)) Bool.false_ne_true
      · exact .inr none
  | addTimeout stage path timeout =>
    obtain ⟨_, absolute, added⟩ := exists_of_bind_eq_ok done
    split at added
    next => cases added
    next positive =>
      cases added
      refine noWorse_change (isAbsolute_of_requireAbsolute absolute) fun hook fault => ?_
      rcases fault with fault | ⟨⟨given, equal, none⟩, _⟩
      · exact .inl fault
      · cases equal
        exact absurd (Int32.not_le.mp positive) none
  | clear stage =>
    cases done
    refine Config.noWorse_mapHooks fun hooks => Hooks.noWorse_mapStage fun hook member => ?_
    exact nomatch member

end HookEdit

end OciBundle
