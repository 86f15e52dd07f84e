/-
**What flags ask for.**

Of all flags, most ask for tame edits, so what is built keeps what the template has. The others are
the ones about the platform, the path of the root file system, namespaces, and what is added to the
filter on system calls; there the order of the steps matters.

* `ProcessFlags.tame_steps`, `MountFlags.tame_steps`, …: flags that ask for tame edits.
* `GeneralFlags.built`: the platform and the path of the root file system that flags leave.
* `SeccompFlags.kept`: a filter gets its default action before anything is added to it.
* `GenerateFlags.plain_steps`: no flag adds a hook with variables and a time limit of its own.
-/

import OciBundle.Generate
import OciBundle.Proofs.Flags.Step
import OciBundle.Proofs.Validation.Demands

namespace OciBundle

open Config (Kept)
open Step (AllAsk exists_of_defaultAction_ne_empty exists_of_runAll_append exists_of_runAll_cons
  exists_of_runAll_ofOption kept_runAll of_run_needDefaultAction)

variable {draft after : Draft}

/-! ### Tame flags -/

/-- The command line of the process is left alone unless arguments are given. -/
theorem ProcessFlags.tame_steps (flags : ProcessFlags) : AllAsk Edit.IsTame flags.steps := by
  delta steps
  simp [Edit.IsTame, ProcessEdit.IsTame]

theorem MountFlags.tame_steps (flags : MountFlags) : AllAsk Edit.IsTame flags.steps := by
  simp [steps, Edit.IsTame]

theorem HookFlags.tame_steps (flags : HookFlags) : AllAsk Edit.IsTame flags.steps := by
  simp [steps, Edit.IsTame]

theorem LinuxFlags.tame_steps (flags : LinuxFlags) : AllAsk Edit.IsTame flags.steps := by
  simp [steps, Edit.IsTame, LinuxEdit.IsTame]

theorem ResourcesFlags.tame_steps (flags : ResourcesFlags) : AllAsk Edit.IsTame flags.steps := by
  simp [steps, cpuMemorySteps, blockIoSteps, throttleSteps, Edit.IsTame]

/-! ### General flags -/

namespace GeneralFlags

variable {flags : GeneralFlags} {label : String}

/-- What the flag of the operating system changes. -/
theorem config_of_os {os : Option String}
    (done : Step.runAll draft (Step.ofOption label (.general ∘ .setPlatformOs) os) = .ok after) :
    after.config = { draft.config with
      platform := { draft.config.platform with os := os.getD draft.config.platform.os } } := by
  rcases exists_of_runAll_ofOption done with ⟨rfl, rfl⟩ | ⟨word, _, rfl, step⟩
  · rfl
  · obtain ⟨config, applied, equal⟩ := exists_of_bind_eq_ok step
    cases equal
    obtain ⟨system, read, equal⟩ := exists_of_bind_eq_ok applied
    cases equal
    have written : system.text = word :=
      Vocabulary.ofText?_eq_some_iff.mp (Vocabulary.ofText?_of_read (eq_ok_of_mapError_eq_ok read))
    rw [written]
    rfl

/-- What the flag of the architecture changes. -/
theorem config_of_arch {arch : Option String}
    (done : Step.runAll draft (Step.ofOption label (.general ∘ .setPlatformArch) arch) =
      .ok after) :
    after.config = { draft.config with
      platform :=
        { draft.config.platform with arch := arch.getD draft.config.platform.arch } } := by
  rcases exists_of_runAll_ofOption done with ⟨rfl, rfl⟩ | ⟨arch, _, rfl, step⟩
  · rfl
  · obtain ⟨config, applied, equal⟩ := exists_of_bind_eq_ok step
    cases equal
    rw [GeneralEdit.apply] at applied
    split at applied
    next =>
      cases applied
      rfl
    next => cases applied

/-- What the flag of the root file system changes. -/
theorem config_of_rootPath {path : Option String}
    (done : Step.runAll draft (Step.ofOption label (.general ∘ .setRootPath) path) = .ok after) :
    after.config = { draft.config with
      root := { draft.config.root with path := path.getD draft.config.root.path } } := by
  rcases exists_of_runAll_ofOption done with ⟨rfl, rfl⟩ | ⟨path, _, rfl, step⟩
  · rfl
  · obtain ⟨config, applied, equal⟩ := exists_of_bind_eq_ok step
    cases equal
    cases applied
    rfl

/-- **What general flags build**: the platform has the parts that are given, and the root file
system   the path. -/
theorem built (done : Step.runAll draft flags.steps = .ok after) :
    (draft.config.Complete → after.config.Complete) ∧
      after.config.platform =
        ⟨flags.os.getD draft.config.platform.os, flags.arch.getD draft.config.platform.arch⟩ ∧
      after.config.root.path = flags.rootPath.getD draft.config.root.path ∧
      after.config.namespaces = draft.config.namespaces := by
  obtain ⟨sixth, done, readonly⟩ := exists_of_runAll_append done
  obtain ⟨fifth, done, root⟩ := exists_of_runAll_append done
  obtain ⟨fourth, done, removed⟩ := exists_of_runAll_append done
  obtain ⟨third, done, annotated⟩ := exists_of_runAll_append done
  obtain ⟨second, done, arch⟩ := exists_of_runAll_append done
  obtain ⟨first, done, os⟩ := exists_of_runAll_append done
  have named : Kept draft.config first.config :=
    kept_runAll (by simp [Edit.IsTame, GeneralEdit.IsTame]) done
  have annotations : Kept third.config fourth.config :=
    kept_runAll (by simp [Edit.IsTame, GeneralEdit.IsTame]) annotated
  have removals : Kept fourth.config fifth.config :=
    kept_runAll (by simp [Edit.IsTame, GeneralEdit.IsTame]) removed
  have last : Kept sixth.config after.config :=
    kept_runAll (by simp [Edit.IsTame, GeneralEdit.IsTame]) readonly
  have withPlatform : third.config = { first.config with
      platform :=
        ⟨flags.os.getD first.config.platform.os, flags.arch.getD first.config.platform.arch⟩ } := by
    rw [config_of_arch arch, config_of_os os]
  have withRoot := config_of_rootPath root
  have middle := annotations.trans removals
  refine ⟨fun whole => last.complete ?complete, ?platform, ?path, ?namespaces⟩
  case complete =>
    have start : third.config.Complete := by
      rw [withPlatform]
      exact { named.complete whole with }
    rw [withRoot]
    exact { middle.complete start with }
  case platform =>
    rw [last.platform, withRoot]
    show fifth.config.platform = _
    rw [middle.platform, withPlatform, ← named.platform]
  case path =>
    rw [last.rootPath, withRoot]
    show flags.rootPath.getD fifth.config.root.path = _
    rw [middle.rootPath, withPlatform]
    exact congrArg _ named.rootPath
  case namespaces =>
    rw [last.namespaces, withRoot]
    show fifth.config.namespaces = _
    rw [middle.namespaces, withPlatform]
    exact named.namespaces

end GeneralFlags

/-! ### Flags about the filter on system calls -/

namespace SeccompFlags

variable {flags : SeccompFlags}

theorem adds_eq_false_iff : flags.adds = false ↔ flags.arches = [] ∧ flags.rules = [] := by
  simp [adds]

/-- Where nothing is added, all flags ask for tame edits. -/
theorem tame_steps (nothing : flags.adds = false) : AllAsk Edit.IsTame flags.steps := by
  obtain ⟨arches, rules⟩ := adds_eq_false_iff.mp nothing
  simp [steps, adds, arches, rules, Edit.IsTame, SeccompEdit.Adds]

/-- Edits of a filter that is there. -/
theorem kept_of_isSome {steps : List Step}
    (asks : AllAsk (fun change => ∃ edit, change = .seccomp edit) steps)
    (given : draft.config.seccomp.isSome = true) (done : Step.runAll draft steps = .ok after) :
    Kept draft.config after.config := by
  have both : Kept draft.config after.config ∧ after.config.seccomp.isSome = true := by
    refine Step.holds_runAll
      (fun other => Kept draft.config other.config ∧ other.config.seccomp.isSome = true) asks ?_
      ⟨.refl _, given⟩ done
    rintro before after _ decisions ⟨edit, rfl⟩ applied ⟨kept, there⟩
    have yields := Draft.yields_apply applied
    exact ⟨kept.trans (SeccompEdit.kept (fun _ => there) yields),
      SeccompEdit.isSome_seccomp there yields⟩
  exact both.1

/-- **What flags about the filter keep.** -/
theorem kept (done : Step.runAll draft flags.steps = .ok after) :
    Kept draft.config after.config := by
  cases added : flags.adds with
  | false => exact kept_runAll (tame_steps added) done
  | true =>
    rw [steps, added, if_pos rfl] at done
    simp only [List.append_assoc] at done
    obtain ⟨first, default, done⟩ := exists_of_runAll_append done
    obtain ⟨second, forced, done⟩ := exists_of_runAll_append done
    obtain ⟨third, need, rest⟩ := exists_of_runAll_cons done
    obtain ⟨rfl, acts⟩ := of_run_needDefaultAction need
    obtain ⟨seccomp, found, _⟩ := exists_of_defaultAction_ne_empty acts
    have given : third.config.seccomp.isSome = true := Option.isSome_of_eq_some found
    have start : Kept draft.config first.config :=
      kept_runAll (by simp [Edit.IsTame, SeccompEdit.Adds]) default
    have set : Kept first.config third.config :=
      kept_runAll (by simp [Edit.IsTame, SeccompEdit.Adds]) forced
    exact (start.trans set).trans (kept_of_isSome (by simp) given rest)

end SeccompFlags

namespace GenerateFlags

/-- **No flag adds a hook** with variables and a time limit of its own. -/
theorem plain_steps (flags : GenerateFlags) : AllAsk Edit.IsPlain flags.steps := by
  have process : AllAsk Edit.IsPlain flags.process.steps := by
    delta ProcessFlags.steps
    simp [Edit.IsPlain]
  simp [steps, process, GeneralFlags.steps, NamespaceFlags.steps, MountFlags.steps, HookFlags.steps,
    LinuxFlags.steps, ResourcesFlags.steps, ResourcesFlags.cpuMemorySteps,
    ResourcesFlags.blockIoSteps, ResourcesFlags.throttleSteps, SeccompFlags.steps, Edit.IsPlain,
    HookEdit.IsPlain]

end GenerateFlags

end OciBundle
