/-
**What is demanded of a configuration.**

Of the rules that a configuration alone decides on, most are guarded, and all of these but the one
about the operating system do not depend on the host. The other demands are about mandatory members,
about the platform, where a known operating system has to run on the architecture, and about the
paths of namespaces. So a configuration of which no independent rule is reported meets all demands
as soon as it meets these three.

* `Process.not_reports_check`, `Hooks.not_reports_check`, …: parts that have such rules only.
* `Linux.reports_check`, `Config.reports_violations`: the reports of the other demands.
* `Platform.Fits`: a known operating system with an architecture that belongs to it.
* `Config.Sound`: no independent rule is reported, and the configuration is complete.
* `Config.Sound.atLeast_must_eq_nil_iff`: when a sound configuration meets all demands.
* `Config.Sound.forall_surrounding_iff`: the same of a validation of the bundle around it.
-/

import Mathlib.Logic.Basic
import OciBundle.Proofs.Config.Kept
import OciBundle.Proofs.Validation.Bundle

namespace OciBundle

open Code (independent surrounding)
open Violation (Reports reports_require reports_append reports_cons reports_map reports_each
  reports_each_of_iff not_reports_nil)

variable {code : Code}

/-! ### Rules that do not depend on the host -/

section Dependent

variable (dependent : code ∉ independent)

include dependent

/-- No other rule is reported about capabilities of a configuration that is not made for a host. -/
theorem Process.not_reports_checkCapabilities_none (process : Process) :
    ¬ Reports (process.checkCapabilities none) code := by
  rw [checkCapabilities, reports_each]
  rintro ⟨index, name, _, found⟩
  split at found
  next =>
    rcases reports_cons.mp found with rfl | none
    · exact dependent (by decide : Code.procCapInvalid ∈ independent)
    · exact not_reports_nil none
  next =>
    split at found
    next =>
      rcases reports_cons.mp found with rfl | none
      · exact dependent (by decide : Code.procCapDuplicate ∈ independent)
      · exact not_reports_nil none
    next => exact Bool.false_ne_true (reports_require.mp found).1.symm

theorem Process.not_reports_check (process : Process) : ¬ Reports (process.check none) code := by
  rw [check, reports_append, reports_append, reports_append, reports_checkCwd, reports_checkEnv,
    reports_checkRlimits,
    iff_false_intro (not_reports_checkCapabilities_none dependent process), or_false]
  rintro ((⟨_, rfl⟩ | ⟨_, _, _, rfl⟩) | ⟨_, _, _, ⟨_, rfl⟩ | ⟨_, rfl⟩⟩ | ⟨rfl, _⟩)
  all_goals exact dependent (by decide)

theorem Hooks.not_reports_check (hooks : Hooks) : ¬ Reports hooks.check code := by
  rw [reports_check]
  rintro ⟨_, _, _, (⟨_, rfl⟩ | ⟨_, rfl⟩) | ⟨_, rfl⟩⟩
  all_goals exact dependent (by decide)

theorem Seccomp.not_reports_check (seccomp : Seccomp) : ¬ Reports seccomp.check code := by
  rw [reports_check, reports_checkArchitectures]
  rintro ((⟨_, rfl⟩ | ⟨_, _, _, rfl⟩ | ⟨rfl, _⟩) | ⟨_, _, ⟨_, rfl⟩ | ⟨_, _, _, rfl⟩⟩)
  all_goals exact dependent (by decide)

theorem Linux.not_reports_checkDevices (linux : Linux) : ¬ Reports linux.checkDevices code := by
  rw [reports_checkDevices]
  rintro (⟨device, _, ⟨_, fault⟩ | ⟨_, _, rfl⟩⟩ | ⟨rfl, _⟩)
  · split at fault
    next =>
      cases fault
      exact dependent (by decide)
    next =>
      cases fault.2
      exact dependent (by decide)
  all_goals exact dependent (by decide)

theorem Linux.not_reports_checkDeviceRules (rules : List DeviceRule) :
    ¬ Reports (checkDeviceRules rules) code := by
  rw [reports_checkDeviceRules]
  rintro ⟨_, _, ⟨_, rfl⟩ | ⟨_, rfl⟩⟩
  all_goals exact dependent (by decide)

/-! ### The other rules -/

/-- Whether a namespace with a kind is joined at a relative path. -/
def Namespace.PathFails (entry : Namespace) : Prop :=
  entry.kind ≠ "" ∧ entry.path ≠ "" ∧ Text.isAbsolute entry.path = false

theorem Linux.reports_checkNamespacePaths (linux : Linux) :
    Reports linux.checkNamespaces code ↔
      (∃ entry ∈ linux.namespaces, entry.PathFails) ∧ .nsPathAbs = code := by
  have each : Reports linux.checkNamespaces code ↔
      ∃ entry ∈ linux.namespaces, entry.PathFails ∧ .nsPathAbs = code := by
    refine reports_each_of_iff fun index entry => ?_
    have kind : ¬ Reports (linux.checkNamespaceKind index entry) code := by
      rw [checkNamespaceKind, Violation.reports_unknown_or_repeated]
      rintro (⟨_, rfl⟩ | ⟨_, _, rfl⟩)
      · exact dependent (by decide : Code.nsTypeInvalid ∈ independent)
      · exact dependent (by decide : Code.nsTypeDuplicate ∈ independent)
    unfold Namespace.PathFails
    by_cases empty : entry.kind = ""
    · simp [empty]
    · simp [empty, kind, checkNamespacePath, and_assoc]
  rw [each]
  simp only [← and_assoc, exists_and_right]

/-- A demand, not a mere recommendation. -/
theorem Linux.reports_check (demanded : Level.must.severity ≤ code.level.severity) (linux : Linux)
    (hostname : String) :
    Reports (linux.check hostname) code ↔
      (∃ entry ∈ linux.namespaces, entry.PathFails) ∧ .nsPathAbs = code := by
  have hostnames : ¬ Reports (linux.checkHostname hostname) code :=
    not_reports_checkHostname (by
      rintro rfl
      exact absurd demanded (by decide))
  have sysctl : ¬ Reports linux.checkSysctl code :=
    not_reports_checkSysctl (by
      rintro rfl
      exact absurd demanded (by decide))
  have mappings : ¬ Reports linux.checkMappings code := by
    rw [reports_checkMappings (by
      rintro rfl
      exact absurd demanded (by decide))]
    rintro ⟨_, rfl⟩
    exact dependent (by decide)
  have propagation : ¬ Reports linux.checkPropagation code := by
    rw [reports_checkPropagation]
    rintro ⟨_, rfl⟩
    exact dependent (by decide)
  have paths {rule : Code} (member : rule ∈ independent) (subject : String) (paths : List String) :
      ¬ Reports (checkPaths rule subject paths) code := by
    rw [reports_checkPaths]
    rintro ⟨_, _, _, rfl⟩
    exact dependent member
  have seccomp : ¬ Reports ((linux.seccomp.map Seccomp.check).getD []) code := by
    cases linux.seccomp with
    | none => exact not_reports_nil
    | some seccomp => exact seccomp.not_reports_check dependent
  simp only [check, reports_append, reports_checkNamespacePaths dependent, hostnames, sysctl,
    mappings, propagation, linux.not_reports_checkDevices dependent,
    not_reports_checkDeviceRules dependent, paths (by decide : Code.maskedPathAbs ∈ independent),
    paths (by decide : Code.readonlyPathAbs ∈ independent), seccomp, or_false]

namespace Config

/-- **The reports of the other demands.** -/
theorem reports_violations (demanded : Level.must.severity ≤ code.level.severity)
    (config : Config) :
    Reports config.violations code ↔
      (config.missing ≠ [] ∧ .mandatoryFieldMissing = code ∨ Reports config.checkPlatform code) ∨
        (∃ entry ∈ config.namespaces, entry.PathFails) ∧ .nsPathAbs = code := by
  have mandatory : Reports config.checkMandatory code ↔
      config.missing ≠ [] ∧ .mandatoryFieldMissing = code := by
    rw [checkMandatory, reports_map, ne_eq, List.eq_nil_iff_forall_not_mem, not_forall_not]
    simp only [exists_and_right]
  have version : ¬ Reports config.checkVersion code := by
    rw [reports_checkVersion]
    rintro ⟨_, rfl⟩
    exact dependent (by decide)
  have hooks : ¬ Reports config.checkHooks code := by
    unfold checkHooks
    cases config.hooks with
    | none => exact not_reports_nil
    | some hooks => exact hooks.not_reports_check dependent
  have mounts : ¬ Reports config.checkMounts code := by
    rw [reports_checkMounts]
    rintro ⟨_, _, _, rfl⟩
    exact dependent (by decide)
  have annotations : ¬ Reports config.checkAnnotations code := by
    rw [reports_checkAnnotations]
    rintro ⟨_, rfl⟩
    exact dependent (by decide)
  have linux : Reports config.checkLinux code ↔
      (∃ entry ∈ config.namespaces, entry.PathFails) ∧ .nsPathAbs = code := by
    unfold checkLinux namespaces
    cases config.linux with
    | none => exact iff_of_false not_reports_nil fun ⟨⟨_, member, _⟩, _⟩ => nomatch member
    | some linux => exact linux.reports_check dependent demanded config.hostname
  rw [checkMounts] at mounts
  simp only [violations, reports_append, mandatory, version,
    config.process.not_reports_check dependent, hooks, mounts, annotations, linux, or_false]

end Config

end Dependent

/-! ### Platforms -/

/-- A known operating system with an architecture that belongs to it. -/
def Platform.Fits (platform : Platform) : Prop :=
  ∃ os, Vocabulary.ofText? (α := OperatingSystem) platform.os = some os ∧
    os.architectures.contains platform.arch = true

namespace Config

variable {config : Config}

/-- The two rules about the platform. -/
theorem code_of_reports_checkPlatform (found : Reports config.checkPlatform code) :
    code = .platformOsInvalid ∨ code = .platformArchInvalid := by
  by_cases other : code = .platformArchInvalid
  · exact .inr other
  · exact .inl ((reports_checkPlatform other).mp found).2.symm

/-- A platform fits when both of its parts are given and no rule about it is reported. -/
theorem fits_iff :
    config.platform.Fits ↔
      (config.platform.os ≠ "" ∧ config.platform.arch ≠ "") ∧ config.checkPlatform = [] := by
  have blank (os : OperatingSystem) : os.architectures.contains "" = false := by
    cases os <;> decide
  unfold Platform.Fits checkPlatform
  constructor
  · rintro ⟨os, known, belongs⟩
    have given : config.platform.os ≠ "" := by
      intro empty
      rw [empty] at known
      cases known
    have given' : config.platform.arch ≠ "" := by
      intro empty
      rw [empty, blank] at belongs
      cases belongs
    refine ⟨⟨given, given'⟩, ?_⟩
    rw [if_neg given, known]
    dsimp only
    rw [belongs, Bool.or_true]
    rfl
  · rintro ⟨⟨given, given'⟩, none⟩
    dsimp only at none
    rw [if_neg given] at none
    split at none
    next => cases none
    next os known => exact ⟨os, known, by simpa [given', Violation.require] using none⟩

end Config

/-! ### Sound configurations -/

/-- **What edits see to on any host**: no independent rule is reported, and no mandatory member is
empty but, perhaps, the ones of the platform and the path of the root file system. -/
structure Config.Sound (config : Config) : Prop where
  clean : ∀ code ∈ independent, ¬ Reports config.violations code
  complete : config.Complete

theorem Violation.atLeast_eq_nil_iff {level : Level} {violations : List Violation} :
    atLeast level violations = [] ↔
      ∀ code : Code, level.severity ≤ code.level.severity → ¬ Reports violations code := by
  rw [atLeast, List.filter_eq_nil_iff]
  constructor
  · rintro weak _ demanded ⟨violation, member, rfl⟩
    exact weak violation member (decide_eq_true demanded)
  · intro none violation member demanded
    exact none violation.code (of_decide_eq_true demanded) ⟨violation, member, rfl⟩

namespace Config.Sound

variable {config : Config}

/-- The demands that a sound configuration may not meet. -/
theorem reports_iff (sound : config.Sound)
    (demanded : Level.must.severity ≤ code.level.severity) :
    Reports config.violations code ↔
      (config.missing ≠ [] ∧ .mandatoryFieldMissing = code ∨ Reports config.checkPlatform code) ∨
        (∃ entry ∈ config.namespaces, entry.path ≠ "" ∧ Text.isAbsolute entry.path = false) ∧
          .nsPathAbs = code := by
  have paths : (∃ entry ∈ config.namespaces, entry.PathFails) ↔
      ∃ entry ∈ config.namespaces, entry.path ≠ "" ∧ Text.isAbsolute entry.path = false := by
    refine exists_congr fun entry => and_congr_right fun member => and_iff_right ?_
    exact (complete_getD_linux sound.complete).namespaces entry member
  by_cases member : code ∈ independent
  · refine iff_of_false (sound.clean code member) ?_
    rintro ((⟨_, rfl⟩ | platform) | ⟨_, rfl⟩)
    · exact absurd member (by decide)
    · rcases code_of_reports_checkPlatform platform with rfl | rfl
      all_goals exact absurd member (by decide)
    · exact absurd member (by decide)
  · rw [reports_violations member demanded, paths]

/-- **When a sound configuration meets all demands.** -/
theorem atLeast_must_eq_nil_iff (sound : config.Sound) :
    Violation.atLeast .must config.violations = [] ↔
      config.platform.Fits ∧ config.root.path ≠ "" ∧
        ∀ entry ∈ config.namespaces, entry.path = "" ∨ Text.isAbsolute entry.path = true := by
  have missing : config.missing = [] ↔
      (config.platform.os ≠ "" ∧ config.platform.arch ≠ "") ∧ config.root.path ≠ "" := by
    rw [missing_eq_nil_iff, and_iff_left sound.complete]
  rw [Violation.atLeast_eq_nil_iff, fits_iff]
  constructor
  · intro met
    have full : config.missing = [] := Classical.byContradiction fun lacking =>
      met .mandatoryFieldMissing (by decide)
        ((sound.reports_iff (by decide)).mpr (.inl (.inl ⟨lacking, rfl⟩)))
    obtain ⟨given, root⟩ := missing.mp full
    refine ⟨⟨given, ?_⟩, root, fun entry member => ?_⟩
    · refine List.eq_nil_iff_forall_not_mem.mpr fun violation member => ?_
      have found : Reports config.checkPlatform violation.code := ⟨violation, member, rfl⟩
      have demanded : Level.must.severity ≤ violation.code.level.severity := by
        rcases code_of_reports_checkPlatform found with same | same
        all_goals exact same ▸ by decide
      exact met _ demanded ((sound.reports_iff demanded).mpr (.inl (.inr found)))
    · refine or_iff_not_imp_left.mpr fun given => Bool.of_not_eq_false fun relative => ?_
      exact met .nsPathAbs (by decide)
        ((sound.reports_iff (by decide)).mpr (.inr ⟨⟨entry, member, given, relative⟩, rfl⟩))
  · rintro ⟨⟨given, none⟩, root, paths⟩ code demanded found
    rcases (sound.reports_iff demanded).mp found with
      (⟨lacking, _⟩ | platform) | ⟨⟨entry, member, path⟩, _⟩
    · exact lacking (missing.mpr ⟨given, root⟩)
    · rw [none] at platform
      exact not_reports_nil platform
    · rcases paths entry member with empty | absolute
      · exact path.1 empty
      · exact Bool.false_ne_true (path.2.symm.trans absolute)

/-- **A validation of the bundle** around a sound configuration finds no demand unmet, but demands
about what surrounds it, exactly if the configuration meets all demands. -/
theorem forall_surrounding_iff (sound : config.Sound) {bundle : Bundle} {tree : FileTree}
    {found : List Violation} (same : bundle.config = config)
    (done : bundle.validate tree = .ok found) :
    (∀ violation ∈ Violation.atLeast .must found, violation.code ∈ surrounding) ↔
      Violation.atLeast .must config.violations = [] := by
  subst same
  rw [Violation.atLeast_eq_nil_iff]
  constructor
  · intro outer code demanded reported
    have inner : code ∉ surrounding := by
      rcases (sound.reports_iff demanded).mp reported with (⟨_, rfl⟩ | platform) | ⟨_, rfl⟩
      · decide
      · rcases code_of_reports_checkPlatform platform with rfl | rfl <;> decide
      · decide
    obtain ⟨violation, member, rfl⟩ := (Bundle.reports_validate_iff done inner).mpr reported
    exact inner (outer violation (List.mem_filter.mpr ⟨member, decide_eq_true demanded⟩))
  · intro met violation member
    obtain ⟨listed, demanded⟩ := List.mem_filter.mp member
    refine Classical.byContradiction fun inner => ?_
    exact met violation.code (of_decide_eq_true demanded)
      ((Bundle.reports_validate_iff done inner).mp ⟨violation, listed, rfl⟩)

end Config.Sound

end OciBundle
