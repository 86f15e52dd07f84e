/-
**What the rules about a whole configuration report.**

* `Config.NoWorse`: no part of a configuration is worse than before.
* `Config.NoWorse.violations`: the same of all rules that a configuration alone decides.
* `Bundle.reports_validate_iff`: the bundle around a configuration decides on the rules about what
  surrounds it and on no other ones.
-/

import OciBundle.Proofs.Result
import OciBundle.Proofs.Validation.General
import OciBundle.Proofs.Validation.Linux
import OciBundle.Proofs.Validation.Process
import OciBundle.Validation.Bundle

namespace OciBundle

open Violation (Reports reports_require reports_append reports_map reports_each_of_iff
  not_reports_nil noWorse_append noWorse_of_not_reports noWorse_getD_some noWorse_getD_map)

variable {code : Code}

open Code (guarded ne_of_mem_guarded)

namespace Config

/-! ### Comparison -/

/-- **No part of a configuration is worse** than before. -/
structure NoWorse (code : Code) (before after : Config) : Prop where
  version : Violation.NoWorse code before.checkVersion after.checkVersion
  platform : Violation.NoWorse code before.checkPlatform after.checkPlatform
  process : Process.NoWorse code before.process after.process
  hooks : Violation.NoWorse code before.checkHooks after.checkHooks
  mounts : Violation.NoWorse code before.checkMounts after.checkMounts
  annotations : Violation.NoWorse code before.checkAnnotations after.checkAnnotations
  linux : Violation.NoWorse code before.checkLinux after.checkLinux

variable {config before after : Config}

theorem NoWorse.refl (code : Code) (config : Config) : NoWorse code config config where
  version := .refl _
  platform := .refl _
  process := .refl code _
  hooks := .refl _
  mounts := .refl _
  annotations := .refl _
  linux := .refl _

/-- **No rule about a configuration** without worse parts is reported that was not before. -/
theorem NoWorse.violations (kept : NoWorse code before after) (member : code ∈ guarded) :
    Violation.NoWorse code before.violations after.violations := by
  have mandatory : Violation.NoWorse code before.checkMandatory after.checkMandatory :=
    noWorse_of_not_reports (not_reports_checkMandatory (ne_of_mem_guarded member (by decide)))
  unfold Config.violations
  refine noWorse_append (noWorse_append (noWorse_append ?_ kept.mounts) kept.annotations) kept.linux
  refine noWorse_append (noWorse_append ?_ kept.process.check) kept.hooks
  exact noWorse_append (noWorse_append mandatory kept.version) kept.platform

/-! ### Changes of parts -/

theorem noWorse_mapProcess {change : Process → Process}
    (kept : Process.NoWorse code config.process (change config.process)) :
    NoWorse code config (config.mapProcess change) :=
  { NoWorse.refl code config with process := kept }

theorem noWorse_withHooks {change : Hooks → Hooks}
    (kept : ∀ hooks : Hooks, Violation.NoWorse code hooks.check (change hooks).check) :
    NoWorse code config (config.withHooks change) := by
  have fresh : ¬ Reports (default : Hooks).check code := not_reports_nil
  exact { NoWorse.refl code config with hooks := noWorse_getD_some fresh (kept _) }

theorem noWorse_mapHooks {change : Hooks → Hooks}
    (kept : ∀ hooks : Hooks, Violation.NoWorse code hooks.check (change hooks).check) :
    NoWorse code config (config.mapHooks change) :=
  { NoWorse.refl code config with hooks := noWorse_getD_map fun hooks _ => kept hooks }

theorem noWorse_withLinux {change : Linux → Linux} (member : code ∈ guarded)
    (kept : Linux.NoWorse code (config.linux.getD default) (change (config.linux.getD default))) :
    NoWorse code config (config.withLinux change) :=
  { NoWorse.refl code config with
    linux := noWorse_getD_some (Linux.not_reports_check_default member) (kept.check member) }

theorem noWorse_mapLinux {change : Linux → Linux} (member : code ∈ guarded)
    (kept : ∀ linux : Linux, Linux.NoWorse code linux (change linux)) :
    NoWorse code config (config.mapLinux change) :=
  { NoWorse.refl code config with
    linux := noWorse_getD_map fun linux _ => (kept linux).check member }

/-- The hostname matters for its namespace only. -/
theorem noWorse_setHostname (member : code ∈ guarded) (hostname : String) :
    NoWorse code config { config with hostname } := by
  refine { NoWorse.refl code config with linux := ?_ }
  show Violation.NoWorse code ((config.linux.map fun linux => linux.check config.hostname).getD [])
    ((config.linux.map fun linux => linux.check hostname).getD [])
  cases config.linux with
  | none => exact .refl _
  | some linux => exact Linux.NoWorse.check (.refl code linux) member

end Config

/-! ### The bundle around a configuration -/

theorem Config.not_reports_checkHostPlatform {config : Config} {host : Host}
    (other : code ≠ .platformHostMismatch) : ¬ Reports (config.checkHostPlatform host) code := by
  unfold checkHostPlatform
  split
  · exact not_reports_nil
  · rw [reports_append, reports_require, reports_require]
    rintro (⟨_, same⟩ | ⟨_, same⟩)
    · exact other same.symm
    · exact other same.symm

theorem Device.not_reports_checkOnHost {device : Device} {tree : FileTree} {index : Nat}
    {found : List Violation} (done : device.checkOnHost tree index = .ok found)
    (other : code ≠ .devicesFileNotMatch) : ¬ Reports found code := by
  unfold checkOnHost at done
  split at done
  next =>
    cases done
    exact not_reports_nil
  split at done
  next =>
    cases done
    exact not_reports_nil
  split at done
  next =>
    cases done
    exact not_reports_nil
  next => cases done
  next => cases done
  next =>
    cases done
    rw [reports_map]
    rintro ⟨_, _, same⟩
    exact other same.symm

theorem Linux.not_reports_checkHostDevices {linux : Linux} {tree : FileTree}
    {found : List Violation} (done : linux.checkHostDevices tree = .ok found)
    (other : code ≠ .devicesFileNotMatch) : ¬ Reports found code := by
  obtain ⟨results, each, equal⟩ := exists_of_bind_eq_ok done
  obtain rfl := Except.ok.inj equal
  rintro ⟨violation, member, same⟩
  obtain ⟨result, inside, here⟩ := List.mem_flatten.mp member
  obtain ⟨item, _, checked⟩ := exists_mem_of_mapM_eq_ok each result inside
  exact Device.not_reports_checkOnHost checked other ⟨violation, here, same⟩

namespace Bundle

variable {bundle : Bundle} {tree : FileTree}

theorem not_reports_checkRoot {found : List Violation} (done : bundle.checkRoot tree = .ok found)
    (noDirectory : code ≠ .rootPathNotDirectory) (missing : code ≠ .rootPathNotExist) :
    ¬ Reports found code := by
  unfold checkRoot at done
  split at done
  next =>
    cases done
    exact not_reports_nil
  split at done
  next =>
    cases done
    rw [reports_require]
    exact fun fault => noDirectory fault.2.symm
  next =>
    cases done
    rintro ⟨violation, member, same⟩
    rw [List.mem_singleton.mp member] at same
    exact missing same.symm
  next => cases done

theorem not_reports_checkHostDevices {found : List Violation}
    (done : bundle.checkHostDevices tree = .ok found) (other : code ≠ .devicesFileNotMatch) :
    ¬ Reports found code := by
  unfold checkHostDevices at done
  split at done
  next => exact Linux.not_reports_checkHostDevices done other
  next =>
    cases done
    exact not_reports_nil

theorem not_reports_checkProfile (other : code ≠ .procApparmorProfileNotExist) :
    ¬ Reports (bundle.checkProfile tree) code := by
  rw [checkProfile, reports_require]
  exact fun fault => other fault.2.symm

theorem reports_checkMounts (other : code ≠ .mountDestinationNotExist) :
    Reports (bundle.checkMounts tree) code ↔ Reports bundle.config.checkMounts code := by
  rw [Config.reports_checkMounts]
  refine reports_each_of_iff fun index mount => ?_
  rw [reports_append, Mount.reports_check, checkDestination, reports_require]
  exact ⟨fun found => found.resolve_right fun fault => other fault.2.symm, .inl⟩

/-- **A configuration alone decides** on all rules but the ones about what surrounds it. -/
theorem reports_validate_iff {found : List Violation} (done : bundle.validate tree = .ok found)
    (inner : code ∉ Code.surrounding) :
    Reports found code ↔ Reports bundle.config.violations code := by
  obtain ⟨rootFound, root, done⟩ := exists_of_bind_eq_ok done
  obtain ⟨devicesFound, devices, equal⟩ := exists_of_bind_eq_ok done
  obtain rfl := Except.ok.inj equal
  have other {outer : Code} (member : outer ∈ Code.surrounding) : code ≠ outer :=
    fun same => inner (same ▸ member)
  have noPlatform : ¬ Reports
      ((bundle.host.map bundle.config.checkHostPlatform).getD []) code := by
    cases bundle.host with
    | none => exact not_reports_nil
    | some host => exact Config.not_reports_checkHostPlatform (other (by decide))
  have noRoot : ¬ Reports rootFound code :=
    not_reports_checkRoot root (other (by decide)) (other (by decide))
  have noDevices : ¬ Reports devicesFound code :=
    not_reports_checkHostDevices devices (other (by decide))
  have noProfile : ¬ Reports (bundle.checkProfile tree) code :=
    not_reports_checkProfile (other (by decide))
  have process : Reports (bundle.config.process.check bundle.host) code ↔
      Reports (bundle.config.process.check none) code :=
    Process.reports_check (other (by decide))
  have mounts : Reports (bundle.checkMounts tree) code ↔
      Reports bundle.config.checkMounts code :=
    reports_checkMounts (other (by decide))
  simp only [Config.violations, reports_append, noPlatform, noRoot, noDevices, noProfile,
    process, mounts, or_false]
  rfl

/-- **Of a guarded rule, the bundle around a configuration decides nothing.** -/
theorem reports_validate {found : List Violation} (done : bundle.validate tree = .ok found)
    (member : code ∈ guarded) : Reports found code ↔ Reports bundle.config.violations code :=
  reports_validate_iff done (Code.not_mem_surrounding code member)

end Bundle

end OciBundle
