/-
**Nothing is reported twice.**

Each check reports rules of its own, and about each member once. Checks of different parts are about
different rules, so all of them together report no rule twice about the same member; the variables of
a hook aside, which have one subject. The comparison with the host is left out, since a device can
differ from its node in several ways.

* `Process.neat_check`, `Hooks.neat_check`, `Linux.neat_check`, …: what each check reports.
* `Code.process`, `Code.linux`: the rules about a process and about what is configured for Linux.
* `Bundle.Parts`, `Bundle.parts_of_validate`: the parts of a validation.
* `Bundle.once_validate`: all violations of a bundle.
* `Bundle.reportsAt_mandatory`, `Bundle.reportsAt_process`, `Bundle.reportsAt_linux`: where the
  violations of a rule come from.
-/

import OciBundle.Proofs.Validation.Bundle
import OciBundle.Proofs.Validation.Subjects

namespace OciBundle

open Outline (itemPath)
open Violation (Apart Neat Within ReportsAt neat_nil neat_singleton neat_require neat_map below_self
  below_empty below_append)

/-! ### General rules -/

namespace Config

theorem neat_checkMandatory (config : Config) :
    Neat [.mandatoryFieldMissing] "" config.checkMandatory := by
  refine neat_map (fun _ => below_empty _) ?_
  rw [List.map_id']
  exact config.nodup_missing

theorem neat_checkVersion (config : Config) :
    Neat [.specVersionInSemVer] "" config.checkVersion :=
  neat_require List.mem_cons_self (below_empty _)

theorem neat_checkPlatform (config : Config) :
    Neat [.platformOsInvalid, .platformArchInvalid] "" config.checkPlatform := by
  unfold checkPlatform
  dsimp only
  split
  next => exact neat_nil
  next =>
    split
    next => exact neat_singleton (by decide) (below_empty _)
    next => exact neat_require (by decide) (below_empty _)

theorem neat_checkAnnotations (config : Config) :
    Neat [.annotationKeyEmpty] "" config.checkAnnotations :=
  neat_require List.mem_cons_self (below_empty _)

end Config

/-! ### The process -/

namespace Process

theorem neat_checkCwd (process : Process) : Neat [.procCwdAbs] "" process.checkCwd :=
  neat_require List.mem_cons_self (below_empty _)

theorem neat_checkEnv (process : Process) : Neat [.procEnvInvalid] "process.env" process.checkEnv :=
  .each fun _ _ => neat_require List.mem_cons_self (below_self _)

theorem neat_checkCapabilities (process : Process) (host : Option Host) :
    Neat [.procCapInvalid, .procCapDuplicate, .procCapNotSupported] "process.capabilities"
      (process.checkCapabilities host) := by
  refine .each fun index capability => ?_
  dsimp only
  split
  next => exact neat_singleton (by decide) (below_self _)
  next =>
    split
    next => exact neat_singleton (by decide) (below_self _)
    next => exact neat_require (by decide) (below_self _)

theorem neat_checkRlimitKind (process : Process) (index : Nat) (limit : Rlimit) :
    Neat [.procRlimitTypeInvalid, .procRlimitDuplicate] (itemPath "process.rlimits" index)
      (process.checkRlimitKind index limit) := by
  unfold checkRlimitKind
  dsimp only
  split
  next => exact neat_singleton (by decide) (below_self _)
  next => exact neat_require (by decide) (below_self _)

theorem neat_checkRlimits (process : Process) :
    Neat [.procRlimitTypeInvalid, .procRlimitDuplicate, .procRlimitSoftExceedsHard]
      "process.rlimits" process.checkRlimits := by
  refine .each fun index limit => ?_
  split
  next => exact neat_nil
  next =>
    have bounds : Neat [.procRlimitSoftExceedsHard] (itemPath "process.rlimits" index)
        (checkRlimitBounds index limit) := neat_require List.mem_cons_self (below_self _)
    exact (process.neat_checkRlimitKind index limit).append bounds (by decide)

end Process

/-- The rules about a process. -/
def Code.process : List Code :=
  [.procCwdAbs, .procEnvInvalid, .procCapInvalid, .procCapDuplicate, .procCapNotSupported,
    .procRlimitTypeInvalid, .procRlimitDuplicate, .procRlimitSoftExceedsHard]

theorem Process.neat_check (process : Process) (host : Option Host) :
    Neat Code.process "" (process.check host) := by
  have front := process.neat_checkCwd.append (process.neat_checkEnv.above (below_empty _))
    (by decide)
  have capabilities := (process.neat_checkCapabilities host).above (below_empty _)
  have limits := process.neat_checkRlimits.above (below_empty _)
  exact (front.append capabilities (by decide)).append limits (by decide)

/-! ### Hooks and mounts -/

theorem Hook.neat_check (hook : Hook) (subject : String) :
    Neat [.hookPathAbs, .hookEnvInvalid, .hookTimeoutInvalid] subject (hook.check subject) := by
  show Neat ([.hookPathAbs] ++ [.hookEnvInvalid] ++ [.hookTimeoutInvalid]) subject _
  refine .append (.append ?path ?env (by decide)) ?timeout (by decide)
  case path => exact neat_require List.mem_cons_self (below_append _ _)
  case env =>
    refine ⟨?_, ?_, List.pairwise_map.mpr (List.pairwise_of_forall fun _ _ _ _ => rfl)⟩
    · intro violation inside
      obtain ⟨entry, _, rfl⟩ := List.mem_map.mp inside
      exact List.mem_cons_self
    · intro violation inside
      obtain ⟨entry, _, rfl⟩ := List.mem_map.mp inside
      exact below_append _ _
  case timeout =>
    split
    next => exact neat_nil
    next => exact neat_require List.mem_cons_self (below_append _ _)

theorem Hooks.neat_check (hooks : Hooks) :
    Neat [.hookPathAbs, .hookEnvInvalid, .hookTimeoutInvalid] "hooks." hooks.check := by
  have stage (name : String) (list : List Hook) :
      Neat [.hookPathAbs, .hookEnvInvalid, .hookTimeoutInvalid] ("hooks." ++ name)
        (Violation.each list fun index hook => hook.check (itemPath ("hooks." ++ name) index)) :=
    .each fun index hook => hook.neat_check _
  have post := (stage "poststart" hooks.poststart).beside (stage "poststop" hooks.poststop)
    (below_append "hooks.post" "start") (below_append "hooks.post" "stop") (by decide)
  show Neat _ _ (_ ++ _ ++ _)
  rw [List.append_assoc]
  exact (stage "prestart" hooks.prestart).beside post (below_append "hooks." "prestart")
    (below_append "hooks." "post") (by decide)

theorem Config.neat_checkHooks (config : Config) :
    Neat [.hookPathAbs, .hookEnvInvalid, .hookTimeoutInvalid] "" config.checkHooks := by
  unfold checkHooks
  cases config.hooks with
  | none => exact neat_nil
  | some hooks => exact hooks.neat_check.above (below_empty _)

theorem Bundle.neat_checkMounts (bundle : Bundle) (tree : FileTree) :
    Neat [.mountDestinationAbs, .mountDestinationNotExist] "mounts" (bundle.checkMounts tree) := by
  refine .each fun index mount => ?_
  have absolute : Neat [.mountDestinationAbs] (itemPath "mounts" index) (mount.check index) :=
    neat_require List.mem_cons_self (below_append _ _)
  exact absolute.append (neat_require List.mem_cons_self (below_append _ _)) (by decide)

/-! ### Linux -/

namespace Linux

theorem neat_checkNamespaces (linux : Linux) :
    Neat [.nsTypeInvalid, .nsTypeDuplicate, .nsPathAbs] "linux.namespaces"
      linux.checkNamespaces := by
  refine .each fun index entry => ?_
  have kind : Neat [.nsTypeInvalid, .nsTypeDuplicate] (itemPath "linux.namespaces" index)
      (linux.checkNamespaceKind index entry) := by
    unfold checkNamespaceKind
    dsimp only
    split
    next => exact neat_singleton (by decide) (below_self _)
    next => exact neat_require (by decide) (below_self _)
  have path : Neat [.nsPathAbs] (itemPath "linux.namespaces" index)
      (checkNamespacePath index entry) := neat_require List.mem_cons_self (below_self _)
  split
  next => exact neat_nil
  next => exact kind.append path (by decide)

theorem neat_checkHostname (linux : Linux) (hostname : String) :
    Neat [.hostnameWithoutUtsNs] "" (linux.checkHostname hostname) :=
  neat_require List.mem_cons_self (below_empty _)

theorem neat_checkMappings (linux : Linux) :
    Neat [.idMappingsTooMany, .idMappingsWithoutUserNs] "" linux.checkMappings := by
  have count (name : String) (mappings : List IdMapping) :
      Neat [.idMappingsTooMany] ("linux." ++ name) (checkMappingCount name mappings) :=
    neat_require List.mem_cons_self (below_self _)
  have counts : Neat [.idMappingsTooMany] "" (checkMappingCount "uidMappings" linux.uidMappings ++
      checkMappingCount "gidMappings" linux.gidMappings) :=
    (count _ _).beside (count _ _) (below_empty _) (below_empty _) (by decide)
  exact counts.append (neat_require List.mem_cons_self (below_empty _)) (by decide)

theorem subject_of_mem_checkSysctl {linux : Linux} {entry : String × String}
    {violation : Violation}
    (inside : violation ∈ match linux.lackingKind? entry.1 with
      | none => ([] : List Violation)
      | some kind => [⟨.sysctlWithoutNs, "linux.sysctl." ++ entry.1,
          "sysctl " ++ entry.1 ++ " requires a " ++ kind.text ++ " namespace"⟩]) :
    violation.code = .sysctlWithoutNs ∧ violation.subject = "linux.sysctl." ++ entry.1 := by
  split at inside
  next => cases inside
  next =>
    cases List.mem_singleton.mp inside
    exact ⟨rfl, rfl⟩

/-- Each parameter has a key of its own. -/
theorem neat_checkSysctl (linux : Linux) :
    Neat [.sysctlWithoutNs] "linux.sysctl." linux.checkSysctl where
  within violation inside := by
    obtain ⟨entry, _, found⟩ := List.mem_flatMap.mp inside
    exact List.mem_singleton.mpr (subject_of_mem_checkSysctl found).1
  below violation inside := by
    obtain ⟨entry, _, found⟩ := List.mem_flatMap.mp inside
    rw [(subject_of_mem_checkSysctl found).2]
    exact below_append _ _
  once := by
    refine List.pairwise_flatMap.mpr ⟨fun entry _ => ?_, ?_⟩
    · dsimp only
      split
      next => exact .nil
      next => exact List.pairwise_singleton _ _
    · refine linux.sysctl.sorted.imp fun {entry entry'} before violation found other found' _ same => ?_
      rw [(subject_of_mem_checkSysctl found).2, (subject_of_mem_checkSysctl found').2] at same
      have keys : entry.1 = entry'.1 := String.append_right_inj _ |>.mp same
      exact absurd (keys ▸ before) (String.lt_irrefl _)

theorem neat_checkPropagation (linux : Linux) :
    Neat [.rootfsPropagationInvalid] "" linux.checkPropagation :=
  neat_require List.mem_cons_self (below_empty _)

theorem neat_checkDeviceKind (index : Nat) (device : Device) :
    Neat [.deviceTypeInvalid, .deviceNumbersInvalid] (itemPath "linux.devices" index)
      (checkDeviceKind index device) := by
  unfold checkDeviceKind
  dsimp only
  split
  next => exact neat_nil
  next =>
    split
    next => exact neat_singleton (by decide) (below_self _)
    next => exact neat_require (by decide) (below_self _)

theorem neat_checkDevicePath (linux : Linux) (index : Nat) (device : Device) :
    Neat [.devicePathAbs, .devicePathDuplicate] (itemPath "linux.devices" index)
      (linux.checkDevicePath index device) := by
  unfold checkDevicePath
  dsimp only
  split
  next => exact neat_nil
  next =>
    split
    next => exact neat_singleton (by decide) (below_self _)
    next => exact neat_require (by decide) (below_self _)

theorem neat_checkDevices (linux : Linux) :
    Neat [.deviceTypeInvalid, .deviceNumbersInvalid, .devicePathAbs, .devicePathDuplicate]
      "linux.devices" linux.checkDevices :=
  .each fun index device =>
    (neat_checkDeviceKind index device).append (linux.neat_checkDevicePath index device) (by decide)

theorem neat_checkDeviceRules (rules : List DeviceRule) :
    Neat [.deviceCgroupTypeInvalid, .deviceCgroupAccessInvalid] "linux.resources.devices"
      (checkDeviceRules rules) := by
  refine .each fun index rule => ?_
  show Neat ([.deviceCgroupTypeInvalid] ++ [.deviceCgroupAccessInvalid]) _ _
  exact .append (neat_require List.mem_cons_self (below_self _))
    (neat_require List.mem_cons_self (below_self _)) (by decide)

theorem neat_checkPaths (code : Code) (subject : String) (paths : List String) :
    Neat [code] subject (checkPaths code subject paths) :=
  .each fun _ _ => neat_require List.mem_cons_self (below_self _)

end Linux

namespace Seccomp

theorem neat_checkArchitectures (seccomp : Seccomp) :
    Neat [.seccompArchInvalid, .seccompArchDuplicate] "linux.seccomp.architectures"
      seccomp.checkArchitectures := by
  refine .each fun index arch => ?_
  dsimp only
  split
  next => exact neat_singleton (by decide) (below_self _)
  next => exact neat_require (by decide) (below_self _)

theorem neat_checkRule (index : Nat) (rule : SyscallRule) :
    Neat [.seccompActionInvalid, .seccompOperatorInvalid] (itemPath "linux.seccomp.syscalls" index)
      (checkRule index rule) := by
  show Neat ([.seccompActionInvalid] ++ [.seccompOperatorInvalid]) _ _
  refine .append (neat_require List.mem_cons_self (below_append _ _)) ?_ (by decide)
  refine Neat.above (.each fun position condition => ?_) (below_append _ ".args")
  exact neat_require List.mem_cons_self (below_append _ _)

theorem neat_check (seccomp : Seccomp) :
    Neat [.seccompDefaultActionInvalid, .seccompArchInvalid, .seccompArchDuplicate,
      .seccompActionInvalid, .seccompOperatorInvalid] "" seccomp.check := by
  have action : Neat [.seccompDefaultActionInvalid] "" (Violation.require
      (actionHolds seccomp.defaultAction) ⟨.seccompDefaultActionInvalid,
        "linux.seccomp.defaultAction", "seccomp default action "
          ++ Text.quoted seccomp.defaultAction ++ " is invalid"⟩) :=
    neat_require List.mem_cons_self (below_empty _)
  have architectures := seccomp.neat_checkArchitectures.above (below_empty _)
  have rules : Neat [.seccompActionInvalid, .seccompOperatorInvalid] "linux.seccomp.syscalls"
      (Violation.each seccomp.syscalls checkRule) := .each neat_checkRule
  exact (action.append architectures (by decide)).append (rules.above (below_empty _)) (by decide)

end Seccomp

theorem Linux.neat_checkFilter (linux : Linux) :
    Neat [.seccompDefaultActionInvalid, .seccompArchInvalid, .seccompArchDuplicate,
      .seccompActionInvalid, .seccompOperatorInvalid] ""
      ((linux.seccomp.map Seccomp.check).getD []) := by
  cases linux.seccomp with
  | none => exact neat_nil
  | some seccomp => exact seccomp.neat_check

/-- The rules about what is configured for Linux. -/
def Code.linux : List Code :=
  [.nsTypeInvalid, .nsTypeDuplicate, .nsPathAbs, .hostnameWithoutUtsNs, .idMappingsTooMany,
    .idMappingsWithoutUserNs, .sysctlWithoutNs, .rootfsPropagationInvalid, .deviceTypeInvalid,
    .deviceNumbersInvalid, .devicePathAbs, .devicePathDuplicate, .deviceCgroupTypeInvalid,
    .deviceCgroupAccessInvalid, .maskedPathAbs, .readonlyPathAbs, .seccompDefaultActionInvalid,
    .seccompArchInvalid, .seccompArchDuplicate, .seccompActionInvalid, .seccompOperatorInvalid]

theorem Linux.neat_check (linux : Linux) (hostname : String) :
    Neat Code.linux "" (linux.check hostname) := by
  have top {codes : List Code} {path : String} {violations : List Violation}
      (neat : Neat codes path violations) : Neat codes "" violations := neat.above (below_empty _)
  have hosts := (top linux.neat_checkNamespaces).append (linux.neat_checkHostname hostname)
    (by decide)
  have mappings := hosts.append linux.neat_checkMappings (by decide)
  have parameters := mappings.append (top linux.neat_checkSysctl) (by decide)
  have propagation := parameters.append linux.neat_checkPropagation (by decide)
  have devices := propagation.append (top linux.neat_checkDevices) (by decide)
  have rules := devices.append (top (neat_checkDeviceRules
    ((linux.resources.map Resources.devices).getD []))) (by decide)
  have masked := rules.append (top (neat_checkPaths .maskedPathAbs
    "linux.maskedPaths" linux.maskedPaths)) (by decide)
  have readonly := masked.append (top (neat_checkPaths .readonlyPathAbs
    "linux.readonlyPaths" linux.readonlyPaths)) (by decide)
  exact readonly.append linux.neat_checkFilter (by decide)

theorem Config.neat_checkLinux (config : Config) : Neat Code.linux "" config.checkLinux := by
  unfold checkLinux
  cases config.linux with
  | none => exact neat_nil
  | some linux => exact linux.neat_check _

/-! ### Bundles -/

namespace Bundle

variable {bundle : Bundle} {tree : FileTree} {found : List Violation} {code : Code}
  {subject : String}

theorem neat_checkRoot {root : List Violation} (done : bundle.checkRoot tree = .ok root) :
    Neat [.rootPathNotExist, .rootPathNotDirectory] "" root := by
  unfold checkRoot at done
  split at done
  next =>
    cases done
    exact neat_nil
  next =>
    split at done
    next =>
      cases done
      exact neat_require (by decide) (below_empty _)
    next =>
      cases done
      exact neat_singleton (by decide) (below_empty _)
    next => cases done

/-- **The parts of a validation**, in their order. Those about the host are there where they are
wanted. -/
structure Parts (bundle : Bundle) (tree : FileTree) (found platform root devices : List Violation) :
    Prop where
  parts : found =
    bundle.config.checkMandatory ++ bundle.config.checkVersion ++ bundle.config.checkPlatform
      ++ platform ++ root ++ bundle.config.process.check bundle.host
      ++ bundle.checkProfile tree ++ bundle.config.checkHooks ++ bundle.checkMounts tree
      ++ bundle.config.checkAnnotations ++ bundle.config.checkLinux ++ devices
  alone : bundle.host = none → platform = [] ∧ devices = []
  platform : Within [.platformHostMismatch] platform
  root : Neat [.rootPathNotExist, .rootPathNotDirectory] "" root
  compared : bundle.checkHostDevices tree = .ok devices
  devices : Within [.devicesFileNotMatch] devices

theorem parts_of_validate (done : bundle.validate tree = .ok found) :
    ∃ platform root devices, bundle.Parts tree found platform root devices := by
  obtain ⟨root, rootDone, done⟩ := exists_of_bind_eq_ok done
  obtain ⟨devices, devicesDone, equal⟩ := exists_of_bind_eq_ok done
  obtain rfl := Except.ok.inj equal
  refine ⟨_, root, devices, rfl, fun alone => ⟨?_, ?_⟩, ?_, neat_checkRoot rootDone, devicesDone, ?_⟩
  · rw [alone]
    rfl
  · rw [checkHostDevices, alone] at devicesDone
    exact (Except.ok.inj devicesDone).symm
  · refine Violation.within_of_not_reports fun other different => ?_
    cases bundle.host with
    | none => exact Violation.not_reports_nil
    | some host => exact Config.not_reports_checkHostPlatform different
  · exact Violation.within_of_not_reports fun other different =>
      not_reports_checkHostDevices devicesDone different

theorem neat_checkProfile (bundle : Bundle) (tree : FileTree) :
    Neat [.procApparmorProfileNotExist] "" (bundle.checkProfile tree) :=
  neat_require List.mem_cons_self (below_empty _)

/-- **No rule is reported twice about the same member** of a bundle that is not compared with its
host, the variables of hooks aside. -/
theorem once_validate (done : bundle.validate tree = .ok found)
    (alone : bundle.host = none) : found.Pairwise Apart := by
  obtain ⟨platform, root, devices, parts⟩ := parts_of_validate done
  obtain ⟨rfl, rfl⟩ := parts.alone alone
  have mounts := (bundle.neat_checkMounts tree).above (below_empty _)
  have general := (bundle.config.neat_checkMandatory.append bundle.config.neat_checkVersion
    (by decide)).append bundle.config.neat_checkPlatform (by decide)
  have process := (general.append parts.root (by decide)).append
    (bundle.config.process.neat_check bundle.host) (by decide)
  have hooks := (process.append (bundle.neat_checkProfile tree) (by decide)).append
    bundle.config.neat_checkHooks (by decide)
  have annotations := (hooks.append mounts (by decide)).append bundle.config.neat_checkAnnotations
    (by decide)
  have linux := annotations.append bundle.config.neat_checkLinux (by decide)
  rw [parts.parts, List.append_nil, List.append_nil]
  exact linux.once

/-! ### Where violations come from -/

/-- The violations of rules about members, processes and Linux are those of three checks. -/
theorem reportsAt_validate (done : bundle.validate tree = .ok found)
    (inside : code ∈ .mandatoryFieldMissing :: Code.process ++ Code.linux) :
    ReportsAt found code subject ↔
      ReportsAt bundle.config.checkMandatory code subject ∨
        ReportsAt (bundle.config.process.check bundle.host) code subject ∨
        ReportsAt bundle.config.checkLinux code subject := by
  obtain ⟨platform, root, devices, parts⟩ := parts_of_validate done
  have other (codes : List Code)
      (apart : ∀ code ∈ .mandatoryFieldMissing :: Code.process ++ Code.linux, code ∉ codes) :
      code ∉ codes := apart code inside
  simp only [parts.parts, Violation.reportsAt_append,
    bundle.config.neat_checkVersion.within.not_reportsAt (other _ (by decide)),
    bundle.config.neat_checkPlatform.within.not_reportsAt (other _ (by decide)),
    parts.platform.not_reportsAt (other _ (by decide)),
    parts.root.within.not_reportsAt (other _ (by decide)),
    (bundle.neat_checkProfile tree).within.not_reportsAt (other _ (by decide)),
    bundle.config.neat_checkHooks.within.not_reportsAt (other _ (by decide)),
    (bundle.neat_checkMounts tree).within.not_reportsAt (other _ (by decide)),
    bundle.config.neat_checkAnnotations.within.not_reportsAt (other _ (by decide)),
    parts.devices.not_reportsAt (other _ (by decide)), or_false, or_assoc]

theorem reportsAt_mandatory (done : bundle.validate tree = .ok found) :
    ReportsAt found .mandatoryFieldMissing subject ↔
      ReportsAt bundle.config.checkMandatory .mandatoryFieldMissing subject := by
  rw [reportsAt_validate done (by decide),
    or_iff_left (bundle.config.neat_checkLinux.within.not_reportsAt (by decide)),
    or_iff_left ((bundle.config.process.neat_check _).within.not_reportsAt (by decide))]

theorem reportsAt_process (done : bundle.validate tree = .ok found) (inside : code ∈ Code.process) :
    ReportsAt found code subject ↔
      ReportsAt (bundle.config.process.check bundle.host) code subject := by
  have apart : ∀ code ∈ Code.process, code ∉ [Code.mandatoryFieldMissing] ∧ code ∉ Code.linux := by
    decide
  rw [reportsAt_validate done (List.mem_append_left _ (List.mem_cons_of_mem _ inside)),
    or_iff_right (bundle.config.neat_checkMandatory.within.not_reportsAt (apart code inside).1),
    or_iff_left (bundle.config.neat_checkLinux.within.not_reportsAt (apart code inside).2)]

theorem reportsAt_linux (done : bundle.validate tree = .ok found) (inside : code ∈ Code.linux) :
    ReportsAt found code subject ↔ ReportsAt bundle.config.checkLinux code subject := by
  have apart : ∀ code ∈ Code.linux, code ∉ [Code.mandatoryFieldMissing] ∧ code ∉ Code.process := by
    decide
  rw [reportsAt_validate done (List.mem_append_right _ inside),
    or_iff_right (bundle.config.neat_checkMandatory.within.not_reportsAt (apart code inside).1),
    or_iff_right ((bundle.config.process.neat_check _).within.not_reportsAt (apart code inside).2)]

end Bundle

end OciBundle
