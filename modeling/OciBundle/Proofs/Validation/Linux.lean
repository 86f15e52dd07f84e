/-
**What the rules about Linux report.**

* `reports_checkNamespaces` and the like: when a rule of a part is reported.
* `Seccomp.reports_check`: the same for the filter on system calls.
* `Linux.NoWorse`: no part is worse than before.
* `Linux.NoWorse.check`: the same of all rules about Linux, but those that ask for a namespace.
-/

import OciBundle.Proofs.Validation.Reports
import OciBundle.Validation.Linux

namespace OciBundle

open Code (guarded ne_of_mem_guarded)
open Keyed (Distinct Refits any_eq_iff_mem_map)
open Violation (Reports reports_require reports_append reports_each_of_iff reports_each_keyed
  reports_unknown_or_repeated noWorse_of_items noWorse_of_refits noWorse_of_not_reports
  noWorse_append)

variable {code : Code}

/-! ### Items that break a rule by themselves -/

/-- Whether a namespace has an unknown kind. -/
def Namespace.Fails (code : Code) (entry : Namespace) : Prop :=
  entry.kind ≠ "" ∧ Vocabulary.isKnown NamespaceKind entry.kind = false ∧ .nsTypeInvalid = code

/-- Whether the kind of a device is unknown or does not fit its numbers. -/
def Device.KindFails (code : Code) (device : Device) : Prop :=
  device.kind ≠ "" ∧ match Vocabulary.ofText? (α := DeviceKind) device.kind with
    | none => .deviceTypeInvalid = code
    | some kind => kind.numbersValid device.major device.minor = false ∧ .deviceNumbersInvalid = code

/-- Whether a device breaks a rule by itself. -/
def Device.Fails (code : Code) (device : Device) : Prop :=
  device.KindFails code ∨
    device.path ≠ "" ∧ Text.isAbsolute device.path = false ∧ .devicePathAbs = code

/-- Whether a rule on devices has an unknown kind or other letters. -/
def DeviceRule.Fails (code : Code) (rule : DeviceRule) : Prop :=
  (rule.kind ≠ "" ∧ rule.kind ∉ ["a", "b", "c"]) ∧ .deviceCgroupTypeInvalid = code ∨
    (∃ letter ∈ rule.access.toList, letter ∉ ['r', 'w', 'm']) ∧ .deviceCgroupAccessInvalid = code

/-- Whether a condition has an unknown operator. -/
def ArgCondition.Fails (code : Code) (condition : ArgCondition) : Prop :=
  (condition.operator ≠ "" ∧ Vocabulary.isKnown SeccompOperator condition.operator = false) ∧
    .seccompOperatorInvalid = code

/-- Whether a rule on system calls has an unknown action or operator. -/
def SyscallRule.Fails (code : Code) (rule : SyscallRule) : Prop :=
  Seccomp.actionHolds rule.action = false ∧ .seccompActionInvalid = code ∨
    ∃ condition ∈ rule.args, condition.Fails code

/-! ### Reported rules -/

namespace Linux

/-- The form of its paths left aside, a namespace may have an unknown or a repeated kind. -/
theorem reports_checkNamespaces {linux : Linux} (other : code ≠ .nsPathAbs) :
    Reports linux.checkNamespaces code ↔
      (∃ entry ∈ linux.namespaces, entry.Fails code) ∨ .nsTypeDuplicate = code ∧
        ¬ Distinct (fun kind => kind ≠ "" ∧ Vocabulary.isKnown NamespaceKind kind = true)
          (linux.namespaces.map (·.kind)) := by
  refine reports_each_keyed fun index entry => ?_
  unfold Namespace.Fails
  by_cases empty : entry.kind = ""
  · simp [empty]
  · rw [if_neg empty, reports_append, checkNamespacePath, reports_require, checkNamespaceKind,
      reports_unknown_or_repeated, any_eq_iff_mem_map]
    grind

/-- The namespace of users left aside, there may be too many mappings. -/
theorem reports_checkMappings {linux : Linux} (other : code ≠ .idMappingsWithoutUserNs) :
    Reports linux.checkMappings code ↔
      (maxIdMappings < linux.uidMappings.length ∨ maxIdMappings < linux.gidMappings.length) ∧
        .idMappingsTooMany = code := by
  simp only [checkMappings, checkMappingCount, reports_append, reports_require,
    decide_eq_false_iff_not, Nat.not_le]
  grind

theorem reports_checkPropagation {linux : Linux} :
    Reports linux.checkPropagation code ↔
      Vocabulary.isKnown Propagation linux.rootfsPropagation = false ∧
        .rootfsPropagationInvalid = code :=
  reports_require

theorem reports_checkDeviceKind {index : Nat} {device : Device} :
    Reports (checkDeviceKind index device) code ↔ device.KindFails code := by
  unfold checkDeviceKind Device.KindFails
  by_cases empty : device.kind = ""
  · simp [empty]
  · rw [if_neg empty]
    cases Vocabulary.ofText? (α := DeviceKind) device.kind with
    | none => simp [empty]
    | some kind => simp [empty, reports_require]

theorem reports_checkDevices {linux : Linux} :
    Reports linux.checkDevices code ↔
      (∃ device ∈ linux.devices, device.Fails code) ∨ .devicePathDuplicate = code ∧
        ¬ Distinct (fun path => path ≠ "" ∧ Text.isAbsolute path = true)
          (linux.devices.map (·.path)) := by
  refine reports_each_keyed fun index device => ?_
  rw [reports_append, reports_checkDeviceKind, Device.Fails, checkDevicePath]
  by_cases empty : device.path = ""
  · simp [empty]
  · rw [if_neg empty, reports_unknown_or_repeated, any_eq_iff_mem_map]
    grind

theorem reports_checkDeviceRules {rules : List DeviceRule} :
    Reports (checkDeviceRules rules) code ↔ ∃ rule ∈ rules, rule.Fails code := by
  refine reports_each_of_iff fun index rule => ?_
  rw [reports_append, reports_require, reports_require, DeviceRule.Fails]
  simp only [Bool.or_eq_false_iff, decide_eq_false_iff_not, List.contains_eq_mem,
    List.all_eq_false, decide_eq_true_eq]

theorem reports_checkPaths {rule : Code} {subject : String} {paths : List String} :
    Reports (checkPaths rule subject paths) code ↔
      ∃ path ∈ paths, Text.isAbsolute path = false ∧ rule = code :=
  reports_each_of_iff fun _ _ => reports_require

end Linux

namespace Seccomp

theorem reports_checkArchitectures {seccomp : Seccomp} :
    Reports seccomp.checkArchitectures code ↔
      (∃ arch ∈ seccomp.architectures, Vocabulary.isKnown SeccompArch arch = false ∧
        .seccompArchInvalid = code) ∨ .seccompArchDuplicate = code ∧
        ¬ Distinct (fun arch => Vocabulary.isKnown SeccompArch arch = true)
          (seccomp.architectures.map id) := by
  refine reports_each_keyed fun index arch => ?_
  rw [reports_unknown_or_repeated, List.map_id, List.contains_iff_mem]
  grind

theorem reports_checkRule {index : Nat} {rule : SyscallRule} :
    Reports (checkRule index rule) code ↔ rule.Fails code := by
  have conditions : Reports (Violation.each rule.args fun position condition =>
      Violation.require (condition.operator = "" ||
        Vocabulary.isKnown SeccompOperator condition.operator)
        ⟨.seccompOperatorInvalid, Outline.itemPath
          (Outline.itemPath "linux.seccomp.syscalls" index ++ ".args") position ++ ".op",
          "seccomp operator " ++ Text.quoted condition.operator ++ " is invalid"⟩) code ↔
      ∃ condition ∈ rule.args, condition.Fails code := by
    refine reports_each_of_iff fun position condition => ?_
    rw [reports_require, Bool.or_eq_false_iff, decide_eq_false_iff_not, ArgCondition.Fails]
  rw [checkRule, reports_append, reports_require, conditions, SyscallRule.Fails]

theorem reports_check {seccomp : Seccomp} :
    Reports seccomp.check code ↔
      (actionHolds seccomp.defaultAction = false ∧ .seccompDefaultActionInvalid = code ∨
        Reports seccomp.checkArchitectures code) ∨ ∃ rule ∈ seccomp.syscalls, rule.Fails code := by
  have rules : Reports (Violation.each seccomp.syscalls checkRule) code ↔
      ∃ rule ∈ seccomp.syscalls, rule.Fails code :=
    reports_each_of_iff fun _ _ => reports_checkRule
  rw [check, reports_append, reports_append, reports_require, rules]

end Seccomp

/-! ### Comparison -/

namespace Seccomp

theorem noWorse_checkArchitectures {before after : Seccomp}
    (refits : Refits id (fun arch => Vocabulary.isKnown SeccompArch arch = true)
      before.architectures after.architectures) :
    Violation.NoWorse code before.checkArchitectures after.checkArchitectures :=
  noWorse_of_refits reports_checkArchitectures reports_checkArchitectures
    (fun _ known fault => Bool.false_ne_true (fault.1.symm.trans known)) refits

/-- **No part of a filter is worse** than before. -/
structure NoWorse (code : Code) (before after : Seccomp) : Prop where
  defaultAction : actionHolds after.defaultAction = false → actionHolds before.defaultAction = false
  architectures : Violation.NoWorse code before.checkArchitectures after.checkArchitectures
  syscalls : ∀ rule ∈ after.syscalls, rule.Fails code → ∃ old ∈ before.syscalls, old.Fails code

theorem NoWorse.refl (code : Code) (seccomp : Seccomp) : NoWorse code seccomp seccomp :=
  ⟨id, .refl _, fun rule member fault => ⟨rule, member, fault⟩⟩

theorem NoWorse.check {before after : Seccomp} (kept : NoWorse code before after) :
    Violation.NoWorse code before.check after.check := by
  intro found
  refine reports_check.mpr ?_
  rcases reports_check.mp found with (⟨unknown, same⟩ | found) | ⟨rule, member, fault⟩
  · exact .inl (.inl ⟨kept.defaultAction unknown, same⟩)
  · exact .inl (.inr (kept.architectures found))
  · exact .inr (kept.syscalls rule member fault)

end Seccomp

namespace Linux

theorem noWorse_checkNamespaces {before after : Linux} (other : code ≠ .nsPathAbs)
    (refits : Refits (·.kind)
      (fun entry => Vocabulary.isKnown NamespaceKind entry.kind = true)
      before.namespaces after.namespaces) :
    Violation.NoWorse code before.checkNamespaces after.checkNamespaces :=
  noWorse_of_refits (reports_checkNamespaces other) (reports_checkNamespaces other)
    (fun _ known fault => Bool.false_ne_true (fault.2.1.symm.trans known)) refits

theorem noWorse_checkPropagation {before after : Linux}
    (known : Vocabulary.isKnown Propagation after.rootfsPropagation = true) :
    Violation.NoWorse code before.checkPropagation after.checkPropagation := by
  refine noWorse_of_not_reports fun found => ?_
  exact Bool.false_ne_true ((reports_checkPropagation.mp found).1.symm.trans known)

theorem noWorse_checkDevices {before after : Linux}
    (refits : Refits (·.path) (fun device => ¬ device.Fails code) before.devices after.devices) :
    Violation.NoWorse code before.checkDevices after.checkDevices :=
  noWorse_of_refits reports_checkDevices reports_checkDevices (fun _ => id) refits

theorem noWorse_checkDeviceRules {before after : List DeviceRule}
    (kept : ∀ rule ∈ after, rule ∈ before ∨ ¬ rule.Fails code) :
    Violation.NoWorse code (checkDeviceRules before) (checkDeviceRules after) := by
  refine noWorse_of_items reports_checkDeviceRules reports_checkDeviceRules
    fun rule member fault => ?_
  rcases kept rule member with old | fits
  · exact ⟨rule, old, fault⟩
  · exact absurd fault fits

theorem noWorse_checkPaths {rule : Code} {subject : String} {before after : List String}
    (kept : ∀ path ∈ after, path ∈ before ∨ Text.isAbsolute path = true) :
    Violation.NoWorse code (checkPaths rule subject before) (checkPaths rule subject after) := by
  refine noWorse_of_items reports_checkPaths reports_checkPaths fun path member fault => ?_
  rcases kept path member with old | absolute
  · exact ⟨path, old, fault⟩
  · exact absurd (fault.1.symm.trans absolute) Bool.false_ne_true

/-- The rules about the limits' devices. -/
def checkResources (linux : Linux) : List Violation :=
  checkDeviceRules ((linux.resources.map Resources.devices).getD [])

/-- The rules about the filter on system calls, where there is one. -/
def checkSeccomp (linux : Linux) : List Violation :=
  (linux.seccomp.map Seccomp.check).getD []

/-- **No part of what is configured for Linux is worse** than before. -/
structure NoWorse (code : Code) (before after : Linux) : Prop where
  namespaces : Violation.NoWorse code before.checkNamespaces after.checkNamespaces
  uidMappings : maxIdMappings < after.uidMappings.length →
    maxIdMappings < before.uidMappings.length
  gidMappings : maxIdMappings < after.gidMappings.length →
    maxIdMappings < before.gidMappings.length
  propagation : Violation.NoWorse code before.checkPropagation after.checkPropagation
  devices : Violation.NoWorse code before.checkDevices after.checkDevices
  resources : Violation.NoWorse code before.checkResources after.checkResources
  maskedPaths : Violation.NoWorse code
    (checkPaths .maskedPathAbs "linux.maskedPaths" before.maskedPaths)
    (checkPaths .maskedPathAbs "linux.maskedPaths" after.maskedPaths)
  readonlyPaths : Violation.NoWorse code
    (checkPaths .readonlyPathAbs "linux.readonlyPaths" before.readonlyPaths)
    (checkPaths .readonlyPathAbs "linux.readonlyPaths" after.readonlyPaths)
  seccomp : Violation.NoWorse code before.checkSeccomp after.checkSeccomp

theorem NoWorse.refl (code : Code) (linux : Linux) : NoWorse code linux linux :=
  ⟨.refl _, id, id, .refl _, .refl _, .refl _, .refl _, .refl _, .refl _⟩

/-- The rules that ask for a namespace of a kind report nothing else. -/
theorem not_reports_checkHostname {linux : Linux} {hostname : String}
    (other : code ≠ .hostnameWithoutUtsNs) : ¬ Reports (linux.checkHostname hostname) code :=
  fun found => other (reports_require.mp found).2.symm

theorem not_reports_checkSysctl {linux : Linux} (other : code ≠ .sysctlWithoutNs) :
    ¬ Reports linux.checkSysctl code := by
  rintro ⟨violation, member, same⟩
  obtain ⟨entry, _, found⟩ := List.mem_flatMap.mp member
  cases lacking : linux.lackingKind? entry.1 with
  | none =>
    simp only [lacking] at found
    exact List.not_mem_nil found
  | some kind =>
    simp only [lacking] at found
    rw [List.mem_singleton.mp found] at same
    exact other same.symm

theorem NoWorse.mappings {before after : Linux} (kept : NoWorse code before after)
    (other : code ≠ .idMappingsWithoutUserNs) :
    Violation.NoWorse code before.checkMappings after.checkMappings := by
  intro found
  obtain ⟨many, same⟩ := (reports_checkMappings other).mp found
  exact (reports_checkMappings other).mpr ⟨many.imp kept.uidMappings kept.gidMappings, same⟩

theorem NoWorse.check {before after : Linux} {hostname hostname' : String}
    (kept : NoWorse code before after) (member : code ∈ guarded) :
    Violation.NoWorse code (before.check hostname) (after.check hostname') := by
  have hostnames : Violation.NoWorse code (before.checkHostname hostname)
      (after.checkHostname hostname') :=
    noWorse_of_not_reports (not_reports_checkHostname (ne_of_mem_guarded member (by decide)))
  have mappings : Violation.NoWorse code before.checkMappings after.checkMappings :=
    kept.mappings (ne_of_mem_guarded member (by decide))
  have sysctl : Violation.NoWorse code before.checkSysctl after.checkSysctl :=
    noWorse_of_not_reports (not_reports_checkSysctl (ne_of_mem_guarded member (by decide)))
  unfold Linux.check
  refine noWorse_append (noWorse_append (noWorse_append ?_ kept.maskedPaths) kept.readonlyPaths)
    kept.seccomp
  refine noWorse_append (noWorse_append (noWorse_append ?_ kept.propagation) kept.devices)
    kept.resources
  exact noWorse_append (noWorse_append (noWorse_append kept.namespaces hostnames) mappings) sysctl

/-- Where nothing is configured for Linux, only a hostname may lack its namespace. -/
theorem not_reports_check_default {hostname : String} (member : code ∈ guarded) :
    ¬ Reports ((default : Linux).check hostname) code := by
  have whole : (default : Linux).check hostname = (default : Linux).checkHostname hostname := by
    show [] ++ (default : Linux).checkHostname hostname ++ [] ++ [] ++ [] ++ [] ++ [] ++ [] ++ []
      ++ [] = (default : Linux).checkHostname hostname
    simp only [List.nil_append, List.append_nil]
  rw [whole]
  exact not_reports_checkHostname (ne_of_mem_guarded member (by decide))

end Linux

end OciBundle
