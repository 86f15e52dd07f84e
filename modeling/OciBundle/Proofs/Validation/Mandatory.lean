/-
**Complete configurations.**

A walk over an outline finds the mandatory members that are empty. What a walk does not say is which
of them can be: here every part gets its own condition, in terms of its own members.

* `Outline.Full`: no mandatory member is empty, for outlines of every form.
* `Process.Complete`, `Linux.Complete`, …: the condition for each part, with the lemma that it is the
  one of the part's outline.
* `Config.missing_eq_nil_iff`: nothing is missing in a complete configuration with a platform and a
  path of the root file system.
-/

import Mathlib.Tactic.MkIffOfInductiveProp
import OciBundle.Proofs.Outline.Members

namespace OciBundle

namespace Outline

variable {α : Type} {name value : String} {rest : List (String × Presence × Outline)}

/-- A member that is not empty, if it is mandatory. -/
def Member.Given (member : Member) : Prop :=
  member.presence = .required → member.shape.isEmpty = false

/-- No mandatory member is empty. -/
def Full (outline : Outline) : Prop :=
  ∀ member ∈ outline.members, member.Given

theorem missing_eq_nil_iff {outline : Outline} : outline.missing = [] ↔ outline.Full := by
  rw [missing, walk_eq_map_members, List.map_eq_nil_iff, List.filter_eq_nil_iff,
    List.forall_mem_map, Full]
  refine forall₂_congr fun member _ => ?_
  show ¬ (decide (member.presence = .required) && member.shape.isEmpty) = true ↔ member.Given
  rw [Bool.and_eq_true, decide_eq_true_iff, not_and, Bool.not_eq_true, Member.Given]

/-! ### Forms of outlines -/

@[simp] theorem full_scalar : Outline.scalar.Full :=
  fun _ member => absurd member List.not_mem_nil

@[simp] theorem full_text : (Outline.text value).Full :=
  fun _ member => absurd member List.not_mem_nil

@[simp] theorem full_ofValues (items : List α) : (ofValues items).Full :=
  fun _ member => absurd member List.not_mem_nil

@[simp] theorem full_ofDict (dict : Dict String) : (ofDict dict).Full :=
  fun _ member => absurd member List.not_mem_nil

@[simp] theorem full_ofOption {outline : α → Outline} {part : Option α} :
    (ofOption outline part).Full ↔ ∀ value ∈ part, (outline value).Full := by
  cases part with
  | none => exact iff_of_true (fun _ member => absurd member List.not_mem_nil) nofun
  | some value =>
    constructor
    · intro full other same
      rw [← Option.some.inj same]
      exact full
    · intro full
      exact full value rfl

/-- One step further up, nothing else is empty. -/
theorem forall_given_map_under {step : Json.Step} {members : List Member} :
    (∀ member ∈ members.map (Member.under step), member.Given) ↔
      ∀ member ∈ members, member.Given :=
  List.forall_mem_map

theorem forall_given_itemMembers (index : Nat) (items : List Outline) :
    (∀ member ∈ itemMembers index items, member.Given) ↔ ∀ item ∈ items, item.Full := by
  induction items generalizing index with
  | nil => exact iff_of_true nofun nofun
  | cons item items hypothesis =>
    rw [itemMembers, List.forall_mem_append, forall_given_map_under, hypothesis,
      List.forall_mem_cons, Full]

@[simp] theorem full_ofParts {outline : α → Outline} {items : List α} :
    (ofParts outline items).Full ↔ ∀ item ∈ items, (outline item).Full := by
  rw [← List.forall_mem_map]
  exact forall_given_itemMembers 0 _

@[simp] theorem full_record_nil : (Outline.record []).Full :=
  fun _ member => absurd member List.not_mem_nil

theorem full_record_cons {presence : Presence} {value : Outline} :
    (Outline.record ((name, presence, value) :: rest)).Full ↔
      ((presence = .required → value.shape.isEmpty = false) ∧ value.Full) ∧
        (Outline.record rest).Full := by
  rw [Full, members, fieldMembers, List.forall_mem_cons, List.forall_mem_append,
    forall_given_map_under, and_assoc]
  rfl

@[simp] theorem full_record_needs {value : Outline} :
    (Outline.record (needs name value :: rest)).Full ↔
      (value.shape.isEmpty = false ∧ value.Full) ∧ (Outline.record rest).Full := by
  simp [needs, full_record_cons]

@[simp] theorem full_record_allows {value : Outline} :
    (Outline.record (allows name value :: rest)).Full ↔
      value.Full ∧ (Outline.record rest).Full := by
  simp [allows, full_record_cons]

/-! ### Empty values -/

@[simp] theorem isEmpty_shape_text : (Outline.text value).shape.isEmpty = false ↔ value ≠ "" :=
  decide_eq_false_iff_not

@[simp] theorem isEmpty_shape_scalar : Outline.scalar.shape.isEmpty = false := rfl

@[simp] theorem isEmpty_shape_ofValues {items : List α} :
    (ofValues items).shape.isEmpty = false ↔ items ≠ [] := by
  rw [ne_eq, ← List.length_eq_zero_iff]
  exact decide_eq_false_iff_not

@[simp] theorem isEmpty_shape_record : (Outline.record rest).shape.isEmpty = false := rfl

end Outline

/-! ### The process -/

/-- No mandatory member of a process is empty. -/
@[mk_iff]
structure Process.Complete (process : Process) : Prop where
  args : process.args ≠ []
  cwd : process.cwd ≠ ""
  rlimits : ∀ limit ∈ process.rlimits, limit.kind ≠ ""

theorem Process.full_outline {process : Process} : process.outline.Full ↔ process.Complete := by
  simp [outline, User.outline, Rlimit.outline, ConsoleSize.outline, complete_iff]

/-! ### File systems and hooks -/

/-- No mandatory member of the hooks is empty. -/
@[mk_iff]
structure Hooks.Complete (hooks : Hooks) : Prop where
  prestart : ∀ hook ∈ hooks.prestart, hook.path ≠ ""
  poststart : ∀ hook ∈ hooks.poststart, hook.path ≠ ""
  poststop : ∀ hook ∈ hooks.poststop, hook.path ≠ ""

theorem Hooks.full_outline {hooks : Hooks} : hooks.outline.Full ↔ hooks.Complete := by
  simp [outline, Hook.outline, complete_iff]

/-! ### Limits of control groups -/

/-- No mandatory member of limits is empty. -/
@[mk_iff]
structure Resources.Complete (limits : Resources) : Prop where
  hugepageLimits : ∀ limit ∈ limits.hugepageLimits, limit.pageSize ≠ ""
  network : ∀ network ∈ limits.network, ∀ entry ∈ network.priorities, entry.name ≠ ""

theorem Resources.full_outline {limits : Resources} :
    limits.outline.Full ↔ limits.Complete := by
  simp [outline, DeviceRule.outline, Memory.outline, Cpu.outline, Pids.outline, BlockIo.outline,
    HugepageLimit.outline, Network.outline, InterfacePriority.outline, complete_iff]

/-! ### The filter on system calls -/

/-- No mandatory member of a rule on system calls is empty. -/
@[mk_iff]
structure SyscallRule.Complete (rule : SyscallRule) : Prop where
  names : rule.names ≠ []
  action : rule.action ≠ ""
  args : ∀ condition ∈ rule.args, condition.operator ≠ ""

theorem SyscallRule.full_outline {rule : SyscallRule} : rule.outline.Full ↔ rule.Complete := by
  simp [outline, ArgCondition.outline, complete_iff]

/-- No mandatory member of a filter is empty. -/
@[mk_iff]
structure Seccomp.Complete (seccomp : Seccomp) : Prop where
  defaultAction : seccomp.defaultAction ≠ ""
  syscalls : ∀ rule ∈ seccomp.syscalls, rule.Complete

theorem Seccomp.full_outline {seccomp : Seccomp} :
    seccomp.outline.Full ↔ seccomp.Complete := by
  simp [outline, SyscallRule.full_outline, complete_iff]

/-! ### Linux -/

/-- No mandatory member of what is configured for Linux is empty. -/
@[mk_iff]
structure Linux.Complete (linux : Linux) : Prop where
  resources : ∀ limits ∈ linux.resources, limits.Complete
  namespaces : ∀ entry ∈ linux.namespaces, entry.kind ≠ ""
  devices : ∀ device ∈ linux.devices, device.path ≠ "" ∧ device.kind ≠ ""
  seccomp : ∀ seccomp ∈ linux.seccomp, seccomp.Complete

theorem Linux.full_outline {linux : Linux} : linux.outline.Full ↔ linux.Complete := by
  simp [outline, IdMapping.outline, Namespace.outline, Device.outline, Resources.full_outline,
    Seccomp.full_outline, complete_iff]

/-! ### The configuration -/

/-- No mandatory member of a configuration is empty, platform and root file system left aside. -/
@[mk_iff]
structure Config.Complete (config : Config) : Prop where
  version : config.version ≠ ""
  process : config.process.Complete
  mounts : ∀ mount ∈ config.mounts, mount.destination ≠ ""
  hooks : ∀ hooks ∈ config.hooks, hooks.Complete
  linux : ∀ linux ∈ config.linux, linux.Complete

/-- **What can be missing**: the platform, the path of the root file system, or what makes a
configuration complete. -/
theorem Config.missing_eq_nil_iff {config : Config} :
    config.missing = [] ↔ (config.platform.os ≠ "" ∧ config.platform.arch ≠ "") ∧
      config.root.path ≠ "" ∧ config.Complete := by
  have process : config.process.outline.shape.isEmpty = false := rfl
  rw [missing, Outline.missing_eq_nil_iff]
  simp only [outline, Platform.outline, Root.outline, Mount.outline, Process.full_outline, process,
    Hooks.full_outline, Linux.full_outline, complete_iff, Outline.full_record_needs,
    Outline.full_record_allows, Outline.full_record_nil, Outline.full_text, Outline.full_scalar,
    Outline.full_ofValues, Outline.full_ofDict, Outline.full_ofParts, Outline.full_ofOption,
    Outline.isEmpty_shape_text, Outline.isEmpty_shape_record, and_true, true_and]
  constructor
  · rintro ⟨version, platform, process, root, mounts, hooks, linux⟩
    exact ⟨platform, root, version, process, mounts, hooks, linux⟩
  · rintro ⟨platform, root, version, process, mounts, hooks, linux⟩
    exact ⟨version, platform, process, root, mounts, hooks, linux⟩

end OciBundle
