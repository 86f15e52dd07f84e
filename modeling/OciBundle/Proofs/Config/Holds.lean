/-
**Things that a configuration holds.**

Annotations, variables, capabilities and other things are removed from a configuration by name. What
of them a configuration holds is told by lists, so a change that only makes lists shorter leaves no
more than there was before.

* `Removable`: the things, with the part of a configuration that they belong to.
* `Config.Holds`: whether a configuration holds a thing.
* `Config.holds_of_frame`: a change of other parts.
* `Config.rlimit_ne_of_not_holds`, `Config.name_not_mem_of_not_holds`, …: what is not held.
* `Config.Fewer`, `Config.Fewer.holds`: a configuration with no more things than another one.
* `fewer_mapProcess`, `fewer_mapLinux`, `fewer_mapSeccomp`, …: changes of one part.
-/

import OciBundle.Config.Sanitize
import OciBundle.Edit.Process
import OciBundle.Proofs.Config.Parts
import OciBundle.Proofs.Seccomp.View

namespace OciBundle

/-- A thing that is removed from a configuration by name. -/
inductive Removable where
  | annotated (key : String)
  | env (key : String)
  /-- A capability, by its stored name. -/
  | capability (name : String)
  | rlimit (kind : String)
  /-- The mounts at a destination. -/
  | mount (destination : String)
  | sysctl (key : String)
  | device (path : String)
  /-- The namespaces of a kind. -/
  | namespaces (kind : NamespaceKind)
  | arch (arch : SeccompArch)
  /-- The name of a rule, in rules with its action and its conditions. -/
  | rule (rule : NameRule)

/-- The part of a configuration that a thing belongs to. -/
def Removable.part : Removable → Config.Part
  | .annotated _ => .general
  | .env _ | .capability _ | .rlimit _ => .process
  | .mount _ => .mounts
  | .sysctl _ | .device _ => .linux .settings
  | .namespaces _ => .linux .namespaces
  | .arch _ | .rule _ => .linux .seccomp

namespace Config

/-- The filter on system calls; without one, the empty filter. -/
def filterOrEmpty (config : Config) : Seccomp :=
  config.linuxOrEmpty.seccomp.getD default

/-- Whether a configuration holds a thing. -/
def Holds (config : Config) : Removable → Prop
  | .annotated key => (config.annotations.get? key).isSome = true
  | .env key => ∃ entry ∈ config.process.env, isEnvOf key entry = true
  | .capability name => name ∈ config.process.capabilities
  | .rlimit kind => kind ∈ config.process.rlimits.map Rlimit.kind
  | .mount destination => destination ∈ config.mounts.map Mount.destination
  | .sysctl key => (config.linuxOrEmpty.sysctl.get? key).isSome = true
  | .device path => path ∈ config.linuxOrEmpty.devices.map Device.path
  | .namespaces kind => kind.text ∈ config.linuxOrEmpty.namespaces.map Namespace.kind
  | .arch arch => arch.text ∈ config.filterOrEmpty.architectures
  | .rule rule =>
    (rule.action.text, rule.args) ∈ SyscallRule.view rule.name config.filterOrEmpty.syscalls

variable {config after : Config} {item : Removable}

/-- Whether a thing is held is told by the part that it belongs to. -/
theorem holds_only : (config.only item.part).Holds item ↔ config.Holds item := by
  cases item <;> exact Iff.rfl

theorem holds_of_frame {parts : List Part}
    (frame : ∀ part, part ∉ parts → after.only part = config.only part)
    (outside : item.part ∉ parts) (held : after.Holds item) : config.Holds item := by
  rw [← holds_only, ← frame _ outside, holds_only]
  exact held

/-! ### What is not held -/

theorem get?_annotations_of_not_holds {key : String} (absent : ¬ config.Holds (.annotated key)) :
    config.annotations.get? key = none :=
  Option.not_isSome_iff_eq_none.mp absent

theorem not_startsWith_of_not_holds {key : String} (absent : ¬ config.Holds (.env key)) :
    ∀ entry ∈ config.process.env, Text.startsWith (key ++ "=") entry = false :=
  fun entry inside => Bool.eq_false_iff.mpr fun own => absent ⟨entry, inside, own⟩

theorem rlimit_ne_of_not_holds {kind : String} (absent : ¬ config.Holds (.rlimit kind)) :
    ∀ limit ∈ config.process.rlimits, limit.kind ≠ kind :=
  fun limit inside same => absent (List.mem_map.mpr ⟨limit, inside, same⟩)

theorem mount_ne_of_not_holds {destination : String} (absent : ¬ config.Holds (.mount destination)) :
    ∀ mount ∈ config.mounts, mount.destination ≠ destination :=
  fun mount inside same => absent (List.mem_map.mpr ⟨mount, inside, same⟩)

theorem get?_sysctl_of_not_holds {key : String} (absent : ¬ config.Holds (.sysctl key)) :
    ∀ linux, config.linux = some linux → linux.sysctl.get? key = none := by
  intro linux given
  rw [Holds, linuxOrEmpty, given] at absent
  exact Option.not_isSome_iff_eq_none.mp absent

theorem device_ne_of_not_holds {path : String} (absent : ¬ config.Holds (.device path)) :
    ∀ linux, config.linux = some linux → ∀ device ∈ linux.devices, device.path ≠ path := by
  intro linux given device inside same
  rw [Holds, linuxOrEmpty, given] at absent
  exact absent (List.mem_map.mpr ⟨device, inside, same⟩)

theorem namespace_ne_of_not_holds {kind : NamespaceKind} (absent : ¬ config.Holds (.namespaces kind)) :
    ∀ linux, config.linux = some linux → ∀ listed ∈ linux.namespaces, listed.kind ≠ kind.text := by
  intro linux given listed inside same
  rw [Holds, linuxOrEmpty, given] at absent
  exact absent (List.mem_map.mpr ⟨listed, inside, same⟩)

theorem filterOrEmpty_of_some {seccomp : Seccomp} (given : config.seccomp = some seccomp) :
    config.filterOrEmpty = seccomp := by
  rw [filterOrEmpty, linuxOrEmpty, ← getD_seccomp, given]
  rfl

theorem arch_not_mem_of_not_holds {arch : SeccompArch} (absent : ¬ config.Holds (.arch arch)) :
    ∀ seccomp, config.seccomp = some seccomp → arch.text ∉ seccomp.architectures := by
  intro seccomp given
  rw [Holds, filterOrEmpty_of_some given] at absent
  exact absent

/-- A rule that is not held has its name in no rule with its action and its conditions. -/
theorem name_not_mem_of_not_holds {rule : NameRule} (absent : ¬ config.Holds (.rule rule)) :
    ∀ seccomp, config.seccomp = some seccomp → ∀ listed ∈ seccomp.syscalls,
      listed.action = rule.action.text → listed.args = rule.args → rule.name ∉ listed.names := by
  intro seccomp given listed found action args named
  rw [Holds, filterOrEmpty_of_some given] at absent
  refine absent (List.mem_map.mpr ⟨listed, List.mem_filter.mpr ⟨found, ?_⟩, ?_⟩)
  · exact List.contains_iff_mem.mpr named
  · rw [SyscallRule.entry, action, args]

end Config

/-! ### No more things -/

/-- Whether a process has no more variables, capabilities and limits. -/
structure Process.Fewer (before after : Process) : Prop where
  env : after.env ⊆ before.env
  capabilities : after.capabilities ⊆ before.capabilities
  rlimits : after.rlimits ⊆ before.rlimits

theorem Process.Fewer.refl (process : Process) : Process.Fewer process process :=
  ⟨List.Subset.refl _, List.Subset.refl _, List.Subset.refl _⟩

namespace Seccomp

/-- Whether a filter has no more architectures, and no more entries in the views of names. -/
structure Fewer (before after : Seccomp) : Prop where
  architectures : after.architectures ⊆ before.architectures
  views : ∀ name, SyscallRule.view name after.syscalls ⊆ SyscallRule.view name before.syscalls

variable {seccomp : Seccomp} {rules : List NameRule}

theorem Fewer.refl (seccomp : Seccomp) : Fewer seccomp seccomp :=
  ⟨List.Subset.refl _, fun _ => List.Subset.refl _⟩

theorem Fewer.trans {first second third : Seccomp} (left : Fewer first second)
    (right : Fewer second third) : Fewer first third where
  architectures := List.Subset.trans right.architectures left.architectures
  views name := List.Subset.trans (right.views name) (left.views name)

theorem fewer_removeRule (rule : NameRule) : Fewer seccomp (seccomp.removeRule rule) :=
  { Fewer.refl seccomp with
    views := fun _ => SyscallRule.view_removeRule ▸ List.filter_subset_self _ }

theorem fewer_removeRules : Fewer seccomp (rules.foldl removeRule seccomp) := by
  induction rules generalizing seccomp with
  | nil => exact .refl seccomp
  | cons rule rules hypothesis => exact (fewer_removeRule rule).trans hypothesis

theorem fewer_removeName (name : String) : Fewer seccomp (seccomp.removeName name) :=
  { Fewer.refl seccomp with
    views := fun _ => SyscallRule.view_removeName ▸ List.filter_subset_self _ }

theorem fewer_removeAction (action : SeccompAction) : Fewer seccomp (seccomp.removeAction action) :=
  { Fewer.refl seccomp with
    views := fun _ => SyscallRule.view_removeAction ▸ List.filter_subset_self _ }

theorem architectures_addRules : (seccomp.addRules rules).1.architectures = seccomp.architectures := by
  induction rules generalizing seccomp with
  | nil => rfl
  | cons rule rules hypothesis => exact hypothesis

end Seccomp

/-- Whether settings for Linux have no more parameters, devices and namespaces, and no more in their
filter. -/
structure Linux.Fewer (before after : Linux) : Prop where
  sysctl : ∀ key, (after.sysctl.get? key).isSome = true → (before.sysctl.get? key).isSome = true
  devices : after.devices ⊆ before.devices
  namespaces : after.namespaces ⊆ before.namespaces
  seccomp : Seccomp.Fewer (before.seccomp.getD default) (after.seccomp.getD default)

theorem Linux.Fewer.refl (linux : Linux) : Linux.Fewer linux linux :=
  ⟨fun _ => id, List.Subset.refl _, List.Subset.refl _, .refl _⟩

namespace Config

/-- **Whether a configuration has no more things.** -/
structure Fewer (before after : Config) : Prop where
  annotations : ∀ key,
    (after.annotations.get? key).isSome = true → (before.annotations.get? key).isSome = true
  process : Process.Fewer before.process after.process
  mounts : after.mounts.map Mount.destination ⊆ before.mounts.map Mount.destination
  linux : Linux.Fewer before.linuxOrEmpty after.linuxOrEmpty

variable {config after : Config} {item : Removable}

theorem Fewer.refl (config : Config) : Fewer config config :=
  ⟨fun _ => id, .refl _, List.Subset.refl _, .refl _⟩

theorem Fewer.holds (fewer : Fewer config after) (held : after.Holds item) : config.Holds item := by
  cases item with
  | annotated key => exact fewer.annotations key held
  | env key =>
    obtain ⟨entry, member, own⟩ := held
    exact ⟨entry, fewer.process.env member, own⟩
  | capability name => exact fewer.process.capabilities held
  | rlimit kind => exact List.map_subset _ fewer.process.rlimits held
  | mount destination => exact fewer.mounts held
  | sysctl key => exact fewer.linux.sysctl key held
  | device path => exact List.map_subset _ fewer.linux.devices held
  | namespaces kind => exact List.map_subset _ fewer.linux.namespaces held
  | arch arch => exact fewer.linux.seccomp.architectures held
  | rule rule => exact fewer.linux.seccomp.views rule.name held

theorem fewer_mapProcess {change : Process → Process}
    (fewer : Process.Fewer config.process (change config.process)) :
    Fewer config (config.mapProcess change) :=
  { Fewer.refl config with process := fewer }

theorem fewer_withLinux {change : Linux → Linux}
    (fewer : Linux.Fewer config.linuxOrEmpty (change config.linuxOrEmpty)) :
    Fewer config (config.withLinux change) :=
  { Fewer.refl config with linux := fewer }

theorem fewer_mapLinux {change : Linux → Linux}
    (fewer : ∀ linux, Linux.Fewer linux (change linux)) : Fewer config (config.mapLinux change) := by
  refine { Fewer.refl config with linux := ?_ }
  rw [linuxOrEmpty, linuxOrEmpty, mapLinux]
  cases config.linux with
  | none => exact .refl _
  | some linux => exact fewer linux

theorem fewer_withSeccomp {change : Seccomp → Seccomp}
    (fewer : ∀ seccomp, Seccomp.Fewer seccomp (change seccomp)) :
    Fewer config (config.withSeccomp change) :=
  fewer_withLinux { Linux.Fewer.refl config.linuxOrEmpty with seccomp := fewer _ }

theorem fewer_mapSeccomp {change : Seccomp → Seccomp}
    (fewer : ∀ seccomp, Seccomp.Fewer seccomp (change seccomp)) :
    Fewer config (config.mapSeccomp change) := by
  refine fewer_mapLinux fun linux => { Linux.Fewer.refl linux with seccomp := ?_ }
  rw [Linux.mapSeccomp]
  cases linux.seccomp with
  | none => exact .refl _
  | some seccomp => exact fewer seccomp

theorem fewer_sanitize (config : Config) : Fewer config config.sanitize := by
  have linux : Fewer config (config.mapLinux Linux.sanitize) :=
    fewer_mapLinux fun linux =>
      { sysctl := fun _ held => absurd held Bool.false_ne_true
        devices := List.nil_subset _
        namespaces := List.nil_subset _
        seccomp := ⟨List.nil_subset _, fun _ => List.nil_subset _⟩ }
  exact
    { Fewer.refl config with
      process :=
        { Process.Fewer.refl config.process with
          capabilities := List.nil_subset _
          rlimits := List.nil_subset _ }
      mounts := by
        show (config.mounts.map _).map _ ⊆ _
        rw [List.map_map]
        exact List.Subset.refl _
      linux := linux.linux }

end Config

/-! ### Settings that are missing -/

namespace Config

variable {config : Config}

theorem filterOrEmpty_mapSeccomp {change : Seccomp → Seccomp} (empty : change default = default) :
    (config.mapSeccomp change).filterOrEmpty = change config.filterOrEmpty := by
  rw [filterOrEmpty, mapSeccomp, linuxOrEmpty_mapLinux rfl, filterOrEmpty, Linux.mapSeccomp]
  cases config.linuxOrEmpty.seccomp with
  | none => exact empty.symm
  | some seccomp => rfl

end Config

theorem Seccomp.removeRules_default {rules : List NameRule} :
    rules.foldl removeRule default = default := by
  induction rules with
  | nil => rfl
  | cons rule rules hypothesis => exact hypothesis

end OciBundle
