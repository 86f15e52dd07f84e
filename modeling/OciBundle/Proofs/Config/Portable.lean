/-
**What portable parts have in common.**

The portable part of a configuration tells all of it but what binds it to a host or raises its rights:
two configurations have the same portable part exactly if they agree on the rest, member by member. So
no privileged member has an influence on it, and no other member is lost.

* `Process.Alike`, `Resources.Alike`, `Linux.Alike`, …: parts that agree on the rest.
* `Config.Alike`: configurations that do.
* `Process.sanitize_eq_iff`, `Resources.sanitize_eq_iff`, …: what the portable part of a part tells.
* `Resources.sanitize_sanitize`, `Linux.sanitize_sanitize`: what is portable is left as it is.
* `Config.portable_iff_alike`: the portable part of a configuration tells the rest, is told by it, and
  is its own portable part.
-/

import Mathlib.Data.List.Forall2
import OciBundle.Config.Sanitize

namespace OciBundle

/-! ### Optional parts and lists -/

section Kernel

variable {α β : Type} {change : α → β} {alike : α → α → Prop}

/-- What may be missing is changed to the same exactly if it is missing in both places, or there in
both and alike. -/
theorem map_eq_map_iff_rel
    (tells : ∀ first second, change first = change second ↔ alike first second)
    {first second : Option α} :
    first.map change = second.map change ↔ Option.Rel alike first second := by
  cases first with
  | none => cases second <;> simp
  | some value => cases second <;> simp [tells]

/-- Lists are changed to the same exactly if their items are alike, one by one. -/
theorem map_eq_map_iff_forall₂
    (tells : ∀ first second, change first = change second ↔ alike first second)
    {first second : List α} :
    first.map change = second.map change ↔ List.Forall₂ alike first second := by
  rw [← List.forall₂_eq_eq_eq, List.forall₂_map_left_iff, List.forall₂_map_right_iff]
  simp only [tells]

end Kernel

/-! ### The process -/

/-- Users with the same identities and name; the additional groups may differ. -/
@[mk_iff]
structure User.Alike (first second : User) : Prop where
  uid : first.uid = second.uid
  gid : first.gid = second.gid
  username : first.username = second.username

/-- Processes that differ in their terminal, their additional groups, their rights and their labels
alone. -/
@[mk_iff]
structure Process.Alike (first second : Process) : Prop where
  consoleSize : first.consoleSize = second.consoleSize
  user : first.user.Alike second.user
  args : first.args = second.args
  env : first.env = second.env
  cwd : first.cwd = second.cwd

theorem User.withoutGroups_eq_iff {first second : User} :
    { first with additionalGids := [] } = { second with additionalGids := [] } ↔
      first.Alike second := by
  rw [alike_iff, mk.injEq]
  simp

theorem Process.sanitize_eq_iff {first second : Process} :
    first.sanitize = second.sanitize ↔ first.Alike second := by
  rw [alike_iff, sanitize, sanitize, mk.injEq, User.withoutGroups_eq_iff]
  simp

/-! ### Mounts -/

/-- Mounts that differ in their source alone. -/
@[mk_iff]
structure Mount.Alike (first second : Mount) : Prop where
  destination : first.destination = second.destination
  kind : first.kind = second.kind
  options : first.options = second.options

theorem Mount.withoutSource_eq_iff (first second : Mount) :
    { first with source := "" } = { second with source := "" } ↔ first.Alike second := by
  rw [alike_iff, mk.injEq]
  simp

/-! ### Limits -/

/-- Limits on memory that differ in those of the kernel, the swappiness and the killer alone. -/
@[mk_iff]
structure Memory.Alike (first second : Memory) : Prop where
  limit : first.limit = second.limit
  reservation : first.reservation = second.reservation
  swap : first.swap = second.swap

/-- Limits on processor time that differ in real time alone. -/
@[mk_iff]
structure Cpu.Alike (first second : Cpu) : Prop where
  shares : first.shares = second.shares
  quota : first.quota = second.quota
  period : first.period = second.period
  cpus : first.cpus = second.cpus
  mems : first.mems = second.mems

/-- Limits that differ in what not every kernel has of memory and processor time alone. -/
@[mk_iff]
structure Resources.Alike (first second : Resources) : Prop where
  devices : first.devices = second.devices
  memory : Option.Rel Memory.Alike first.memory second.memory
  cpu : Option.Rel Cpu.Alike first.cpu second.cpu
  pids : first.pids = second.pids
  blockIo : first.blockIo = second.blockIo
  hugepageLimits : first.hugepageLimits = second.hugepageLimits
  network : first.network = second.network

theorem Memory.sanitize_eq_iff (first second : Memory) :
    first.sanitize = second.sanitize ↔ first.Alike second := by
  rw [alike_iff, sanitize, sanitize, mk.injEq]
  simp

theorem Cpu.sanitize_eq_iff (first second : Cpu) :
    first.sanitize = second.sanitize ↔ first.Alike second := by
  rw [alike_iff, sanitize, sanitize, mk.injEq]
  simp

theorem Resources.sanitize_eq_iff (first second : Resources) :
    first.sanitize = second.sanitize ↔ first.Alike second := by
  rw [alike_iff, sanitize, sanitize, mk.injEq, map_eq_map_iff_rel Memory.sanitize_eq_iff,
    map_eq_map_iff_rel Cpu.sanitize_eq_iff]

/-! ### Settings for Linux -/

/-- Settings for Linux with the same label of mounts, and limits in both or in neither, which are
alike. All others may differ. -/
@[mk_iff]
structure Linux.Alike (first second : Linux) : Prop where
  mountLabel : first.mountLabel = second.mountLabel
  resources : Option.Rel Resources.Alike first.resources second.resources

theorem Linux.sanitize_eq_iff (first second : Linux) :
    first.sanitize = second.sanitize ↔ first.Alike second := by
  rw [alike_iff, sanitize, sanitize, mk.injEq, map_eq_map_iff_rel Resources.sanitize_eq_iff]
  simp [and_comm]

/-! ### Configurations -/

namespace Config

/-- **Configurations that differ in what binds them to a host or raises their rights**, and in nothing
else. -/
@[mk_iff]
structure Alike (first second : Config) : Prop where
  version : first.version = second.version
  platform : first.platform = second.platform
  process : first.process.Alike second.process
  mounts : List.Forall₂ Mount.Alike first.mounts second.mounts
  hooks : first.hooks = second.hooks
  annotations : first.annotations = second.annotations
  linux : Option.Rel Linux.Alike first.linux second.linux

theorem sanitize_eq_iff {first second : Config} :
    first.sanitize = second.sanitize ↔ first.Alike second := by
  rw [alike_iff, sanitize, sanitize, mk.injEq, Process.sanitize_eq_iff,
    map_eq_map_iff_forall₂ Mount.withoutSource_eq_iff, map_eq_map_iff_rel Linux.sanitize_eq_iff]
  simp

end Config

/-! ### Portable parts of portable parts -/

theorem Resources.sanitize_sanitize (limits : Resources) :
    limits.sanitize.sanitize = limits.sanitize := by
  unfold sanitize
  rw [Option.map_map, Option.map_map]
  rfl

theorem Linux.sanitize_sanitize (linux : Linux) : linux.sanitize.sanitize = linux.sanitize := by
  have limits : Resources.sanitize ∘ Resources.sanitize = Resources.sanitize :=
    funext Resources.sanitize_sanitize
  unfold sanitize
  rw [Option.map_map, limits]

namespace Config

theorem sanitize_sanitize (config : Config) : config.sanitize.sanitize = config.sanitize := by
  have linux : Linux.sanitize ∘ Linux.sanitize = Linux.sanitize := funext Linux.sanitize_sanitize
  unfold sanitize
  rw [Option.map_map, List.map_map, linux]
  rfl

/-- **The portable part of a configuration is all of it but what binds it to a host or raises its
rights.** Two configurations have the same portable part exactly if they agree on all other members,
whatever the erased ones are; and nothing is left to erase from a portable part. -/
theorem portable_iff_alike :
    (∀ first second : Config, first.sanitize = second.sanitize ↔ first.Alike second) ∧
      ∀ config : Config, config.sanitize.sanitize = config.sanitize :=
  ⟨fun _ _ => sanitize_eq_iff, sanitize_sanitize⟩

end Config

end OciBundle
