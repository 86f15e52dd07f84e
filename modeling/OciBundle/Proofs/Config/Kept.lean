/-
**What most edits keep.**

Edits of the platform, of the path of the root file system and of namespaces are about few members.
All other edits leave those alone and empty no mandatory member, as far as the parts that they change
stay complete.

* `Config.Steady`, `Config.Kept`: what edits of namespaces and what all such edits keep.
* `kept_mapProcess`, `kept_withLinux`, `kept_mapResources`, …: changes of one part.
* `withSeccomp_eq_mapSeccomp`: a filter that is there is changed and not made.
-/

import OciBundle.Edit.Resources
import OciBundle.Edit.Seccomp
import OciBundle.Proofs.Validation.Mandatory

namespace OciBundle

/-- The namespaces of a configuration; there are none where nothing is configured for Linux. -/
def Config.namespaces (config : Config) : List Namespace :=
  (config.linux.getD default).namespaces

theorem Linux.complete_default : (default : Linux).Complete where
  resources _ given := absurd given (Option.not_mem_none _)
  namespaces _ member := absurd member List.not_mem_nil
  devices _ member := absurd member List.not_mem_nil
  seccomp _ given := absurd given (Option.not_mem_none _)

namespace Config

/-- A configuration is complete afterwards if it was before, and has the same platform and path of
the root file system. -/
structure Steady (before after : Config) : Prop where
  complete : before.Complete → after.Complete
  platform : after.platform = before.platform
  rootPath : after.root.path = before.root.path

/-- **What a tame edit keeps**: the namespaces are the same as well. -/
structure Kept (before after : Config) : Prop extends Steady before after where
  namespaces : after.namespaces = before.namespaces

variable {config first second third : Config}

theorem Steady.refl (config : Config) : Steady config config :=
  ⟨id, rfl, rfl⟩

theorem Steady.trans (left : Steady first second) (right : Steady second third) :
    Steady first third where
  complete whole := right.complete (left.complete whole)
  platform := right.platform.trans left.platform
  rootPath := right.rootPath.trans left.rootPath

theorem Kept.refl (config : Config) : Kept config config :=
  { Steady.refl config with namespaces := rfl }

theorem Kept.trans (left : Kept first second) (right : Kept second third) : Kept first third :=
  { left.toSteady.trans right.toSteady with
    namespaces := right.namespaces.trans left.namespaces }

theorem kept_mapProcess {change : Process → Process}
    (kept : config.process.Complete → (change config.process).Complete) :
    Kept config (config.mapProcess change) where
  complete whole := { whole with process := kept whole.process }
  platform := rfl
  rootPath := rfl
  namespaces := rfl

/-- Mounts that all have a destination. -/
theorem kept_mounts {mounts : List Mount}
    (kept : ∀ mount ∈ mounts, mount ∈ config.mounts ∨ mount.destination ≠ "") :
    Kept config { config with mounts } where
  complete whole := { whole with
    mounts := fun mount member => (kept mount member).elim (whole.mounts mount) id }
  platform := rfl
  rootPath := rfl
  namespaces := rfl

theorem kept_withHooks {change : Hooks → Hooks}
    (kept : ∀ hooks : Hooks, hooks.Complete → (change hooks).Complete) :
    Kept config (config.withHooks change) where
  complete whole := by
    have before : (config.hooks.getD default).Complete := by
      cases given : config.hooks with
      | none => exact ⟨nofun, nofun, nofun⟩
      | some hooks => exact whole.hooks hooks given
    refine { whole with hooks := fun hooks same => ?_ }
    rw [← Option.some.inj same]
    exact kept _ before
  platform := rfl
  rootPath := rfl
  namespaces := rfl

theorem kept_mapHooks {change : Hooks → Hooks}
    (kept : ∀ hooks : Hooks, hooks.Complete → (change hooks).Complete) :
    Kept config (config.mapHooks change) where
  complete whole := by
    refine { whole with hooks := fun hooks changed => ?_ }
    obtain ⟨old, given, rfl⟩ := Option.map_eq_some_iff.mp changed
    exact kept old (whole.hooks old given)
  platform := rfl
  rootPath := rfl
  namespaces := rfl

theorem complete_getD_linux (whole : config.Complete) : (config.linux.getD default).Complete := by
  cases given : config.linux with
  | none => exact Linux.complete_default
  | some linux => exact whole.linux linux given

section Linux

variable {change : Linux → Linux}

theorem steady_withLinux (kept : ∀ linux : Linux, linux.Complete → (change linux).Complete) :
    Steady config (config.withLinux change) where
  complete whole := by
    refine { whole with linux := fun linux same => ?_ }
    rw [← Option.some.inj same]
    exact kept _ (complete_getD_linux whole)
  platform := rfl
  rootPath := rfl

theorem steady_mapLinux (kept : ∀ linux : Linux, linux.Complete → (change linux).Complete) :
    Steady config (config.mapLinux change) where
  complete whole := by
    refine { whole with linux := fun linux changed => ?_ }
    obtain ⟨old, given, rfl⟩ := Option.map_eq_some_iff.mp changed
    exact kept old (whole.linux old given)
  platform := rfl
  rootPath := rfl

/-- Where nothing is configured for Linux, there are no namespaces to rewrite. -/
theorem namespaces_mapLinux (rewrite : List Namespace → List Namespace)
    (same : ∀ linux : Linux, (change linux).namespaces = rewrite linux.namespaces)
    (none : rewrite [] = []) : (config.mapLinux change).namespaces = rewrite config.namespaces := by
  show ((config.linux.map change).getD default).namespaces =
    rewrite (config.linux.getD default).namespaces
  cases config.linux with
  | none => exact none.symm
  | some linux => exact same linux

theorem kept_withLinux (same : ∀ linux : Linux, (change linux).namespaces = linux.namespaces)
    (kept : ∀ linux : Linux, linux.Complete → (change linux).Complete) :
    Kept config (config.withLinux change) :=
  { steady_withLinux kept with namespaces := same _ }

theorem kept_mapLinux (same : ∀ linux : Linux, (change linux).namespaces = linux.namespaces)
    (kept : ∀ linux : Linux, linux.Complete → (change linux).Complete) :
    Kept config (config.mapLinux change) :=
  { steady_mapLinux kept with namespaces := namespaces_mapLinux id same rfl }

end Linux

section Resources

variable {change : Resources → Resources}

theorem kept_withResources (kept : ∀ limits : Resources, limits.Complete → (change limits).Complete) :
    Kept config (config.withResources change) := by
  refine kept_withLinux (fun _ => rfl) fun linux whole => ?_
  have before : (linux.resources.getD default).Complete := by
    cases given : linux.resources with
    | none => exact ⟨nofun, nofun⟩
    | some limits => exact whole.resources limits given
  refine { whole with resources := fun limits same => ?_ }
  rw [← Option.some.inj same]
  exact kept _ before

theorem kept_mapResources (kept : ∀ limits : Resources, limits.Complete → (change limits).Complete) :
    Kept config (config.mapResources change) := by
  refine kept_mapLinux (fun _ => rfl) fun linux whole => ?_
  refine { whole with resources := fun limits changed => ?_ }
  obtain ⟨old, given, rfl⟩ := Option.map_eq_some_iff.mp changed
  exact kept old (whole.resources old given)

end Resources

section Seccomp

variable {change : Seccomp → Seccomp}

/-- A filter that is made or changed gets a default action. -/
theorem kept_withSeccomp (kept : ∀ seccomp : Seccomp, (∀ rule ∈ seccomp.syscalls, rule.Complete) →
    (change seccomp).Complete) : Kept config (config.withSeccomp change) := by
  refine kept_withLinux (fun _ => rfl) fun linux whole => ?_
  have before : ∀ rule ∈ (linux.seccomp.getD default).syscalls, rule.Complete := by
    cases given : linux.seccomp with
    | none => exact nofun
    | some seccomp => exact (whole.seccomp seccomp given).syscalls
  refine { whole with seccomp := fun seccomp same => ?_ }
  rw [← Option.some.inj same]
  exact kept _ before

theorem kept_mapSeccomp (kept : ∀ seccomp : Seccomp, seccomp.Complete → (change seccomp).Complete) :
    Kept config (config.mapSeccomp change) := by
  refine kept_mapLinux (fun _ => rfl) fun linux whole => ?_
  refine { whole with seccomp := fun seccomp changed => ?_ }
  obtain ⟨old, given, rfl⟩ := Option.map_eq_some_iff.mp changed
  exact kept old (whole.seccomp old given)

/-- Where there is a filter, none is made. -/
theorem withSeccomp_eq_mapSeccomp (given : config.seccomp.isSome = true) :
    config.withSeccomp change = config.mapSeccomp change := by
  obtain ⟨seccomp, found⟩ := Option.isSome_iff_exists.mp given
  obtain ⟨linux, inside, found⟩ := Option.bind_eq_some_iff.mp found
  rw [withSeccomp, withLinux, mapSeccomp, mapLinux, inside, Option.getD_some, Option.map_some,
    Linux.withSeccomp, Linux.mapSeccomp, found, Option.getD_some, Option.map_some]

theorem isSome_seccomp_withSeccomp : (config.withSeccomp change).seccomp.isSome = true := rfl

theorem seccomp_mapSeccomp : (config.mapSeccomp change).seccomp = config.seccomp.map change := by
  obtain ⟨_, _, _, _, _, _, _, _, linux⟩ := config
  cases linux <;> rfl

theorem isSome_seccomp_mapSeccomp :
    (config.mapSeccomp change).seccomp.isSome = config.seccomp.isSome := by
  rw [seccomp_mapSeccomp, Option.isSome_map]

end Seccomp

end Config

end OciBundle
