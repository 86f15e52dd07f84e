/-
**What flags build passes the validation.**

Flags start from the default configuration of the host, or from its portable part. The edits that
flags ask for see to the mandatory members and to the guarded rules, of which none but the one about
the operating system depends on the host. What they leave to the host and to whoever gives the flags
are the platform, where an operating system may be asked for that does not run on the architecture
of the host, the path of the root file system, which may be empty, and the paths of namespaces,
which may be relative.

* `Config.Pristine`: a configuration that flags start from.
* `GenerateFlags.platform`: the platform that flags leave on a host.
* `GenerateFlags.built`: what the flags of all groups build, one after the other.
* `GenerateFlags.ProperPaths`: what is left to whoever gives the flags.
* `GenerateFlags.meets_demands_iff`: which flags build a configuration that meets all demands.
-/

import OciBundle.Proofs.Flags.Namespace
import OciBundle.Proofs.Flags.Tame

namespace OciBundle

open Code (independent mem_guarded_of_mem_independent)
open Violation (Reports)
open Config (Kept)
open Step (exists_of_runAll_append kept_runAll noWorse_runAll)

/-! ### Where flags start -/

theorem Linux.complete_sanitize {linux : Linux} (whole : linux.Complete) :
    linux.sanitize.Complete where
  resources limits given := by
    obtain ⟨old, before, rfl⟩ := Option.map_eq_some_iff.mp given
    exact { whole.resources old before with }
  namespaces _ member := absurd member List.not_mem_nil
  devices _ member := absurd member List.not_mem_nil
  seccomp _ given := absurd given (Option.not_mem_none _)

namespace Config

variable {config : Config}

theorem complete_sanitize (whole : config.Complete) : config.sanitize.Complete where
  version := whole.version
  process := { whole.process with rlimits := fun _ member => absurd member List.not_mem_nil }
  mounts mount member := by
    obtain ⟨old, before, rfl⟩ := List.mem_map.mp member
    exact whole.mounts old before
  hooks := whole.hooks
  linux linux given := by
    obtain ⟨old, before, rfl⟩ := Option.map_eq_some_iff.mp given
    exact Linux.complete_sanitize (whole.linux old before)

/-- **Where flags start on a host**: no independent rule is reported, nothing mandatory is empty,
the   platform is the one of the host, and all namespaces are new ones. -/
structure Pristine (config : Config) (host : Host) : Prop where
  clean : ∀ code ∈ independent, ¬ Reports config.violations code
  complete : config.Complete
  platform : config.platform = ⟨host.os, host.arch⟩
  rootPath : config.root.path = "rootfs"
  kinds : (config.namespaces.map Namespace.kind).Nodup
  fresh : ∀ entry ∈ config.namespaces, entry.path = ""

/-- A host for which the default configuration is without fault. -/
def faultless : Host := ⟨"linux", "amd64", []⟩

theorem violations_template : (template faultless).violations = [] := by
  decide +kernel

/-- The default configurations of two hosts differ in the platform only. -/
theorem noWorse_template {code : Code} (member : code ∈ independent) (host : Host) :
    NoWorse code (template faultless) (template host) :=
  { NoWorse.refl code (template faultless) with
    platform := Violation.noWorse_of_not_reports fun found => by
      rcases code_of_reports_checkPlatform found with rfl | rfl
      all_goals exact absurd member (by decide) }

theorem pristine_template (host : Host) : Pristine (template host) host where
  clean code member found := by
    have guarded := mem_guarded_of_mem_independent member
    have before := (noWorse_template member host).violations guarded found
    rw [violations_template] at before
    exact Violation.not_reports_nil before
  complete :=
    { (missing_eq_nil_iff.mp (by decide +kernel : (template faultless).missing = [])).2.2 with }
  platform := rfl
  rootPath := rfl
  kinds := (by decide : (Template.namespaces.map Namespace.kind).Nodup)
  fresh := (by decide : ∀ entry ∈ Template.namespaces, entry.path = "")

theorem namespaces_sanitize (config : Config) : config.sanitize.namespaces = [] := by
  show ((config.linux.map Linux.sanitize).getD default).namespaces = []
  cases config.linux <;> rfl

theorem Pristine.sanitize {host : Host} (pristine : config.Pristine host) :
    config.sanitize.Pristine host where
  clean code member found := by
    have guarded := mem_guarded_of_mem_independent member
    exact pristine.clean code member ((noWorse_sanitize config guarded).violations guarded found)
  complete := complete_sanitize pristine.complete
  platform := pristine.platform
  rootPath := rfl
  kinds := by
    rw [namespaces_sanitize]
    exact List.nodup_nil
  fresh entry member := by
    rw [namespaces_sanitize] at member
    exact absurd member List.not_mem_nil

end Config

/-! ### What flags build -/

namespace GenerateFlags

variable {flags : GenerateFlags} {draft after : Draft} {host : Host} {hostSpecific : Bool}
  {tree : FileTree}

/-- The platform that flags leave on a host. -/
def platform (flags : GenerateFlags) (host : Host) : Platform :=
  ⟨flags.general.os.getD host.os, flags.general.arch.getD host.arch⟩

/-- **What all flags build**: a sound configuration. Of the namespaces of a kind, the flag about it
decides. -/
theorem built (pristine : draft.config.Pristine host)
    (done : Step.runAll draft flags.steps = .ok after) :
    after.config.Sound ∧ after.config.platform = flags.platform host ∧
      after.config.root.path = flags.general.rootPath.getD "rootfs" ∧
      NamespaceFlags.Settles flags.namespaces.entries draft.config.namespaces
        after.config.namespaces := by
  have clean : ∀ code ∈ independent, ¬ Reports after.config.violations code :=
    fun code member found => pristine.clean code member
      (noWorse_runAll (mem_guarded_of_mem_independent member) flags.plain_steps done found)
  obtain ⟨seventh, done, seccomp⟩ := exists_of_runAll_append done
  obtain ⟨sixth, done, resources⟩ := exists_of_runAll_append done
  obtain ⟨fifth, done, linux⟩ := exists_of_runAll_append done
  obtain ⟨fourth, done, hooks⟩ := exists_of_runAll_append done
  obtain ⟨third, done, mounts⟩ := exists_of_runAll_append done
  obtain ⟨second, done, namespaces⟩ := exists_of_runAll_append done
  obtain ⟨first, general, process⟩ := exists_of_runAll_append done
  obtain ⟨whole, platform, rootPath, same⟩ := GeneralFlags.built general
  have early : Kept first.config second.config := kept_runAll flags.process.tame_steps process
  have kinds : (second.config.namespaces.map Namespace.kind).Nodup := by
    rw [early.namespaces, same]
    exact pristine.kinds
  obtain ⟨steady, settled⟩ := NamespaceFlags.built kinds namespaces
  have late : Kept third.config after.config :=
    (kept_runAll flags.mounts.tame_steps mounts).trans <|
      (kept_runAll flags.hooks.tame_steps hooks).trans <|
      (kept_runAll flags.linux.tame_steps linux).trans <|
      (kept_runAll flags.resources.tame_steps resources).trans <|
      SeccompFlags.kept seccomp
  have rest := (early.toSteady.trans steady).trans late.toSteady
  refine ⟨⟨clean, rest.complete (whole pristine.complete)⟩, ?_, ?_, ?_⟩
  · rw [rest.platform, platform, pristine.platform]
    rfl
  · rw [rest.rootPath, rootPath, pristine.rootPath]
  · rw [late.namespaces, ← same, ← early.namespaces]
    exact settled

theorem exists_pristine_of_build (fresh : flags.template = none)
    (done : flags.build host hostSpecific tree = .ok draft) :
    ∃ start : Draft, start.config.Pristine host ∧ Step.runAll start flags.steps = .ok draft := by
  obtain ⟨config, based, ran⟩ := exists_of_bind_eq_ok done
  rw [base, fresh] at based
  obtain rfl := Except.ok.inj based
  refine ⟨_, ?_, ran⟩
  show Config.Pristine
    (if flags.sanitize then (Config.template host).sanitize else .template host) host
  split
  next => exact (Config.pristine_template host).sanitize
  next => exact Config.pristine_template host

/-- Whether flags ask for paths that the validation accepts: the one of the root file system is not
empty, and a namespace is new, not wanted at all, or joined at an absolute path. -/
@[mk_iff]
structure ProperPaths (flags : GenerateFlags) : Prop where
  rootPath : flags.general.rootPath ≠ some ""
  namespaces : ∀ kind path, (kind, some path) ∈ flags.namespaces.entries →
    path = "" ∨ path = "host" ∨ Text.isAbsolute path = true

/-- **Flags without a template** build a configuration that meets all demands exactly if they ask
for   proper paths, and for an operating system that runs on the architecture that they ask for, or
else   on that of the host. So the rules say that a configuration alone decides, and so says a
validation   of any bundle with this configuration, but for the rules about what surrounds it. -/
theorem meets_demands_iff (fresh : flags.template = none)
    (done : flags.build host hostSpecific tree = .ok draft) :
    (Violation.atLeast .must draft.config.violations = [] ↔
        (flags.platform host).Fits ∧ flags.ProperPaths) ∧
      ∀ (bundle : Bundle) (tree : FileTree) (found : List Violation),
        bundle.config = draft.config → bundle.validate tree = .ok found →
          ((∀ violation ∈ Violation.atLeast .must found, violation.code ∈ Code.surrounding) ↔
            (flags.platform host).Fits ∧ flags.ProperPaths) := by
  obtain ⟨start, pristine, ran⟩ := exists_pristine_of_build fresh done
  obtain ⟨sound, platform, rootPath, settled⟩ := built pristine ran
  have demands : Violation.atLeast .must draft.config.violations = [] ↔
      (flags.platform host).Fits ∧ flags.ProperPaths := by
    have root : flags.general.rootPath.getD "rootfs" ≠ "" ↔ flags.general.rootPath ≠ some "" := by
      cases flags.general.rootPath <;> simp
    rw [sound.atLeast_must_eq_nil_iff, platform, rootPath, root,
      settled.forall_paths_iff pristine.fresh, properPaths_iff]
  refine ⟨demands, fun bundle tree found same checked => ?_⟩
  rw [sound.forall_surrounding_iff same checked]
  exact demands

/-- Flags that ask for the network namespace at a path and for nothing else. -/
def joining (path : String) : GenerateFlags :=
  { (default : GenerateFlags) with
    namespaces := { (default : NamespaceFlags) with network := some path } }

theorem properPaths_joining {path : String} :
    (joining path).ProperPaths ↔ path = "" ∨ path = "host" ∨ Text.isAbsolute path = true := by
  constructor
  · intro proper
    exact proper.namespaces "network" path List.mem_cons_self
  · intro accepted
    refine ⟨nofun, fun kind asked member => ?_⟩
    rcases List.mem_cons.mp member with same | later
    · cases same
      exact accepted
    · exact nomatch later

/-- In an empty file tree nothing but what surrounds the configuration is missing. -/
theorem meets_demands_iff_absolute :
    let host : Host := ⟨"linux", "arm64", ["CAP_CHOWN"]⟩
    ∃ draft found, (joining "/proc/1/ns/net").build host false ⟨[], []⟩ = .ok draft ∧
      (⟨"bundle", draft.config, none⟩ : Bundle).validate ⟨[], []⟩ = .ok found ∧
        Violation.atLeast .must draft.config.violations = [] ∧
          ∀ violation ∈ Violation.atLeast .must found, violation.code ∈ Code.surrounding := by
  intro host
  obtain ⟨draft, done, valid⟩ : ∃ draft,
      (joining "/proc/1/ns/net").build host false ⟨[], []⟩ = .ok draft ∧
        ((⟨"bundle", draft.config, none⟩ : Bundle).validate ⟨[], []⟩).isOk = true :=
    ⟨_, rfl, by decide +kernel⟩
  obtain ⟨found, checked⟩ := exists_of_isOk valid
  have fits : ((joining "/proc/1/ns/net").platform host).Fits := ⟨.linux, by decide, by decide⟩
  have proper : (joining "/proc/1/ns/net").ProperPaths :=
    properPaths_joining.mpr (.inr (.inr (by decide)))
  obtain ⟨demands, around⟩ := meets_demands_iff rfl done
  exact ⟨draft, found, done, checked, demands.mpr ⟨fits, proper⟩,
    (around _ _ found rfl checked).mpr ⟨fits, proper⟩⟩

/-- A relative path is accepted, and the validation refuses it. -/
theorem unmet_demand_of_relative_path :
    let host : Host := ⟨"linux", "amd64", Capability.all⟩
    ∃ draft, (joining "proc/1/ns/net").template = none ∧
      (joining "proc/1/ns/net").build host false ⟨[], []⟩ = .ok draft ∧
        (Violation.atLeast .must draft.config.violations).map Violation.code = [.nsPathAbs] := by
  refine ⟨_, rfl, rfl, ?_⟩
  decide +kernel

end GenerateFlags

end OciBundle
