/-
**A portable configuration breaks no new rule.**

Without namespaces, the hostname, the mappings of identities and the kernel parameters that ask for
them are gone as well. What is left of a configuration is checked as before and at the same index, so
the violations of its portable part are some of its own, in their order.

* `Config.eases_sanitize`: of the mandatory members, none becomes empty.
* `Linux.sublist_check_sanitize`, `Process.sublist_check_sanitize`: the rules about what is left.
* `Config.sublist_sanitize`: all rules that a configuration alone decides.
-/

import OciBundle.Config.Sanitize
import OciBundle.Proofs.Outline.Easing
import OciBundle.Proofs.Validation.Inner

namespace OciBundle

open Outline (Eases EasesMember eases_record eases_ofOption_map eases_ofParts_map)
open Violation (Reports each inner)

/-! ### Mandatory members -/

theorem User.eases_outline (user : User) (groups : List UInt32) :
    Eases user.outline { user with additionalGids := groups }.outline :=
  eases_record <|
    .cons (.refl _) <| .cons (.refl _) <| .cons (.allows fun _ => List.Sublist.refl _) <|
      .cons (.refl _) .nil

theorem Process.eases_sanitize (process : Process) :
    Eases process.outline process.sanitize.outline :=
  eases_record <|
    .cons (.refl _) <| .cons (.refl _) <|
      .cons (.needs (fun empty => empty) (process.user.eases_outline [])) <|
      .cons (.refl _) <| .cons (.refl _) <| .cons (.refl _) <|
      .cons (.emptied fun _ => rfl) <| .cons (.emptied fun _ => rfl) <| .cons (.refl _) <|
      .cons (.emptied fun _ => rfl) <| .cons (.refl _) <| .cons (.emptied fun _ => rfl) .nil

theorem Mount.eases_outline (mount : Mount) (source : String) :
    Eases mount.outline { mount with source }.outline :=
  eases_record <|
    .cons (.refl _) <| .cons (.refl _) <| .cons (.allows fun _ => List.Sublist.refl _) <|
      .cons (.refl _) .nil

theorem Resources.eases_sanitize (limits : Resources) :
    Eases limits.outline limits.sanitize.outline :=
  eases_record <|
    .cons (.refl _) <|
      .cons (.allows (eases_ofOption_map (fun memory => .refl memory.outline) limits.memory)) <|
      .cons (.allows (eases_ofOption_map (fun cpu => .refl cpu.outline) limits.cpu)) <|
      .cons (.refl _) <| .cons (.refl _) <| .cons (.refl _) <| .cons (.refl _) .nil

theorem Linux.eases_sanitize (linux : Linux) : Eases linux.outline linux.sanitize.outline :=
  eases_record <|
    .cons (.emptied fun _ => rfl) <| .cons (.emptied fun _ => rfl) <|
      .cons (.emptied fun _ => rfl) <|
      .cons (.allows (eases_ofOption_map Resources.eases_sanitize linux.resources)) <|
      .cons (.refl _) <| .cons (.emptied fun _ => rfl) <| .cons (.emptied fun _ => rfl) <|
      .cons (.emptied fun _ => rfl) <| .cons (.emptied fun _ => rfl) <|
      .cons (.emptied fun _ => rfl) <| .cons (.emptied fun _ => rfl) <| .cons (.refl _) .nil

theorem Root.eases_outline (root : Root) {path : String} (named : path ≠ "") (readonly : Bool) :
    Eases root.outline (Root.mk path readonly).outline :=
  eases_record <|
    .cons (.needs (fun empty => absurd (of_decide_eq_true empty) named)
      fun _ => List.Sublist.refl _) <| .cons (.refl _) .nil

/-- **Of the mandatory members, none becomes empty**; some go together with the part that they are
members of. -/
theorem Config.eases_sanitize (config : Config) : Eases config.outline config.sanitize.outline :=
  eases_record <|
    .cons (.refl _) <| .cons (.refl _) <|
      .cons (.needs (fun empty => empty) config.process.eases_sanitize) <|
      -- The path of the root file system is `rootfs`, whatever it was.
      .cons (.needs (fun empty => empty) (config.root.eases_outline (by decide) false)) <|
      .cons (.emptied fun _ => rfl) <|
      .cons (.allows (eases_ofParts_map (fun mount => mount.eases_outline "") config.mounts)) <|
      .cons (.refl _) <| .cons (.refl _) <|
      .cons (.allows (eases_ofOption_map Linux.eases_sanitize config.linux)) .nil

/-! ### The rules about what is left -/

/-- Of a process, its directory and its variables are left to check. -/
theorem Process.check_sanitize (process : Process) :
    process.sanitize.check none = process.checkCwd ++ process.checkEnv := by
  have capabilities : process.sanitize.checkCapabilities none = [] := rfl
  have limits : process.sanitize.checkRlimits = [] := rfl
  rw [check, capabilities, limits, List.append_nil, List.append_nil]
  rfl

theorem Process.sublist_check_sanitize (process : Process) :
    (process.sanitize.check none).Sublist (process.check none) := by
  rw [check_sanitize, check, List.append_assoc]
  exact List.sublist_append_left _ _

/-- **Of what is configured for Linux, the rules on devices are left to check.** Nothing is left that
asks for a namespace. -/
theorem Linux.check_sanitize (linux : Linux) :
    linux.sanitize.check "" =
      checkDeviceRules ((linux.resources.map Resources.devices).getD []) := by
  have namespaces : linux.sanitize.checkNamespaces = [] := rfl
  have hostname : linux.sanitize.checkHostname "" = [] := rfl
  have mappings : linux.sanitize.checkMappings = [] := rfl
  have parameters : linux.sanitize.checkSysctl = [] := rfl
  have propagation : linux.sanitize.checkPropagation = [] := rfl
  have devices : linux.sanitize.checkDevices = [] := rfl
  have masked : checkPaths .maskedPathAbs "linux.maskedPaths" linux.sanitize.maskedPaths = [] := rfl
  have readonly :
      checkPaths .readonlyPathAbs "linux.readonlyPaths" linux.sanitize.readonlyPaths = [] := rfl
  have filter : (linux.sanitize.seccomp.map Seccomp.check).getD [] = [] := rfl
  have limits : linux.sanitize.resources.map Resources.devices =
      linux.resources.map Resources.devices := by
    rw [sanitize, Option.map_map]
    rfl
  rw [check, namespaces, hostname, mappings, parameters, propagation, devices, masked, readonly,
    filter, limits, List.append_nil, List.append_nil, List.append_nil]
  rfl

theorem Linux.sublist_check_sanitize (linux : Linux) (hostname : String) :
    (linux.sanitize.check "").Sublist (linux.check hostname) := by
  rw [check_sanitize, check]
  iterate 3 refine List.Sublist.trans ?_ (List.sublist_append_left _ _)
  exact List.sublist_append_right _ _

namespace Config

theorem sublist_checkLinux_sanitize (config : Config) :
    config.sanitize.checkLinux.Sublist config.checkLinux := by
  show List.Sublist (((config.linux.map Linux.sanitize).map fun linux => linux.check "").getD []) _
  rw [checkLinux]
  cases config.linux with
  | none => exact List.Sublist.refl _
  | some linux => exact linux.sublist_check_sanitize config.hostname

/-- The source of a mount is no matter of its check. -/
theorem checkMounts_sanitize (config : Config) :
    (each config.sanitize.mounts fun index mount => mount.check index) =
      each config.mounts fun index mount => mount.check index := by
  rw [sanitize, each, each, List.zipIdx_map, List.flatMap_map]
  rfl

theorem sublist_sanitize (config : Config) :
    config.sanitize.violations.Sublist config.violations := by
  have mandatory : config.sanitize.checkMandatory.Sublist config.checkMandatory :=
    (Outline.missing_sublist config.eases_sanitize).map _
  have same (violations : List Violation) : violations.Sublist violations := .refl violations
  unfold violations
  rw [checkMounts_sanitize]
  exact (((((((mandatory.append (same config.checkVersion)).append (same config.checkPlatform)).append
    config.process.sublist_check_sanitize).append (same config.checkHooks)).append (same _)).append
    (same config.checkAnnotations)).append config.sublist_checkLinux_sanitize)

/-- **A portable configuration breaks no new rule**: of all that a configuration alone decides, its
violations are some of those of the configuration that it is made of, in their order. In any bundles
that hold the two, these are what a validation reports beside the surroundings. -/
theorem violations_sanitize (config : Config) :
    config.sanitize.violations.Sublist config.violations ∧
      (∀ code, Reports config.sanitize.violations code → Reports config.violations code) ∧
      ∀ (bundle portable : Bundle) (tree tree' : FileTree) (found found' : List Violation),
        bundle.config = config → portable.config = config.sanitize →
        bundle.validate tree = .ok found → portable.validate tree' = .ok found' →
        inner found = config.violations ∧ inner found' = config.sanitize.violations := by
  refine ⟨config.sublist_sanitize, fun code reported => ?_, ?_⟩
  · obtain ⟨violation, inside, same⟩ := reported
    exact ⟨violation, config.sublist_sanitize.subset inside, same⟩
  · rintro bundle portable tree tree' found found' rfl made before after
    exact ⟨bundle.inner_validate before, made ▸ portable.inner_validate after⟩

/-- Without a namespace for it, a hostname is advised against; the portable part has neither. -/
theorem violations_sanitize_hostname :
    let config : Config := { (default : Config) with hostname := "h", linux := some default }
    let bundle : Bundle := ⟨"/b", config, none⟩
    let portable : Bundle := ⟨"/b", config.sanitize, none⟩
    ∃ found found',
      bundle.validate ⟨[], []⟩ = .ok found ∧ portable.validate ⟨[], []⟩ = .ok found' ∧
      (inner found').Sublist (inner found) ∧
      Reports found .hostnameWithoutUtsNs ∧ ¬ Reports found' .hostnameWithoutUtsNs := by
  intro config bundle portable
  obtain ⟨found, before⟩ := exists_of_isOk (by decide +kernel : (bundle.validate ⟨[], []⟩).isOk)
  obtain ⟨found', after⟩ := exists_of_isOk (by decide +kernel : (portable.validate ⟨[], []⟩).isOk)
  obtain ⟨fewer, _, decided⟩ := violations_sanitize config
  obtain ⟨inside, inside'⟩ := decided bundle portable _ _ found found' rfl rfl before after
  refine ⟨found, found', before, after, ?_, ?_, ?_⟩
  · rw [inside, inside']
    exact fewer
  · exact (bundle.reports_validate_iff before (by decide)).mpr (by decide +kernel)
  · exact mt (portable.reports_validate_iff after (by decide)).mp (by decide +kernel)

end Config

end OciBundle
