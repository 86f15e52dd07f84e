/-
**Drafts guard their rules.**

An edit leaves no part of a configuration worse, as far as guarded rules go; so no sequence of
edits makes the validation report a guarded rule that it did not report before.

* `Edit.Yields`, `Draft.yields_apply`: what an accepted edit does.
* `Edit.IsPlain`: hooks are added without variables and time limits of their own.
* `Draft.noWorse_apply`, `Draft.noWorse_step`: what one edit leaves.
* `Draft.noWorse_run`: what edits leave one after the other.
* `Draft.not_reports_run`: what is not reported before edits is not reported afterwards.
-/

import OciBundle.Config.Template
import OciBundle.Draft
import OciBundle.Proofs.Edit.General
import OciBundle.Proofs.Edit.Linux
import OciBundle.Proofs.Edit.Process
import OciBundle.Proofs.Edit.Resources
import OciBundle.Proofs.Edit.Seccomp

namespace OciBundle

open Code (guarded)
open Violation (Reports noWorse_of_not_reports not_reports_nil)

variable {code : Code}

/-- Whether an added hook comes without variables and a time limit of its own. -/
def Edit.IsPlain : Edit → Prop
  | .hook edit => edit.IsPlain
  | _ => True

/-- **A portable configuration** has no worse parts. -/
theorem Config.noWorse_sanitize (config : Config) (member : code ∈ guarded) :
    NoWorse code config config.sanitize := by
  have linux : NoWorse code config (config.mapLinux Linux.sanitize) := by
    refine noWorse_mapLinux member fun linux => ?_
    have resources : linux.sanitize.checkResources = linux.checkResources := by
      unfold Linux.checkResources Linux.sanitize
      cases linux.resources <;> rfl
    exact
      { namespaces := noWorse_of_not_reports not_reports_nil
        uidMappings := fun many => nomatch many
        gidMappings := fun many => nomatch many
        propagation := Linux.noWorse_checkPropagation (Vocabulary.isKnown_text Propagation.unset)
        devices := noWorse_of_not_reports not_reports_nil
        resources := resources ▸ .refl _
        maskedPaths := noWorse_of_not_reports not_reports_nil
        readonlyPaths := noWorse_of_not_reports not_reports_nil
        seccomp := noWorse_of_not_reports not_reports_nil }
  have mounts : Violation.NoWorse code config.checkMounts config.sanitize.checkMounts := by
    refine noWorse_checkMounts fun mount inside => ?_
    obtain ⟨old, before, rfl⟩ := List.mem_map.mp inside
    exact .inl ⟨old, before, rfl⟩
  exact
    { Config.NoWorse.refl code config with
      process :=
        { Process.NoWorse.refl code config.process with
          capabilities := noWorse_of_not_reports not_reports_nil
          rlimits := noWorse_of_not_reports not_reports_nil }
      mounts := mounts
      linux := linux.linux.trans (noWorse_setHostname member "").linux }

/-- What an accepted edit makes of the configuration of a draft. -/
def Edit.Yields (draft : Draft) (result : Config) (decisions : List Decision) : Edit → Prop
  | .general edit => edit.apply draft.config = .ok result
  | .process edit => edit.apply draft.target draft.config = .ok result
  | .mount edit => edit.apply draft.config = .ok result
  | .hook edit => edit.apply draft.config = .ok result
  | .linux edit => edit.apply draft.config = .ok result
  | .resources edit => edit.apply draft.config = .ok result
  | .seccomp edit => edit.apply draft.config = .ok (result, decisions)
  | .sanitize => result = draft.config.sanitize
  | .setHostSpecific _ => result = draft.config

namespace Draft

variable {draft after : Draft} {edit : Edit} {decisions : List Decision}

/-- **What an accepted edit does**, whatever part it is about. -/
theorem yields_apply (done : draft.apply edit = .ok (after, decisions)) :
    edit.Yields draft after.config decisions := by
  cases edit with
  | general edit | process edit | mount edit | hook edit | linux edit | resources edit =>
    obtain ⟨config, applied, equal⟩ := exists_of_bind_eq_ok done
    cases equal
    exact applied
  | seccomp edit =>
    obtain ⟨⟨config, found⟩, applied, equal⟩ := exists_of_bind_eq_ok done
    cases equal
    exact applied
  | sanitize | setHostSpecific _ =>
    cases done
    rfl

/-- **An accepted edit** leaves no part worse. -/
theorem noWorse_apply (member : code ∈ guarded) (plain : edit.IsPlain)
    (done : draft.apply edit = .ok (after, decisions)) :
    Config.NoWorse code draft.config after.config := by
  have yields := yields_apply done
  cases edit with
  | general edit => exact GeneralEdit.noWorse member yields
  | process edit => exact ProcessEdit.noWorse member yields
  | mount edit => exact MountEdit.noWorse yields
  | hook edit => exact HookEdit.noWorse plain yields
  | linux edit => exact LinuxEdit.noWorse member yields
  | resources edit => exact ResourcesEdit.noWorse member yields
  | seccomp edit => exact SeccompEdit.noWorse member yields
  | sanitize => exact yields ▸ Config.noWorse_sanitize draft.config member
  | setHostSpecific hostSpecific => exact yields ▸ .refl code draft.config

/-- **One edit**, accepted or rejected, makes no guarded rule be reported. -/
theorem noWorse_step (member : code ∈ guarded) (plain : edit.IsPlain) :
    Violation.NoWorse code draft.config.violations (draft.step edit).1.config.violations := by
  unfold step
  split
  next applied => exact (noWorse_apply member plain applied).violations member
  next => exact .refl _

/-- **Edits one after the other** make no guarded rule be reported. -/
theorem noWorse_run {edits : List Edit} (member : code ∈ guarded)
    (plain : ∀ edit ∈ edits, edit.IsPlain) :
    Violation.NoWorse code draft.config.violations (draft.run edits).1.config.violations := by
  induction edits generalizing draft with
  | nil => exact .refl _
  | cons edit edits hypothesis =>
    obtain ⟨first, others⟩ := List.forall_mem_cons.mp plain
    exact (noWorse_step member first).trans (hypothesis others)

/-- **Edits introduce no violation of a guarded rule.** What is not reported about a configuration
is not reported about the one that any edits make of it, be it by the rules that a configuration
alone decides or by a validation of the bundle around it. -/
theorem not_reports_run {edits : List Edit} (member : code ∈ guarded)
    (plain : ∀ edit ∈ edits, edit.IsPlain) (draft : Draft) :
    (¬ Reports draft.config.violations code →
        ¬ Reports (draft.run edits).1.config.violations code) ∧
      ∀ (before after : Bundle) (tree tree' : FileTree) (found found' : List Violation),
        before.config = draft.config → after.config = (draft.run edits).1.config →
          before.validate tree = .ok found → after.validate tree' = .ok found' →
            ¬ Reports found code → ¬ Reports found' code := by
  have kept : Violation.NoWorse code draft.config.violations (draft.run edits).1.config.violations :=
    noWorse_run member plain
  refine ⟨fun clean reported => clean (kept reported), ?_⟩
  intro before after tree tree' found found' start finish checked checked' clean reported
  have afterwards : Reports (draft.run edits).1.config.violations code := by
    rw [← finish]
    exact (Bundle.reports_validate checked' member).mp reported
  refine clean ((Bundle.reports_validate checked member).mpr ?_)
  rw [start]
  exact kept afterwards

/-- All capabilities of a host that supports few, and one more, are known ones, whatever edits stand
around these. -/
theorem not_reports_run_template :
    let host : Host := ⟨"linux", "amd64", ["CAP_KILL", "CAP_CHOWN", "CAP_FLY"]⟩
    ¬ Reports (((ofConfig host (.template host)).run
      [.setHostSpecific true, .process .setPrivileged, .setHostSpecific false,
        .hook (.add .prestart (.ofPath "/bin/true")),
        .process (.addCapability "sys_admin")]).1.config.violations) .procCapInvalid := by
  intro host
  have plain : ∀ edit ∈ [Edit.setHostSpecific true, .process .setPrivileged, .setHostSpecific false,
      .hook (.add .prestart (.ofPath "/bin/true")), .process (.addCapability "sys_admin")],
      edit.IsPlain := by
    simp [Edit.IsPlain, HookEdit.IsPlain, Hook.ofPath]
  exact (not_reports_run (by decide) plain (ofConfig host (.template host))).1 (by decide +kernel)

end Draft

end OciBundle
