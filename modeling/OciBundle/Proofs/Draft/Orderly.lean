/-
**Drafts stay orderly.**

An accepted edit keeps a configuration orderly and a rejected one leaves it alone, so every draft
that edits make of the empty or of the default configuration is orderly.

* `Config.Orderly.sanitize`: a portable configuration.
* `Edit.AddsNoTimeout`: no hook is added with a time limit of its own.
* `Draft.orderly_apply`, `Draft.orderly_run`: one edit, and edits one after the other.
* `Draft.orderly_run_start`: drafts from the beginning.
-/

import OciBundle.Proofs.Draft
import OciBundle.Proofs.Edit.Orderly

namespace OciBundle

/-- **A portable configuration** is orderly: what it keeps is left as it was or dropped. -/
theorem Config.Orderly.sanitize {config : Config} (orderly : config.Orderly) :
    config.sanitize.Orderly where
  process := ⟨nofun, List.nodup_nil⟩
  mounts mount member := by
    obtain ⟨old, before, rfl⟩ := List.mem_map.mp member
    exact orderly.mounts old before
  hooks := orderly.hooks
  linux linux given := by
    obtain ⟨old, before, rfl⟩ := Option.map_eq_some_iff.mp given
    refine ⟨List.nodup_nil, List.nodup_nil, fun limits given => ?_, nofun⟩
    obtain ⟨limits, found, rfl⟩ := Option.map_eq_some_iff.mp given
    have kept := (orderly.linux old before).resources limits found
    refine { kept with swappiness := fun memory given => ?_ }
    obtain ⟨_, _, rfl⟩ := Option.map_eq_some_iff.mp given
    exact nofun

/-- Whether an added hook has no time limit of its own. -/
def Edit.AddsNoTimeout : Edit → Prop
  | .hook edit => edit.AddsNoTimeout
  | _ => True

namespace Draft

variable {draft after : Draft} {edit : Edit} {edits : List Edit} {decisions : List Decision}

/-- **An accepted edit** keeps a configuration orderly. -/
theorem orderly_apply (noTimeout : edit.AddsNoTimeout) (orderly : draft.config.Orderly)
    (done : draft.apply edit = .ok (after, decisions)) : after.config.Orderly := by
  have yields := yields_apply done
  cases edit with
  | general edit => exact GeneralEdit.orderly orderly yields
  | process edit => exact ProcessEdit.orderly orderly yields
  | mount edit => exact MountEdit.orderly orderly yields
  | hook edit => exact HookEdit.orderly noTimeout orderly yields
  | linux edit => exact LinuxEdit.orderly orderly yields
  | resources edit => exact ResourcesEdit.orderly orderly yields
  | seccomp edit => exact SeccompEdit.orderly orderly yields
  | sanitize => exact yields ▸ orderly.sanitize
  | setHostSpecific hostSpecific => exact yields ▸ orderly

theorem orderly_step (noTimeout : edit.AddsNoTimeout) (orderly : draft.config.Orderly) :
    (draft.step edit).1.config.Orderly := by
  unfold step
  split
  next applied => exact orderly_apply noTimeout orderly applied
  next => exact orderly

/-- **Edits one after the other** keep a configuration orderly. -/
theorem orderly_run (noTimeout : ∀ edit ∈ edits, edit.AddsNoTimeout)
    (orderly : draft.config.Orderly) : (draft.run edits).1.config.Orderly := by
  induction edits generalizing draft with
  | nil => exact orderly
  | cons edit edits hypothesis =>
    obtain ⟨first, others⟩ := List.forall_mem_cons.mp noTimeout
    exact hypothesis others (orderly_step first orderly)

/-- **Every draft is orderly** that edits make of the default or of the empty configuration, as long
as no hook is added with a time limit of its own. -/
theorem orderly_run_start (noTimeout : ∀ edit ∈ edits, edit.AddsNoTimeout) (host : Host) :
    ((ofConfig host (.template host)).run edits).1.config.Orderly ∧
      ((ofConfig host default).run edits).1.config.Orderly :=
  ⟨orderly_run noTimeout (Config.orderly_template host),
    orderly_run noTimeout Config.orderly_default⟩

/-- A hook without a time limit gets one, and a filter its rules; a time limit of zero is
rejected. -/
theorem orderly_run_start_hook :
    let host : Host := ⟨"linux", "amd64", []⟩
    ((ofConfig host (.template host)).run [.hook (.add .prestart (.ofPath "/bin/true")),
      .hook (.addTimeout .prestart "/bin/true" 0), .hook (.addTimeout .prestart "/bin/true" 5),
      .seccomp (.addRules "allow:read")]).1.config.Orderly := by
  refine (orderly_run_start ?_ _).1
  simp [Edit.AddsNoTimeout, HookEdit.AddsNoTimeout, Hook.ofPath]

end Draft

end OciBundle
