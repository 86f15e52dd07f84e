/-
**What edits remove from a configuration, and what they bring.**

Each thing that a configuration holds is removed by edits of one kind, wherever and however often it
stands, and brought by edits of few kinds. After any other edit there are no more things.

* `Removable.RemovedBy`, `Removable.BroughtBy`: the edits that remove a thing, and that may bring it.
* `ProcessEdit.holds_or_broughtBy`, `LinuxEdit.holds_or_broughtBy`, …: one edit of each kind.
* `Draft.holds_or_broughtBy`: what is held after an edit was held before it, or is brought by it.
* `Draft.not_holds_of_removedBy`: what an edit removes is not held after it.
-/

import OciBundle.Proofs.Config.Holds
import OciBundle.Proofs.Dict
import OciBundle.Proofs.Draft
import OciBundle.Proofs.Edit.Parts
import OciBundle.Proofs.Keyed

namespace OciBundle

namespace Removable

/-- The edits that remove a thing. -/
def RemovedBy (edit : Edit) : Removable → Prop
  | .annotated key => edit = .general (.unannotate key)
  | .env key => edit = .process (.removeEnv key)
  | .capability name =>
    ∃ given, Capability.normalize given = name ∧ edit = .process (.dropCapability given)
  | .rlimit kind => edit = .process (.removeRlimit kind)
  | .mount destination => edit = .mount (.remove destination)
  | .sysctl key => edit = .linux (.removeSysctl key)
  | .device path => edit = .linux (.removeDevice path)
  | .namespaces kind =>
    ∃ name, LinuxEdit.readKind name = .ok kind ∧ edit = .linux (.removeNamespace name)
  | .arch known => ∃ word, NameRule.readArch word = .ok known ∧ edit = .seccomp (.removeArch word)
  | .rule single => ∃ input rules, NameRule.readAll input = .ok rules ∧ single ∈ rules ∧
      edit = .seccomp (.removeRules input)

/-- The edits that may bring a thing. A variable may come with any key, a mount with any destination
and a rule with any text. -/
def BroughtBy (edit : Edit) : Removable → Prop
  | .annotated key => ∃ value, edit = .general (.annotate key value)
  | .env _ => (∃ key value, edit = .process (.addEnv key value)) ∨
      ∃ pair, edit = .process (.addEnvPair pair)
  | .capability name => edit = .process .setPrivileged ∨
      ∃ given, Capability.normalize given = name ∧ edit = .process (.addCapability given)
  | .rlimit kind => ∃ hard soft, edit = .process (.addRlimit kind hard soft)
  | .mount _ => (∃ mount, edit = .mount (.add mount)) ∨ (∃ input, edit = .mount (.addTmpfs input)) ∨
      (∃ input, edit = .mount (.addBind input)) ∨ ∃ policy, edit = .mount (.addCgroup policy)
  | .sysctl key => ∃ value, edit = .linux (.addSysctl key value)
  | .device path => ∃ device : Device, device.path = path ∧ edit = .linux (.putDevice device)
  | .namespaces kind =>
    ∃ name path, LinuxEdit.readKind name = .ok kind ∧ edit = .linux (.putNamespace name path)
  | .arch known => ∃ word, NameRule.readArch word = .ok known ∧ edit = .seccomp (.addArch word)
  | .rule _ => ∃ input, edit = .seccomp (.addRules input)

end Removable

/-! ### What edits bring -/

section Edits

open Config (Fewer fewer_mapLinux fewer_mapProcess fewer_mapSeccomp fewer_withLinux
  fewer_withSeccomp holds_of_frame)

variable {config after : Config} {item : Removable}

theorem GeneralEdit.holds_or_broughtBy {edit : GeneralEdit} (done : edit.apply config = .ok after)
    (held : after.Holds item) : config.Holds item ∨ item.BroughtBy (.general edit) := by
  cases edit with
  | annotate key value =>
    rw [apply] at done
    split at done
    next => cases done
    next =>
      cases done
      cases item with
      | annotated wanted =>
        rcases Dict.isSome_of_insert held with old | rfl
        · exact .inl old
        · exact .inr ⟨value, rfl⟩
      | _ => exact .inl held
  | unannotate key =>
    cases done
    have fewer : Fewer config { config with annotations := config.annotations.erase key } :=
      { Fewer.refl config with annotations := fun _ => Dict.isSome_of_erase }
    exact .inl (fewer.holds held)
  | clearAnnotations =>
    cases done
    have fewer : Fewer config { config with annotations := .empty } :=
      { Fewer.refl config with annotations := fun _ kept => absurd kept Bool.false_ne_true }
    exact .inl (fewer.holds held)
  | setPlatformOs os =>
    obtain ⟨_, _, equal⟩ := exists_of_bind_eq_ok done
    cases equal
    exact .inl (Fewer.holds { Fewer.refl config with } held)
  | setVersion _ | setPlatformArch _ =>
    rw [apply] at done
    split at done
    next =>
      cases done
      exact .inl (Fewer.holds { Fewer.refl config with } held)
    next => cases done
  | setHostname _ | setRootPath _ | setRootReadonly _ =>
    cases done
    exact .inl (Fewer.holds { Fewer.refl config with } held)

theorem ProcessEdit.exists_of_putEnv {key value : String}
    (done : putEnv config key value = .ok after) :
    ∃ env, after = config.mapProcess fun process => { process with env } := by
  rw [putEnv] at done
  split at done
  next => cases done
  next =>
    cases done
    exact ⟨_, rfl⟩

/-- Without the capabilities, a privileged process has no more things. -/
theorem Config.fewer_privileged (config : Config) (host : Option Host) :
    Fewer config { config.privileged host with process := config.process } := by
  have linux : Fewer config (config.mapLinux ({ · with seccomp := none })) :=
    fewer_mapLinux fun linux =>
      { Linux.Fewer.refl linux with
        seccomp := ⟨List.nil_subset _, fun _ => List.nil_subset _⟩ }
  exact { Fewer.refl config with linux := linux.linux }

theorem ProcessEdit.holds_or_broughtBy {edit : ProcessEdit} {host : Option Host}
    (done : edit.apply host config = .ok after) (held : after.Holds item) :
    config.Holds item ∨ item.BroughtBy (.process edit) := by
  have before {change : Process → Process} (held : (config.mapProcess change).Holds item)
      (fewer : Process.Fewer config.process (change config.process)) :
      config.Holds item ∨ item.BroughtBy (.process edit) :=
    .inl ((fewer_mapProcess fewer).holds held)
  cases edit with
  | addEnv key value =>
    obtain ⟨env, rfl⟩ := exists_of_putEnv done
    cases item with
    | env _ => exact .inr (.inl ⟨key, value, rfl⟩)
    | _ => exact .inl held
  | addEnvPair pair =>
    rw [apply] at done
    split at done
    next =>
      obtain ⟨env, rfl⟩ := exists_of_putEnv done
      cases item with
      | env _ => exact .inr (.inr ⟨pair, rfl⟩)
      | _ => exact .inl held
    next => cases done
  | addCapability given =>
    obtain ⟨_, _, equal⟩ := exists_of_bind_eq_ok done
    cases equal
    cases item with
    | capability name =>
      rcases Keyed.mem_addNew held with old | new
      · exact .inl old
      · exact .inr (.inr ⟨given, new.symm, rfl⟩)
    | _ => exact .inl held
  | addRlimit kind hard soft =>
    rw [apply] at done
    split at done
    next => cases done
    next =>
      split at done
      next => cases done
      next =>
        cases done
        cases item with
        | rlimit wanted =>
          rcases Keyed.mem_map_put held with old | same
          · exact .inl old
          · exact .inr ⟨hard, soft, same ▸ rfl⟩
        | _ => exact .inl held
  | setPrivileged =>
    cases done
    cases item with
    | capability name => exact .inr (.inl rfl)
    | _ => exact .inl ((config.fewer_privileged host).holds held)
  | removeEnv key =>
    cases done
    exact before held { Process.Fewer.refl _ with env := List.filter_subset_self _ }
  | clearEnv =>
    cases done
    exact before held { Process.Fewer.refl _ with env := List.nil_subset _ }
  | dropCapability given =>
    obtain ⟨_, _, equal⟩ := exists_of_bind_eq_ok done
    cases equal
    exact before held { Process.Fewer.refl _ with capabilities := List.filter_subset_self _ }
  | clearCapabilities =>
    cases done
    exact before held { Process.Fewer.refl _ with capabilities := List.nil_subset _ }
  | removeRlimit kind =>
    cases done
    exact before held { Process.Fewer.refl _ with rlimits := List.filter_subset_self _ }
  | clearRlimits =>
    cases done
    exact before held { Process.Fewer.refl _ with rlimits := List.nil_subset _ }
  | setCwd _ | setOomScoreAdj _ =>
    rw [apply] at done
    split at done
    next =>
      cases done
      exact before held { Process.Fewer.refl _ with }
    next => cases done
  | setUid _ | setGid _ | setUsername _ | addAdditionalGid _ | clearAdditionalGids | setArgs _
  | setTerminal _ | setConsoleSize _ _ | setNoNewPrivileges _ | setSelinuxLabel _
  | setApparmorProfile _ =>
    cases done
    exact before held { Process.Fewer.refl _ with }

theorem MountEdit.holds_or_broughtBy {edit : MountEdit} (done : edit.apply config = .ok after)
    (held : after.Holds item) : config.Holds item ∨ item.BroughtBy (.mount edit) := by
  cases item with
  | mount destination =>
    cases edit with
    | add mount => exact .inr (.inl ⟨mount, rfl⟩)
    | addTmpfs input => exact .inr (.inr (.inl ⟨input, rfl⟩))
    | addBind input => exact .inr (.inr (.inr (.inl ⟨input, rfl⟩)))
    | addCgroup policy => exact .inr (.inr (.inr (.inr ⟨policy, rfl⟩)))
    | remove removed =>
      cases done
      exact .inl (List.map_subset _ (List.filter_subset_self _) held)
    | clear =>
      cases done
      cases held
  | _ =>
    exact .inl (holds_of_frame (edit.confined.frame config after done)
      (by simp [Removable.part]) held)

/-- Hooks are not removed by name. -/
theorem HookEdit.holds_of_apply {edit : HookEdit} (done : edit.apply config = .ok after)
    (held : after.Holds item) : config.Holds item :=
  holds_of_frame (edit.confined.frame config after done)
    (by cases item <;> simp [Removable.part]) held

/-- Limits of control groups are not among the things that are removed by name. -/
theorem ResourcesEdit.holds_of_apply {edit : ResourcesEdit} (done : edit.apply config = .ok after)
    (held : after.Holds item) : config.Holds item :=
  holds_of_frame (edit.confined.frame config after done)
    (by cases item <;> simp [Removable.part]) held

theorem LinuxEdit.fewer_appendMapping {kind : IdKind} {mapping : IdMapping}
    (done : appendMapping config kind mapping = .ok after) : Fewer config after := by
  rw [appendMapping] at done
  split at done
  next => cases done
  next =>
    cases done
    refine fewer_withLinux ?_
    cases kind with
    | uid => exact { Linux.Fewer.refl _ with }
    | gid => exact { Linux.Fewer.refl _ with }

theorem LinuxEdit.holds_or_broughtBy {edit : LinuxEdit} (done : edit.apply config = .ok after)
    (held : after.Holds item) : config.Holds item ∨ item.BroughtBy (.linux edit) := by
  have before {change : Linux → Linux} (held : (config.mapLinux change).Holds item)
      (fewer : ∀ linux, Linux.Fewer linux (change linux)) :
      config.Holds item ∨ item.BroughtBy (.linux edit) :=
    .inl ((fewer_mapLinux fewer).holds held)
  cases edit with
  | putNamespace name path =>
    obtain ⟨kind, read, equal⟩ := exists_of_bind_eq_ok done
    cases equal
    cases item with
    | namespaces wanted =>
      rcases Keyed.mem_map_put held with old | same
      · exact .inl old
      · have equal : kind = wanted := Vocabulary.text_injective _ _ same
        exact .inr ⟨name, path, equal ▸ read, rfl⟩
    | _ => exact .inl held
  | addSysctl key value =>
    rw [apply] at done
    split at done
    next => cases done
    next =>
      cases done
      cases item with
      | sysctl wanted =>
        rcases Dict.isSome_of_insert held with old | rfl
        · exact .inl old
        · exact .inr ⟨value, rfl⟩
      | _ => exact .inl held
  | putDevice device =>
    obtain ⟨_, _, equal⟩ := exists_of_bind_eq_ok done
    cases equal
    cases item with
    | device wanted =>
      rcases Keyed.mem_map_put held with old | same
      · exact .inl old
      · exact .inr ⟨device, same, rfl⟩
    | _ => exact .inl held
  | removeNamespace name =>
    obtain ⟨kind, _, equal⟩ := exists_of_bind_eq_ok done
    cases equal
    exact before held fun linux =>
      { Linux.Fewer.refl linux with namespaces := List.filter_subset_self _ }
  | clearNamespaces =>
    cases done
    exact before held fun linux =>
      { Linux.Fewer.refl linux with namespaces := List.nil_subset _ }
  | removeSysctl key =>
    cases done
    exact before held fun linux =>
      { Linux.Fewer.refl linux with sysctl := fun _ => Dict.isSome_of_erase }
  | clearSysctl =>
    cases done
    exact before held fun linux =>
      { Linux.Fewer.refl linux with sysctl := fun _ kept => absurd kept Bool.false_ne_true }
  | removeDevice path =>
    cases done
    exact before held fun linux =>
      { Linux.Fewer.refl linux with devices := List.filter_subset_self _ }
  | clearDevices =>
    cases done
    exact before held fun linux => { Linux.Fewer.refl linux with devices := List.nil_subset _ }
  | addIdMapping kind mapping => exact .inl ((fewer_appendMapping done).holds held)
  | addIdMappingText kind input =>
    obtain ⟨mapping, _, rest⟩ := exists_of_bind_eq_ok done
    exact .inl ((fewer_appendMapping rest).holds held)
  | clearIdMappings kind =>
    cases done
    cases kind with
    | uid => exact before held fun linux => { Linux.Fewer.refl linux with }
    | gid => exact before held fun linux => { Linux.Fewer.refl linux with }
  | setRootfsPropagation propagation =>
    rw [apply] at done
    split at done
    next =>
      cases done
      exact .inl ((fewer_withLinux { Linux.Fewer.refl _ with }).holds held)
    next => cases done
  | addMaskedPath _ | addReadonlyPath _ =>
    obtain ⟨_, _, equal⟩ := exists_of_bind_eq_ok done
    cases equal
    exact .inl ((fewer_withLinux { Linux.Fewer.refl _ with }).holds held)
  | setCgroupsPath _ | setMountLabel _ =>
    cases done
    exact .inl ((fewer_withLinux { Linux.Fewer.refl _ with }).holds held)
  | clearMaskedPaths | clearReadonlyPaths =>
    cases done
    exact before held fun linux => { Linux.Fewer.refl linux with }

theorem SeccompEdit.holds_or_broughtBy {edit : SeccompEdit} {decisions : List Decision}
    (done : edit.apply config = .ok (after, decisions)) (held : after.Holds item) :
    config.Holds item ∨ item.BroughtBy (.seccomp edit) := by
  have before {change : Seccomp → Seccomp} (held : (config.mapSeccomp change).Holds item)
      (fewer : ∀ seccomp, Seccomp.Fewer seccomp (change seccomp)) :
      config.Holds item ∨ item.BroughtBy (.seccomp edit) :=
    .inl ((fewer_mapSeccomp fewer).holds held)
  cases edit with
  | addArch word =>
    obtain ⟨known, read, equal⟩ := exists_of_bind_eq_ok done
    cases equal
    cases item with
    | arch wanted =>
      rcases Keyed.mem_addNew held with old | same
      · exact .inl old
      · have equal : wanted = known := Vocabulary.text_injective _ _ same
        exact .inr ⟨word, equal ▸ eq_ok_of_mapError_eq_ok read, rfl⟩
    | _ => exact .inl held
  | addRules input =>
    obtain ⟨rules, _, equal⟩ := exists_of_bind_eq_ok done
    cases equal
    cases item with
    | arch wanted =>
      have kept : wanted.text ∈ (config.filterOrEmpty.addRules rules).1.architectures := held
      rw [Seccomp.architectures_addRules] at kept
      exact .inl kept
    | rule single => exact .inr ⟨input, rfl⟩
    | _ => exact .inl held
  | setDefault word =>
    obtain ⟨action, _, equal⟩ := exists_of_bind_eq_ok done
    cases equal
    exact .inl ((fewer_withSeccomp fun seccomp => { Seccomp.Fewer.refl seccomp with }).holds held)
  | setDefaultForce word =>
    obtain ⟨action, _, equal⟩ := exists_of_bind_eq_ok done
    cases equal
    refine .inl ((fewer_withSeccomp fun seccomp => ?_).holds held)
    have fewer : Seccomp.Fewer seccomp (seccomp.removeAction action) := Seccomp.fewer_removeAction action
    exact { fewer with }
  | removeArch word =>
    obtain ⟨known, _, equal⟩ := exists_of_bind_eq_ok done
    cases equal
    exact before held fun seccomp =>
      { Seccomp.Fewer.refl seccomp with architectures := List.filter_subset_self _ }
  | clearArches =>
    cases done
    exact before held fun seccomp =>
      { Seccomp.Fewer.refl seccomp with architectures := List.nil_subset _ }
  | removeRule rule =>
    cases done
    exact before held fun _ => Seccomp.fewer_removeRule rule
  | removeRules input =>
    obtain ⟨rules, _, equal⟩ := exists_of_bind_eq_ok done
    cases equal
    exact before held fun _ => Seccomp.fewer_removeRules
  | removeName name =>
    cases done
    exact before held fun _ => Seccomp.fewer_removeName name
  | removeAction word =>
    obtain ⟨action, _, equal⟩ := exists_of_bind_eq_ok done
    cases equal
    exact before held fun _ => Seccomp.fewer_removeAction action
  | clearRules =>
    cases done
    exact before held fun seccomp =>
      { Seccomp.Fewer.refl seccomp with views := fun _ => List.nil_subset _ }

end Edits

namespace Draft

variable {draft after : Draft} {edit : Edit} {decisions : List Decision} {item : Removable}

/-- **What is held after an edit** was held before it, or is brought by it. -/
theorem holds_or_broughtBy (done : draft.apply edit = .ok (after, decisions))
    (held : after.config.Holds item) : draft.config.Holds item ∨ item.BroughtBy edit := by
  have yields := yields_apply done
  cases edit with
  | general edit => exact GeneralEdit.holds_or_broughtBy yields held
  | process edit => exact ProcessEdit.holds_or_broughtBy yields held
  | mount edit => exact MountEdit.holds_or_broughtBy yields held
  | hook edit => exact .inl (HookEdit.holds_of_apply yields held)
  | linux edit => exact LinuxEdit.holds_or_broughtBy yields held
  | resources edit => exact .inl (ResourcesEdit.holds_of_apply yields held)
  | seccomp edit => exact SeccompEdit.holds_or_broughtBy yields held
  | sanitize => exact .inl ((yields ▸ Config.fewer_sanitize draft.config).holds held)
  | setHostSpecific hostSpecific => exact .inl (yields ▸ held)

end Draft

/-! ### What edits remove -/

/-- What an edit removes is not held by the configuration that it yields. -/
theorem Edit.Yields.not_holds {draft : Draft} {result : Config} {decisions : List Decision}
    {edit : Edit} {item : Removable} (yields : edit.Yields draft result decisions)
    (removed : item.RemovedBy edit) : ¬ result.Holds item := by
  cases item with
  | annotated key =>
    cases removed
    cases yields
    exact Dict.isSome_erase_self
  | env key =>
    cases removed
    cases yields
    rintro ⟨entry, member, own⟩
    have other : (!isEnvOf key entry) = true := (List.mem_filter.mp member).2
    rw [own] at other
    exact Bool.false_ne_true other
  | capability name =>
    obtain ⟨given, rfl, rfl⟩ := removed
    obtain ⟨_, _, equal⟩ := exists_of_bind_eq_ok yields
    cases equal
    intro held
    exact of_decide_eq_true (List.mem_filter.mp held).2 rfl
  | rlimit kind =>
    cases removed
    cases yields
    exact Keyed.not_mem_map_filter
  | mount destination =>
    cases removed
    cases yields
    exact Keyed.not_mem_map_filter
  | sysctl key =>
    cases removed
    cases yields
    rw [Config.Holds, Config.linuxOrEmpty_mapLinux rfl]
    exact Dict.isSome_erase_self
  | device path =>
    cases removed
    cases yields
    rw [Config.Holds, Config.linuxOrEmpty_mapLinux rfl]
    exact Keyed.not_mem_map_filter
  | namespaces kind =>
    obtain ⟨name, read, rfl⟩ := removed
    obtain ⟨other, read', equal⟩ := exists_of_bind_eq_ok yields
    cases equal
    cases read.symm.trans read'
    rw [Config.Holds, Config.linuxOrEmpty_mapLinux rfl]
    exact Keyed.not_mem_map_filter
  | arch arch =>
    obtain ⟨word, read, rfl⟩ := removed
    obtain ⟨other, read', equal⟩ := exists_of_bind_eq_ok yields
    cases equal
    cases read.symm.trans (eq_ok_of_mapError_eq_ok read')
    rw [Config.Holds, Config.filterOrEmpty_mapSeccomp rfl]
    intro held
    exact of_decide_eq_true (List.mem_filter.mp held).2 rfl
  | rule rule =>
    obtain ⟨input, rules, read, member, rfl⟩ := removed
    obtain ⟨others, read', equal⟩ := exists_of_bind_eq_ok yields
    cases equal
    cases read.symm.trans (eq_ok_of_mapError_eq_ok read')
    rw [Config.Holds, Config.filterOrEmpty_mapSeccomp Seccomp.removeRules_default,
      SyscallRule.view_removeRules]
    intro held
    have told : (rules.any fun other => other.isFor rule.name (rule.action.text, rule.args)) = true :=
      List.any_eq_true.mpr ⟨rule, member, decide_eq_true ⟨rfl, rfl, rfl⟩⟩
    have kept := (List.mem_filter.mp held).2
    rw [told] at kept
    exact Bool.false_ne_true kept

/-- **What an edit removes** is not held after it. -/
theorem Draft.not_holds_of_removedBy {draft after : Draft} {edit : Edit} {decisions : List Decision}
    {item : Removable} (done : draft.apply edit = .ok (after, decisions))
    (removed : item.RemovedBy edit) : ¬ after.config.Holds item :=
  (yields_apply done).not_holds removed

end OciBundle
