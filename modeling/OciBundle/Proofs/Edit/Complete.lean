/-
**Edits leave configurations complete.**

An accepted edit empties no mandatory member, as nearly all of them check what they enter. The
exceptions are the command line of the process, which may be set to nothing, and the filter on
system calls, which is made without a default action where there is none.

* `GeneralEdit.kept`, `ProcessEdit.kept`, …: what an edit of a part keeps.
* `SeccompEdit.kept`: an edit that adds to a filter needs one.
* `Edit.IsTame`: the edits that keep the rest, whatever the configuration is.
* `Draft.kept_apply`: an accepted tame edit.
-/

import OciBundle.Proofs.Config.Kept
import OciBundle.Proofs.Draft

namespace OciBundle

open Config (Kept)

variable {config after : Config}

/-! ### Texts that are not empty -/

theorem Vocabulary.ne_empty_of_isKnown {α : Type} [Vocabulary α] {value : String}
    (blank : isKnown α "" = false) (known : isKnown α value = true) : value ≠ "" := by
  rintro rfl
  exact Bool.false_ne_true (blank.symm.trans known)

theorem ne_empty_of_isAbsolute {path : String} (absolute : Text.isAbsolute path = true) :
    path ≠ "" := by
  rintro rfl
  cases absolute

theorem NamespaceKind.text_ne_empty (kind : NamespaceKind) : kind.text ≠ "" :=
  Vocabulary.ne_empty_of_isKnown (α := NamespaceKind) (by decide) (Vocabulary.isKnown_text kind)

theorem SeccompAction.text_ne_empty (action : SeccompAction) : action.text ≠ "" :=
  Vocabulary.ne_empty_of_isKnown (α := SeccompAction) (by decide) (Vocabulary.isKnown_text action)

/-! ### General parts -/

/-- Whether a general edit is about neither the platform nor the path of the root file system. -/
def GeneralEdit.IsTame : GeneralEdit → Prop
  | .setPlatformOs _ | .setPlatformArch _ | .setRootPath _ => False
  | _ => True

/-- **A general edit.** -/
theorem GeneralEdit.kept {edit : GeneralEdit} (tame : edit.IsTame)
    (done : edit.apply config = .ok after) : Kept config after := by
  cases edit with
  | setVersion version =>
    rw [apply] at done
    split at done
    next holds =>
      cases done
      have given : version ≠ "" := by
        rintro rfl
        cases holds
      exact { Kept.refl config with complete := fun whole => { whole with version := given } }
    next => cases done
  | annotate key value =>
    rw [apply] at done
    split at done
    next => cases done
    next =>
      cases done
      exact { Kept.refl config with complete := fun whole => { whole with } }
  | setHostname _ | unannotate _ | clearAnnotations | setRootReadonly _ =>
    cases done
    exact { Kept.refl config with complete := fun whole => { whole with } }
  | setPlatformOs _ | setPlatformArch _ | setRootPath _ => exact tame.elim

/-! ### The process -/

/-- Whether an edit does not set the command line to nothing. -/
def ProcessEdit.IsTame : ProcessEdit → Prop
  | .setArgs args => args ≠ []
  | _ => True

namespace ProcessEdit

theorem kept_putEnv {key value : String} (done : putEnv config key value = .ok after) :
    Kept config after := by
  rw [putEnv] at done
  split at done
  next => cases done
  next =>
    cases done
    exact Config.kept_mapProcess fun whole => { whole with }

/-- **An edit of the process.** -/
theorem kept {edit : ProcessEdit} {host : Option Host} (tame : edit.IsTame)
    (done : edit.apply host config = .ok after) : Kept config after := by
  cases edit with
  | setUid _ | setGid _ | setUsername _ | addAdditionalGid _ | clearAdditionalGids
  | setTerminal _ | setConsoleSize _ _ | setNoNewPrivileges _ | setSelinuxLabel _
  | setApparmorProfile _ | removeEnv _ | clearEnv | clearCapabilities =>
    cases done
    exact Config.kept_mapProcess fun whole => { whole with }
  | setArgs args =>
    cases done
    exact Config.kept_mapProcess fun whole => { whole with args := tame }
  | setCwd cwd =>
    rw [apply] at done
    split at done
    next absolute =>
      cases done
      exact Config.kept_mapProcess fun whole =>
        { whole with cwd := ne_empty_of_isAbsolute absolute }
    next => cases done
  | setOomScoreAdj score =>
    rw [apply] at done
    split at done
    next =>
      cases done
      exact Config.kept_mapProcess fun whole => { whole with }
    next => cases done
  | addEnv key value => exact kept_putEnv done
  | addEnvPair pair =>
    rw [apply] at done
    split at done
    next => exact kept_putEnv done
    next => cases done
  | addCapability _ | dropCapability _ =>
    obtain ⟨_, _, equal⟩ := exists_of_bind_eq_ok done
    cases equal
    exact Config.kept_mapProcess fun whole => { whole with }
  | addRlimit kind hard soft =>
    rw [apply] at done
    split at done
    next => cases done
    next known =>
      split at done
      next => cases done
      next =>
        cases done
        have given : kind ≠ "" := by
          rintro rfl
          exact known (by decide)
        exact Config.kept_mapProcess fun whole =>
          { whole with rlimits := Keyed.forall_mem_put whole.rlimits given }
  | removeRlimit kind =>
    cases done
    exact Config.kept_mapProcess fun whole =>
      { whole with rlimits := fun limit member => whole.rlimits limit (List.mem_filter.mp member).1 }
  | clearRlimits =>
    cases done
    exact Config.kept_mapProcess fun whole =>
      { whole with rlimits := fun _ member => absurd member List.not_mem_nil }
  | setPrivileged =>
    cases done
    have linux : Kept config (config.mapLinux fun linux => { linux with seccomp := none }) :=
      Config.kept_mapLinux (fun _ => rfl) fun _ whole =>
        { whole with seccomp := fun _ given => absurd given (Option.not_mem_none _) }
    refine { linux with complete := fun whole => ?_ }
    exact { linux.complete whole with process := { whole.process with } }

end ProcessEdit

/-! ### Mounts and hooks -/

namespace MountEdit

theorem kept_append {mount : Mount} (done : append config mount = .ok after) :
    Kept config after := by
  obtain ⟨_, absolute, equal⟩ := exists_of_bind_eq_ok done
  cases equal
  refine Config.kept_mounts fun other member => ?_
  rcases List.mem_append.mp member with old | new
  · exact .inl old
  · rw [List.mem_singleton.mp new]
    exact .inr (ne_empty_of_isAbsolute (isAbsolute_of_requireAbsolute absolute))

/-- **An edit of the mounts.** -/
theorem kept {edit : MountEdit} (done : edit.apply config = .ok after) : Kept config after := by
  cases edit with
  | add mount => exact kept_append done
  | addTmpfs _ | addBind _ =>
    obtain ⟨_, _, appended⟩ := exists_of_bind_eq_ok done
    exact kept_append appended
  | addCgroup policy =>
    rw [apply] at done
    split at done
    next =>
      cases done
      exact .refl config
    split at done
    next => exact kept_append done
    next => cases done
  | remove destination =>
    cases done
    exact Config.kept_mounts fun mount member => .inl (List.mem_filter.mp member).1
  | clear =>
    cases done
    exact Config.kept_mounts fun _ member => absurd member List.not_mem_nil

end MountEdit

/-- A change of the hooks of one stage. -/
theorem Hooks.complete_mapStage {hooks : Hooks} {stage : HookStage}
    {change : List Hook → List Hook} (whole : hooks.Complete)
    (kept : ∀ list : List Hook, (∀ hook ∈ list, hook.path ≠ "") →
      ∀ hook ∈ change list, hook.path ≠ "") : (hooks.mapStage stage change).Complete := by
  cases stage with
  | prestart => exact { whole with prestart := kept _ whole.prestart }
  | poststart => exact { whole with poststart := kept _ whole.poststart }
  | poststop => exact { whole with poststop := kept _ whole.poststop }

namespace HookEdit

theorem kept_append {stage : HookStage} {hook : Hook}
    (done : append config stage hook = .ok after) : Kept config after := by
  obtain ⟨_, absolute, equal⟩ := exists_of_bind_eq_ok done
  cases equal
  refine Config.kept_withHooks fun hooks whole => Hooks.complete_mapStage whole ?_
  intro list given other member
  rcases List.mem_append.mp member with old | new
  · exact given other old
  · rw [List.mem_singleton.mp new]
    exact ne_empty_of_isAbsolute (isAbsolute_of_requireAbsolute absolute)

/-- A change of the hook with a path, or of a new one, that keeps the path. -/
theorem kept_change {stage : HookStage} {subject path : String} {update : Hook → Hook}
    (absolute : requireAbsolute subject path = .ok ())
    (same : ∀ hook : Hook, (update hook).path = hook.path) :
    Kept config (config.withHooks (·.mapStage stage
      (Keyed.change (·.path = path) update (update (.ofPath path))))) := by
  refine Config.kept_withHooks fun hooks whole => Hooks.complete_mapStage whole ?_
  intro list given hook member
  rcases Keyed.mem_change member with old | rfl | ⟨old, inside, _, rfl⟩
  · exact given hook old
  · rw [same]
    exact ne_empty_of_isAbsolute (isAbsolute_of_requireAbsolute absolute)
  · rw [same]
    exact given old inside

/-- **An edit of the hooks.** -/
theorem kept {edit : HookEdit} (done : edit.apply config = .ok after) : Kept config after := by
  cases edit with
  | add stage hook => exact kept_append done
  | addText stage input =>
    obtain ⟨_, _, appended⟩ := exists_of_bind_eq_ok done
    exact kept_append appended
  | addEnv stage path pair =>
    obtain ⟨_, absolute, added⟩ := exists_of_bind_eq_ok done
    split at added
    next => cases added
    next =>
      cases added
      exact kept_change absolute fun _ => rfl
  | addTimeout stage path timeout =>
    obtain ⟨_, absolute, added⟩ := exists_of_bind_eq_ok done
    split at added
    next => cases added
    next =>
      cases added
      exact kept_change absolute fun _ => rfl
  | clear stage =>
    cases done
    exact Config.kept_mapHooks fun hooks whole =>
      Hooks.complete_mapStage whole fun _ _ _ member => absurd member List.not_mem_nil

end HookEdit

/-! ### Linux -/

/-- Whether an edit is not about namespaces. -/
def LinuxEdit.IsTame : LinuxEdit → Prop
  | .putNamespace _ _ | .removeNamespace _ | .clearNamespaces => False
  | _ => True

namespace LinuxEdit

theorem kept_appendMapping {kind : IdKind} {mapping : IdMapping}
    (done : appendMapping config kind mapping = .ok after) : Kept config after := by
  unfold appendMapping at done
  dsimp only at done
  split at done
  next => cases done
  next =>
    cases done
    cases kind with
    | uid | gid => exact Config.kept_withLinux (fun _ => rfl) fun _ whole => { whole with }

/-- **An edit of what is configured for Linux.** -/
theorem kept {edit : LinuxEdit} (tame : edit.IsTame) (done : edit.apply config = .ok after) :
    Kept config after := by
  cases edit with
  | putNamespace _ _ | removeNamespace _ | clearNamespaces => exact tame.elim
  | addIdMapping kind mapping => exact kept_appendMapping done
  | addIdMappingText kind input =>
    obtain ⟨_, _, appended⟩ := exists_of_bind_eq_ok done
    exact kept_appendMapping appended
  | clearIdMappings kind =>
    cases done
    cases kind with
    | uid | gid => exact Config.kept_mapLinux (fun _ => rfl) fun _ whole => { whole with }
  | addSysctl key value =>
    rw [apply] at done
    split at done
    next => cases done
    next =>
      cases done
      exact Config.kept_withLinux (fun _ => rfl) fun _ whole => { whole with }
  | removeSysctl _ | clearSysctl | clearMaskedPaths | clearReadonlyPaths =>
    cases done
    exact Config.kept_mapLinux (fun _ => rfl) fun _ whole => { whole with }
  | putDevice device =>
    obtain ⟨_, accepted, equal⟩ := exists_of_bind_eq_ok done
    cases equal
    obtain ⟨⟨kind, known, _⟩, absolute⟩ := Device.of_checkDevice accepted
    have given : device.kind ≠ "" :=
      Vocabulary.ne_empty_of_isKnown (α := DeviceKind) (by decide) (Option.isSome_of_eq_some known)
    exact Config.kept_withLinux (fun _ => rfl) fun _ whole =>
      { whole with
        devices := Keyed.forall_mem_put whole.devices ⟨ne_empty_of_isAbsolute absolute, given⟩ }
  | removeDevice path =>
    cases done
    exact Config.kept_mapLinux (fun _ => rfl) fun _ whole =>
      { whole with devices := fun device member => whole.devices device (List.mem_filter.mp member).1 }
  | clearDevices =>
    cases done
    exact Config.kept_mapLinux (fun _ => rfl) fun _ whole =>
      { whole with devices := fun _ member => absurd member List.not_mem_nil }
  | setRootfsPropagation propagation =>
    rw [apply] at done
    split at done
    next =>
      cases done
      exact Config.kept_withLinux (fun _ => rfl) fun _ whole => { whole with }
    next => cases done
  | setCgroupsPath _ | setMountLabel _ =>
    cases done
    exact Config.kept_withLinux (fun _ => rfl) fun _ whole => { whole with }
  | addMaskedPath _ | addReadonlyPath _ =>
    obtain ⟨_, _, equal⟩ := exists_of_bind_eq_ok done
    cases equal
    exact Config.kept_withLinux (fun _ => rfl) fun _ whole => { whole with }

end LinuxEdit

/-! ### Limits of control groups -/

/-- A change of the settings of network traffic. -/
theorem Resources.complete_withNetwork {limits : Resources} {change : Network → Network}
    (whole : limits.Complete)
    (kept : ∀ network : Network, (∀ entry ∈ network.priorities, entry.name ≠ "") →
      ∀ entry ∈ (change network).priorities, entry.name ≠ "") :
    (limits.withNetwork change).Complete := by
  have before : ∀ entry ∈ (limits.network.getD default).priorities, entry.name ≠ "" := by
    cases given : limits.network with
    | none => exact fun _ member => absurd member List.not_mem_nil
    | some network => exact whole.network network given
  refine { whole with network := fun network same => ?_ }
  rw [← Option.some.inj same]
  exact kept _ before

/-- **An edit of the limits.** -/
theorem ResourcesEdit.kept {edit : ResourcesEdit} (done : edit.apply config = .ok after) :
    Kept config after := by
  cases edit with
  | setCpuShares _ | setCpuQuota _ | setCpuPeriod _ | setCpuRealtimeRuntime _
  | setCpuRealtimePeriod _ | setCpuCpus _ | setCpuMems _ | setMemoryLimit _
  | setMemoryReservation _ | setMemorySwap _ | setMemoryKernel _ | setMemoryKernelTcp _
  | setMemoryDisableOomKiller _ | setPidsLimit _ | putThrottleDevice _ _ _ _ =>
    cases done
    exact Config.kept_withResources fun _ whole => { whole with }
  | dropWeightDevice _ _ | dropThrottleDevice _ _ _ | clearDeviceRules =>
    cases done
    exact Config.kept_mapResources fun _ whole => { whole with }
  | setMemorySwappiness swappiness =>
    rw [apply] at done
    split at done
    next =>
      cases done
      exact Config.kept_withResources fun _ whole => { whole with }
    next => cases done
  | setBlockIoWeight _ | setBlockIoLeafWeight _ =>
    obtain ⟨_, _, equal⟩ := exists_of_bind_eq_ok done
    cases equal
    exact Config.kept_withResources fun _ whole => { whole with }
  | putWeightDevice major minor weight leafWeight =>
    obtain ⟨_, _, rest⟩ := exists_of_bind_eq_ok done
    obtain ⟨_, _, equal⟩ := exists_of_bind_eq_ok rest
    cases equal
    exact Config.kept_withResources fun _ whole => { whole with }
  | putHugepageLimit pageSize limit =>
    rw [apply] at done
    split at done
    next => cases done
    next given =>
      cases done
      exact Config.kept_withResources fun _ whole =>
        { whole with hugepageLimits := Keyed.forall_mem_put whole.hugepageLimits given }
  | dropHugepageLimit pageSize =>
    cases done
    exact Config.kept_mapResources fun limits whole =>
      { whole with
        hugepageLimits := fun limit member =>
          whole.hugepageLimits limit (List.mem_filter.mp member).1 }
  | setNetworkClassId classId =>
    cases done
    exact Config.kept_withResources fun _ whole => Resources.complete_withNetwork whole fun _ => id
  | putNetworkPriority name priority =>
    rw [apply] at done
    split at done
    next => cases done
    next given =>
      cases done
      exact Config.kept_withResources fun _ whole =>
        Resources.complete_withNetwork whole fun _ named => Keyed.forall_mem_put named given
  | dropNetworkPriority name =>
    cases done
    refine Config.kept_mapResources fun limits whole =>
      { whole with network := fun network changed => ?_ }
    obtain ⟨old, inside, rfl⟩ := Option.map_eq_some_iff.mp changed
    exact fun entry member => whole.network old inside entry (List.mem_filter.mp member).1
  | addDeviceRule allow kind major minor access =>
    rw [apply] at done
    split at done
    next => cases done
    split at done
    next => cases done
    next =>
      cases done
      exact Config.kept_withResources fun _ whole => { whole with }

/-! ### The filter on system calls -/

/-- A rule for one name that is read. -/
theorem NameRule.complete_toRule {rule : NameRule}
    (known : ∀ condition ∈ rule.args,
      Vocabulary.isKnown SeccompOperator condition.operator = true) : rule.toRule.Complete where
  names := List.cons_ne_nil _ _
  action := rule.action.text_ne_empty
  args condition member :=
    Vocabulary.ne_empty_of_isKnown (α := SeccompOperator) (by decide) (known condition member)

namespace Seccomp

variable {seccomp : Seccomp}

theorem complete_addRules {rules : List NameRule} (whole : seccomp.Complete)
    (fits : ∀ rule ∈ rules, rule.toRule.Complete) : (seccomp.addRules rules).1.Complete := by
  induction rules generalizing seccomp with
  | nil => exact whole
  | cons rule rules hypothesis =>
    obtain ⟨first, others⟩ := List.forall_mem_cons.mp fits
    refine hypothesis { whole with syscalls := fun listed member => ?_ } others
    rcases NameRule.mem_apply member with old | rfl
    · exact whole.syscalls listed old
    · exact first

/-- Rules that lost names are dropped when none is left. -/
theorem complete_dropNameless {change : SyscallRule → SyscallRule} (whole : seccomp.Complete)
    (kept : ∀ rule, (change rule).action = rule.action ∧ (change rule).args = rule.args) :
    ({ seccomp with syscalls := dropNameless (seccomp.syscalls.map change) } : Seccomp).Complete := by
  refine { whole with syscalls := fun rule member => ?_ }
  obtain ⟨inside, named⟩ := List.mem_filter.mp member
  obtain ⟨old, before, rfl⟩ := List.mem_map.mp inside
  obtain ⟨action, args⟩ := kept old
  refine ⟨of_decide_eq_true named, ?_, ?_⟩
  · rw [action]
    exact (whole.syscalls old before).action
  · rw [args]
    exact (whole.syscalls old before).args

theorem complete_removeRule (whole : seccomp.Complete) (rule : NameRule) :
    (seccomp.removeRule rule).Complete := by
  refine complete_dropNameless whole fun listed => ?_
  split
  · exact ⟨rfl, rfl⟩
  · exact ⟨rfl, rfl⟩

theorem complete_removeRules (whole : seccomp.Complete) (rules : List NameRule) :
    (rules.foldl removeRule seccomp).Complete := by
  induction rules generalizing seccomp with
  | nil => exact whole
  | cons rule rules hypothesis => exact hypothesis (complete_removeRule whole rule)

end Seccomp

namespace SeccompEdit

/-- Whether an edit adds to a filter, which is made without a default action where there is none. -/
def Adds : SeccompEdit → Prop
  | .addArch _ | .addRules _ => True
  | _ => False

variable {decisions : List Decision}

/-- **An edit of the filter on system calls**; what adds to a filter needs one. -/
theorem kept {edit : SeccompEdit} (given : edit.Adds → config.seccomp.isSome = true)
    (done : edit.apply config = .ok (after, decisions)) : Kept config after := by
  cases edit with
  | setDefault word =>
    obtain ⟨action, _, equal⟩ := exists_of_bind_eq_ok done
    cases equal
    exact Config.kept_withSeccomp fun _ rules => ⟨action.text_ne_empty, rules⟩
  | setDefaultForce word =>
    obtain ⟨action, _, equal⟩ := exists_of_bind_eq_ok done
    cases equal
    exact Config.kept_withSeccomp fun _ rules =>
      ⟨action.text_ne_empty, fun rule member => rules rule (List.mem_filter.mp member).1⟩
  | addArch word =>
    obtain ⟨arch, _, equal⟩ := exists_of_bind_eq_ok done
    cases equal
    rw [Config.withSeccomp_eq_mapSeccomp (given trivial)]
    exact Config.kept_mapSeccomp fun _ whole => { whole with }
  | addRules input =>
    obtain ⟨rules, read, equal⟩ := exists_of_bind_eq_ok done
    cases equal
    have known := NameRule.isKnown_of_readAll (eq_ok_of_mapError_eq_ok read)
    rw [Config.withSeccomp_eq_mapSeccomp (given trivial)]
    exact Config.kept_mapSeccomp fun _ whole => Seccomp.complete_addRules whole fun rule member =>
      NameRule.complete_toRule (known rule member)
  | removeArch _ =>
    obtain ⟨_, _, equal⟩ := exists_of_bind_eq_ok done
    cases equal
    exact Config.kept_mapSeccomp fun _ whole => { whole with }
  | clearArches =>
    cases done
    exact Config.kept_mapSeccomp fun _ whole => { whole with }
  | removeRule rule =>
    cases done
    exact Config.kept_mapSeccomp fun _ whole => Seccomp.complete_removeRule whole rule
  | removeRules input =>
    obtain ⟨rules, _, equal⟩ := exists_of_bind_eq_ok done
    cases equal
    exact Config.kept_mapSeccomp fun _ whole => Seccomp.complete_removeRules whole rules
  | removeName name =>
    cases done
    exact Config.kept_mapSeccomp fun _ whole =>
      Seccomp.complete_dropNameless whole fun _ => ⟨rfl, rfl⟩
  | removeAction word =>
    obtain ⟨action, _, equal⟩ := exists_of_bind_eq_ok done
    cases equal
    exact Config.kept_mapSeccomp fun _ whole =>
      { whole with syscalls := fun rule member => whole.syscalls rule (List.mem_filter.mp member).1 }
  | clearRules =>
    cases done
    exact Config.kept_mapSeccomp fun _ whole =>
      { whole with syscalls := fun _ member => absurd member List.not_mem_nil }

/-- A filter that is there stays. -/
theorem isSome_seccomp {edit : SeccompEdit} (given : config.seccomp.isSome = true)
    (done : edit.apply config = .ok (after, decisions)) : after.seccomp.isSome = true := by
  cases edit with
  | setDefault _ | setDefaultForce _ | addArch _ | addRules _ =>
    obtain ⟨_, _, equal⟩ := exists_of_bind_eq_ok done
    cases equal
    exact Config.isSome_seccomp_withSeccomp
  | removeArch _ | removeRules _ | removeAction _ =>
    obtain ⟨_, _, equal⟩ := exists_of_bind_eq_ok done
    cases equal
    rw [Config.isSome_seccomp_mapSeccomp]
    exact given
  | clearArches | removeRule _ | removeName _ | clearRules =>
    cases done
    rw [Config.isSome_seccomp_mapSeccomp]
    exact given

end SeccompEdit

/-! ### All edits -/

/-- Whether an edit keeps what `Config.Kept` says, whatever the configuration is. -/
def Edit.IsTame : Edit → Prop
  | .general edit => edit.IsTame
  | .process edit => edit.IsTame
  | .linux edit => edit.IsTame
  | .seccomp edit => ¬ edit.Adds
  | .sanitize => False
  | .mount _ | .hook _ | .resources _ | .setHostSpecific _ => True

/-- **An accepted tame edit.** -/
theorem Draft.kept_apply {draft after : Draft} {edit : Edit} {decisions : List Decision}
    (tame : edit.IsTame) (done : draft.apply edit = .ok (after, decisions)) :
    Kept draft.config after.config := by
  have yields := yields_apply done
  cases edit with
  | general edit => exact GeneralEdit.kept tame yields
  | process edit => exact ProcessEdit.kept tame yields
  | mount edit => exact MountEdit.kept yields
  | hook edit => exact HookEdit.kept yields
  | linux edit => exact LinuxEdit.kept tame yields
  | resources edit => exact ResourcesEdit.kept yields
  | seccomp edit => exact SeccompEdit.kept (fun adds => absurd adds tame) yields
  | sanitize => exact tame.elim
  | setHostSpecific hostSpecific => exact yields ▸ .refl draft.config

end OciBundle
