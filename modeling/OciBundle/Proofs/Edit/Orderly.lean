/-
**Edits keep a configuration orderly.**

Each kind of edit is about one part, and keeps what is said of it: a number is checked before it is
set, what is added to a list is not in it yet, and a rule is merged.

* `GeneralEdit.orderly`, `ProcessEdit.orderly`, …: edits of one kind.
* `HookEdit.AddsNoTimeout`: an added hook has no time limit of its own.
* `Seccomp.Orderly.addRules`, `Seccomp.sublist_dropNameless`: what merging and removing rules keep.
-/

import OciBundle.Proofs.Config.Orderly
import OciBundle.Proofs.Edit.General
import OciBundle.Proofs.Edit.Parts
import OciBundle.Proofs.Edit.Seccomp
import OciBundle.Proofs.Keyed

namespace OciBundle

variable {config after : Config}

theorem Keyed.nodup_addNew {α : Type} [BEq α] [LawfulBEq α] {items : List α}
    (nodup : items.Nodup) (item : α) : (addNew item items).Nodup := by
  rw [addNew]
  split
  next => exact nodup
  next fresh =>
    rw [← List.concat_eq_append]
    exact nodup.concat fun member => fresh (List.contains_iff_mem.mpr member)

/-! ### General settings and the process -/

theorem GeneralEdit.orderly {edit : GeneralEdit} (orderly : config.Orderly)
    (done : edit.apply config = .ok after) : after.Orderly :=
  orderly.of_confined edit.confined done (List.forall_mem_singleton.mpr trivial)

/-- What an edit of the process keeps of it. -/
theorem ProcessEdit.orderly_process {edit : ProcessEdit} {host : Option Host}
    (orderly : config.process.Orderly) (done : edit.apply host config = .ok after) :
    after.process.Orderly := by
  have putEnv {key value : String} (done : putEnv config key value = .ok after) :
      after.process.Orderly := by
    rw [ProcessEdit.putEnv] at done
    split at done
    next => cases done
    next =>
      cases done
      exact { orderly with }
  cases edit with
  | setUid _ | setGid _ | setUsername _ | setArgs _ | setTerminal _ | setConsoleSize _ _
  | setNoNewPrivileges _ | setSelinuxLabel _ | setApparmorProfile _ | removeEnv _ | clearEnv
  | clearCapabilities | removeRlimit _ | clearRlimits | setPrivileged =>
    cases done
    exact { orderly with }
  | addAdditionalGid gid =>
    cases done
    exact { orderly with additionalGids := Keyed.nodup_addNew orderly.additionalGids gid }
  | clearAdditionalGids =>
    cases done
    exact { orderly with additionalGids := List.nodup_nil }
  | setOomScoreAdj score =>
    rw [apply] at done
    split at done
    next inRange =>
      cases done
      refine { orderly with oomScoreAdj := ?_ }
      rintro _ ⟨⟩
      exact inRange
    next => cases done
  | setCwd _ =>
    rw [apply] at done
    split at done
    next =>
      cases done
      exact { orderly with }
    next => cases done
  | addEnv _ _ => exact putEnv done
  | addEnvPair _ =>
    rw [apply] at done
    split at done
    next => exact putEnv done
    next => cases done
  | addCapability _ | dropCapability _ =>
    obtain ⟨_, _, equal⟩ := exists_of_bind_eq_ok done
    cases equal
    exact { orderly with }
  | addRlimit _ _ _ =>
    rw [apply] at done
    split at done
    next => cases done
    next =>
      split at done
      next => cases done
      next =>
        cases done
        exact { orderly with }

/-- A privileged process is left without a filter on system calls. -/
theorem ProcessEdit.orderly {edit : ProcessEdit} {host : Option Host} (orderly : config.Orderly)
    (done : edit.apply host config = .ok after) : after.Orderly := by
  refine orderly.of_confined (edit.confined host) done fun part inside => ?_
  have process : after.OrderlyIn .process := orderly_process orderly.process done
  cases edit with
  | setPrivileged =>
    rcases List.mem_cons.mp inside with rfl | inside
    · exact process
    · rw [List.mem_singleton.mp inside]
      cases done
      have none : (config.privileged host).linuxOrEmpty.seccomp = none := by
        obtain ⟨_, _, _, _, _, _, _, _, linux⟩ := config
        cases linux <;> rfl
      intro seccomp given
      rw [none] at given
      exact nomatch given
  | _ =>
    rw [List.mem_singleton.mp inside]
    exact process

/-! ### Mounts and hooks -/

theorem MountEdit.orderly {edit : MountEdit} (orderly : config.Orderly)
    (done : edit.apply config = .ok after) : after.Orderly := by
  refine orderly.of_confined edit.confined done (List.forall_mem_singleton.mpr ?_)
  have append {mount : Mount} (done : append config mount = .ok after) :
      after.OrderlyIn .mounts := by
    obtain ⟨_, absolute, equal⟩ := exists_of_bind_eq_ok done
    cases equal
    exact List.forall_mem_append.mpr
      ⟨orderly.mounts, List.forall_mem_singleton.mpr (isAbsolute_of_requireAbsolute absolute)⟩
  cases edit with
  | add mount => exact append done
  | addTmpfs input | addBind input =>
    obtain ⟨mount, _, appended⟩ := exists_of_bind_eq_ok done
    exact append appended
  | addCgroup policy =>
    rw [apply] at done
    split at done
    next =>
      cases done
      exact orderly.mounts
    next =>
      split at done
      next => exact append done
      next => cases done
  | remove destination =>
    cases done
    exact fun mount member => orderly.mounts mount (List.mem_filter.mp member).1
  | clear =>
    cases done
    exact fun _ member => absurd member List.not_mem_nil

theorem Hook.orderly_of_none {hook : Hook} (none : hook.timeout = none) : hook.Orderly := by
  intro timeout given
  rw [none] at given
  cases given

/-- A change of the hooks of a stage that keeps time limits positive. -/
theorem Hooks.Orderly.mapStage {hooks : Hooks} {stage : HookStage}
    {change : List Hook → List Hook} (orderly : hooks.Orderly)
    (kept : ∀ list : List Hook, (∀ hook ∈ list, hook.Orderly) →
      ∀ hook ∈ change list, hook.Orderly) :
    (hooks.mapStage stage change).Orderly := by
  cases stage with
  | prestart => exact { orderly with prestart := kept _ orderly.prestart }
  | poststart => exact { orderly with poststart := kept _ orderly.poststart }
  | poststop => exact { orderly with poststop := kept _ orderly.poststop }

namespace HookEdit

/-- Whether an added hook has no time limit of its own. -/
def AddsNoTimeout : HookEdit → Prop
  | .add _ hook => hook.timeout = none
  | _ => True

theorem orderly_getD (orderly : config.Orderly) : (config.hooks.getD default).Orderly := by
  cases given : config.hooks with
  | none => exact ⟨nofun, nofun, nofun⟩
  | some hooks => exact orderly.hooks hooks given

theorem orderly {edit : HookEdit} (noTimeout : edit.AddsNoTimeout) (orderly : config.Orderly)
    (done : edit.apply config = .ok after) : after.Orderly := by
  refine orderly.of_confined edit.confined done (List.forall_mem_singleton.mpr ?_)
  have append {stage : HookStage} {hook : Hook} (none : hook.timeout = none)
      (done : append config stage hook = .ok after) : after.OrderlyIn .hooks := by
    obtain ⟨_, _, equal⟩ := exists_of_bind_eq_ok done
    cases equal
    rintro _ ⟨⟩
    refine (orderly_getD orderly).mapStage fun list each => ?_
    have fresh : hook.Orderly := Hook.orderly_of_none none
    exact List.forall_mem_append.mpr ⟨each, List.forall_mem_singleton.mpr fresh⟩
  -- A new hook has no time limit but the one that the edit sets.
  have change {stage : HookStage} {path : String} {update : Hook → Hook}
      (kept : ∀ hook : Hook, hook.Orderly → (update hook).Orderly) :
      (config.withHooks (·.mapStage stage
        (Keyed.change (·.path = path) update (update (.ofPath path))))).OrderlyIn .hooks := by
    rintro _ ⟨⟩
    refine (orderly_getD orderly).mapStage fun list each hook member => ?_
    rcases Keyed.mem_change member with old | rfl | ⟨old, inside, _, rfl⟩
    · exact each hook old
    · exact kept _ (Hook.orderly_of_none rfl)
    · exact kept old (each old inside)
  cases edit with
  | add stage hook => exact append noTimeout done
  | addText stage input =>
    obtain ⟨hook, read, appended⟩ := exists_of_bind_eq_ok done
    exact append (Hook.plain_of_read (eq_ok_of_mapError_eq_ok read)).2 appended
  | addEnv stage path pair =>
    obtain ⟨_, _, added⟩ := exists_of_bind_eq_ok done
    split at added
    next => cases added
    next =>
      cases added
      exact change fun _ orderly => orderly
  | addTimeout stage path timeout =>
    obtain ⟨_, _, added⟩ := exists_of_bind_eq_ok done
    split at added
    next => cases added
    next positive =>
      cases added
      refine change fun _ _ => ?_
      rintro _ ⟨⟩
      exact Int32.not_le.mp positive
  | clear stage =>
    cases done
    intro hooks given
    obtain ⟨old, before, rfl⟩ := Option.map_eq_some_iff.mp given
    exact (orderly.hooks old before).mapStage fun _ _ _ member =>
      absurd member List.not_mem_nil

end HookEdit

/-! ### Settings for Linux -/

namespace Config

variable {part : Linux.Part} {change : Linux → Linux}

/-- A change of what is configured for Linux, if there is something. -/
theorem orderlyIn_mapLinux (orderly : config.Orderly)
    (kept : ∀ linux : Linux, linux.Orderly → (change linux).OrderlyIn part) :
    (config.mapLinux change).OrderlyIn (.linux part) := by
  show ((config.linux.map change).getD default).OrderlyIn part
  cases given : config.linux with
  | none => exact Linux.orderly_iff.mp Linux.orderly_default part
  | some linux => exact kept linux (orderly.linux linux given)

theorem orderlyIn_withLinux (orderly : config.Orderly)
    (kept : ∀ linux : Linux, linux.Orderly → (change linux).OrderlyIn part) :
    (config.withLinux change).OrderlyIn (.linux part) :=
  kept config.linuxOrEmpty (orderly_linuxOrEmpty_iff.mpr orderly.linux)

end Config

open Config (orderlyIn_mapLinux orderlyIn_withLinux)

/-- Of all edits for Linux, those that add a path have something to keep. -/
theorem LinuxEdit.orderly {edit : LinuxEdit} (orderly : config.Orderly)
    (done : edit.apply config = .ok after) : after.Orderly := by
  refine orderly.of_confined edit.confined done (List.forall_mem_singleton.mpr ?_)
  cases edit with
  | putNamespace _ _ | removeNamespace _ | clearNamespaces | addIdMapping _ _
  | addIdMappingText _ _ | clearIdMappings _ => exact trivial
  | addSysctl key value =>
    rw [apply] at done
    split at done
    next => cases done
    next =>
      cases done
      exact orderlyIn_withLinux orderly fun _ orderly =>
        ⟨orderly.maskedPaths, orderly.readonlyPaths⟩
  | putDevice device =>
    obtain ⟨_, _, equal⟩ := exists_of_bind_eq_ok done
    cases equal
    exact orderlyIn_withLinux orderly fun _ orderly => ⟨orderly.maskedPaths, orderly.readonlyPaths⟩
  | setRootfsPropagation propagation =>
    rw [apply] at done
    split at done
    next =>
      cases done
      exact orderlyIn_withLinux orderly fun _ orderly =>
        ⟨orderly.maskedPaths, orderly.readonlyPaths⟩
    next => cases done
  | setCgroupsPath _ | setMountLabel _ =>
    cases done
    exact orderlyIn_withLinux orderly fun _ orderly => ⟨orderly.maskedPaths, orderly.readonlyPaths⟩
  | removeSysctl _ | clearSysctl | removeDevice _ | clearDevices =>
    cases done
    exact orderlyIn_mapLinux orderly fun _ orderly => ⟨orderly.maskedPaths, orderly.readonlyPaths⟩
  | addMaskedPath path =>
    obtain ⟨_, _, equal⟩ := exists_of_bind_eq_ok done
    cases equal
    exact orderlyIn_withLinux orderly fun _ orderly =>
      ⟨Keyed.nodup_addNew orderly.maskedPaths path, orderly.readonlyPaths⟩
  | addReadonlyPath path =>
    obtain ⟨_, _, equal⟩ := exists_of_bind_eq_ok done
    cases equal
    exact orderlyIn_withLinux orderly fun _ orderly =>
      ⟨orderly.maskedPaths, Keyed.nodup_addNew orderly.readonlyPaths path⟩
  | clearMaskedPaths =>
    cases done
    exact orderlyIn_mapLinux orderly fun _ orderly => ⟨List.nodup_nil, orderly.readonlyPaths⟩
  | clearReadonlyPaths =>
    cases done
    exact orderlyIn_mapLinux orderly fun _ orderly => ⟨orderly.maskedPaths, List.nodup_nil⟩

/-! ### Limits of control groups -/

namespace Resources

variable {limits : Resources}

theorem orderly_default : (default : Resources).Orderly :=
  ⟨nofun, nofun, nofun⟩

theorem Orderly.withMemory (orderly : limits.Orderly) {change : Memory → Memory}
    (kept : ∀ memory : Memory, (∀ swappiness ∈ memory.swappiness, swappiness ≤ 100) →
      ∀ swappiness ∈ (change memory).swappiness, swappiness ≤ 100) :
    (limits.withMemory change).Orderly := by
  refine { orderly with swappiness := ?_ }
  rintro _ ⟨⟩
  refine kept _ ?_
  cases given : limits.memory with
  | none => exact nofun
  | some memory => exact orderly.swappiness memory given

theorem Orderly.withBlockIo (orderly : limits.Orderly) {change : BlockIo → BlockIo}
    (kept : ∀ blockIo : BlockIo, blockIo.Orderly → (change blockIo).Orderly) :
    (limits.withBlockIo change).Orderly := by
  refine { orderly with blockIo := ?_ }
  rintro _ ⟨⟩
  refine kept _ ?_
  cases given : limits.blockIo with
  | none => exact ⟨nofun, nofun, nofun⟩
  | some blockIo => exact orderly.blockIo blockIo given

theorem Orderly.mapBlockIo (orderly : limits.Orderly) {change : BlockIo → BlockIo}
    (kept : ∀ blockIo : BlockIo, blockIo.Orderly → (change blockIo).Orderly) :
    (limits.mapBlockIo change).Orderly := by
  refine { orderly with blockIo := fun blockIo given => ?_ }
  obtain ⟨old, before, rfl⟩ := Option.map_eq_some_iff.mp given
  exact kept old (orderly.blockIo old before)

end Resources

theorem BlockIo.Orderly.mapThrottle {limits : BlockIo} (orderly : limits.Orderly)
    (throttle : Throttle) (change : List ThrottleDevice → List ThrottleDevice) :
    (limits.mapThrottle throttle change).Orderly := by
  cases throttle <;> exact { orderly with }

namespace ResourcesEdit

theorem inWeightRange_of_checkWeight {what : String} {weight : Option UInt16}
    (done : checkWeight what weight = .ok ()) : InWeightRange weight := by
  cases weight with
  | none => exact nofun
  | some weight =>
    rw [checkWeight] at done
    split at done
    next inRange =>
      rintro _ ⟨⟩
      exact inRange
    next => cases done

theorem orderly {edit : ResourcesEdit} (orderly : config.Orderly)
    (done : edit.apply config = .ok after) : after.Orderly := by
  refine orderly.of_confined edit.confined done (List.forall_mem_singleton.mpr ?_)
  have withResources {change : Resources → Resources}
      (kept : ∀ limits : Resources, limits.Orderly → (change limits).Orderly) :
      (config.withResources change).OrderlyIn (.linux .resources) := by
    refine orderlyIn_withLinux orderly fun linux orderly => ?_
    rintro _ ⟨⟩
    refine kept _ ?_
    cases given : linux.resources with
    | none => exact Resources.orderly_default
    | some limits => exact orderly.resources limits given
  have mapResources {change : Resources → Resources}
      (kept : ∀ limits : Resources, limits.Orderly → (change limits).Orderly) :
      (config.mapResources change).OrderlyIn (.linux .resources) := by
    refine orderlyIn_mapLinux orderly fun linux orderly limits given => ?_
    obtain ⟨old, before, rfl⟩ := Option.map_eq_some_iff.mp given
    exact kept old (orderly.resources old before)
  cases edit with
  | setCpuShares _ | setCpuQuota _ | setCpuPeriod _ | setCpuRealtimeRuntime _
  | setCpuRealtimePeriod _ | setCpuCpus _ | setCpuMems _ | setPidsLimit _ | setNetworkClassId _ =>
    cases done
    exact withResources fun _ orderly => { orderly with }
  | setMemoryLimit _ | setMemoryReservation _ | setMemorySwap _ | setMemoryKernel _
  | setMemoryKernelTcp _ | setMemoryDisableOomKiller _ =>
    cases done
    exact withResources fun _ orderly => orderly.withMemory fun _ inRange => inRange
  | setMemorySwappiness swappiness =>
    rw [apply] at done
    split at done
    next inRange =>
      cases done
      refine withResources fun _ orderly => orderly.withMemory fun _ _ => ?_
      rintro _ ⟨⟩
      exact inRange
    next => cases done
  | setBlockIoWeight weight =>
    obtain ⟨_, checked, equal⟩ := exists_of_bind_eq_ok done
    cases equal
    exact withResources fun _ orderly => orderly.withBlockIo fun _ orderly =>
      { orderly with weight := inWeightRange_of_checkWeight checked }
  | setBlockIoLeafWeight weight =>
    obtain ⟨_, checked, equal⟩ := exists_of_bind_eq_ok done
    cases equal
    exact withResources fun _ orderly => orderly.withBlockIo fun _ orderly =>
      { orderly with leafWeight := inWeightRange_of_checkWeight checked }
  | putWeightDevice major minor weight leafWeight =>
    obtain ⟨_, checked, rest⟩ := exists_of_bind_eq_ok done
    obtain ⟨_, checked', equal⟩ := exists_of_bind_eq_ok rest
    cases equal
    refine withResources fun _ orderly => orderly.withBlockIo fun _ orderly => ?_
    exact { orderly with
      devices := Keyed.forall_mem_put orderly.devices
        ⟨inWeightRange_of_checkWeight checked, inWeightRange_of_checkWeight checked'⟩ }
  | dropWeightDevice major minor =>
    cases done
    refine mapResources fun _ orderly => orderly.mapBlockIo fun _ orderly => ?_
    exact { orderly with
      devices := fun device member => orderly.devices device (List.mem_filter.mp member).1 }
  | putThrottleDevice throttle major minor rate =>
    cases done
    exact withResources fun _ orderly => orderly.withBlockIo fun _ orderly =>
      orderly.mapThrottle throttle _
  | dropThrottleDevice throttle major minor =>
    cases done
    exact mapResources fun _ orderly => orderly.mapBlockIo fun _ orderly =>
      orderly.mapThrottle throttle _
  | putHugepageLimit _ _ | putNetworkPriority _ _ =>
    rw [apply] at done
    split at done
    next => cases done
    next =>
      cases done
      exact withResources fun _ orderly => { orderly with }
  | dropHugepageLimit _ | dropNetworkPriority _ =>
    cases done
    exact mapResources fun _ orderly => { orderly with }
  | addDeviceRule allow kind major minor access =>
    rw [apply] at done
    split at done
    next => cases done
    next =>
      split at done
      next => cases done
      next letters =>
        cases done
        refine withResources fun _ orderly => { orderly with devices := ?_ }
        exact List.forall_mem_append.mpr
          ⟨orderly.devices, List.forall_mem_singleton.mpr fun empty => letters (.inl empty)⟩
  | clearDeviceRules =>
    cases done
    exact mapResources fun _ orderly => { orderly with devices := nofun }

end ResourcesEdit

/-! ### The filter on system calls -/

namespace Tidy

variable {rules rest : List SyscallRule}

/-- Some rules of a tidy list. -/
theorem of_sublist (tidy : Tidy rules) (sublist : rest.Sublist rules) : Tidy rest where
  names listed member := tidy.names listed (sublist.subset member)
  nodup := tidy.nodup.sublist sublist
  unconditional first member second member' :=
    tidy.unconditional first (sublist.subset member) second (sublist.subset member')

end Tidy

namespace Seccomp

variable {seccomp : Seccomp} {rules : List SyscallRule}

theorem orderly_default : (default : Seccomp).Orderly where
  tidy := .nil
  actions _ member := absurd member List.not_mem_nil

/-- Some rules of an orderly filter. -/
theorem Orderly.of_sublist (orderly : seccomp.Orderly) (sublist : rules.Sublist seccomp.syscalls) :
    Orderly { seccomp with syscalls := rules } where
  tidy := orderly.tidy.of_sublist sublist
  actions listed member := orderly.actions listed (sublist.subset member)

theorem Orderly.addRule (orderly : seccomp.Orderly) (rule : NameRule) :
    (seccomp.addRule rule).Orderly where
  tidy := by
    rw [Seccomp.addRule, decide]
    split
    next => exact orderly.tidy
    next => exact orderly.tidy.merge rule
  actions listed member := by
    rcases NameRule.mem_apply member with old | rfl
    · exact orderly.actions listed old
    · exact ⟨rule.action, rfl⟩

/-- **Merging rules** keeps a filter orderly. -/
theorem Orderly.addRules (orderly : seccomp.Orderly) (rules : List NameRule) :
    (seccomp.addRules rules).1.Orderly := by
  induction rules generalizing seccomp with
  | nil => exact orderly
  | cons rule rules hypothesis => exact hypothesis (orderly.addRule rule)

/-- Where each rule is kept or loses all its names, some rules are left. -/
theorem sublist_dropNameless {change : SyscallRule → SyscallRule}
    (each : ∀ listed ∈ rules, change listed = listed ∨ (change listed).names = []) :
    (dropNameless (rules.map change)).Sublist rules := by
  induction rules with
  | nil => exact .slnil
  | cons listed rules hypothesis =>
    obtain ⟨here, others⟩ := List.forall_mem_cons.mp each
    have rest := hypothesis others
    rw [dropNameless, List.map_cons, List.filter_cons]
    split
    next named =>
      rcases here with kept | nameless
      · rw [kept]
        exact rest.cons_cons listed
      · exact absurd nameless (of_decide_eq_true named)
    next => exact rest.cons listed

/-- A rule with a single name keeps it or has none left. -/
theorem removed_or_kept {listed : SyscallRule} {only : String} (single : listed.names = [only])
    (name : String) :
    { listed with names := listed.names.filter (· ≠ name) } = listed ∨
      listed.names.filter (· ≠ name) = [] := by
  by_cases same : only = name
  · exact .inr (by simp [single, same])
  · refine .inl ?_
    have kept : listed.names.filter (· ≠ name) = listed.names := by simp [single, same]
    rw [kept]

theorem Orderly.removeRule (orderly : seccomp.Orderly) (rule : NameRule) :
    (seccomp.removeRule rule).Orderly := by
  refine orderly.of_sublist (sublist_dropNameless fun listed member => ?_)
  obtain ⟨only, single⟩ := orderly.tidy.names listed member
  split
  next => exact removed_or_kept single rule.name
  next => exact .inl rfl

theorem Orderly.removeRules (orderly : seccomp.Orderly) (rules : List NameRule) :
    (rules.foldl Seccomp.removeRule seccomp).Orderly := by
  induction rules generalizing seccomp with
  | nil => exact orderly
  | cons rule rules hypothesis => exact hypothesis (orderly.removeRule rule)

theorem Orderly.removeName (orderly : seccomp.Orderly) (name : String) :
    (seccomp.removeName name).Orderly := by
  refine orderly.of_sublist (sublist_dropNameless fun listed member => ?_)
  obtain ⟨only, single⟩ := orderly.tidy.names listed member
  exact removed_or_kept single name

theorem Orderly.removeAction (orderly : seccomp.Orderly) (action : SeccompAction) :
    (seccomp.removeAction action).Orderly :=
  orderly.of_sublist List.filter_sublist

end Seccomp

theorem SeccompEdit.orderly {edit : SeccompEdit} {decisions : List Decision}
    (orderly : config.Orderly) (done : edit.apply config = .ok (after, decisions)) :
    after.Orderly := by
  have applied : (edit.apply config).map Prod.fst = .ok after := by rw [done]; rfl
  refine orderly.of_confined edit.confined applied (List.forall_mem_singleton.mpr ?_)
  have withSeccomp {change : Seccomp → Seccomp}
      (kept : ∀ seccomp : Seccomp, seccomp.Orderly → (change seccomp).Orderly) :
      (config.withSeccomp change).OrderlyIn (.linux .seccomp) := by
    refine orderlyIn_withLinux orderly fun linux orderly => ?_
    rintro _ ⟨⟩
    refine kept _ ?_
    cases given : linux.seccomp with
    | none => exact Seccomp.orderly_default
    | some seccomp => exact orderly.seccomp seccomp given
  have mapSeccomp {change : Seccomp → Seccomp}
      (kept : ∀ seccomp : Seccomp, seccomp.Orderly → (change seccomp).Orderly) :
      (config.mapSeccomp change).OrderlyIn (.linux .seccomp) := by
    refine orderlyIn_mapLinux orderly fun linux orderly seccomp given => ?_
    obtain ⟨old, before, rfl⟩ := Option.map_eq_some_iff.mp given
    exact kept old (orderly.seccomp old before)
  cases edit with
  | setDefault _ | addArch _ =>
    obtain ⟨_, _, equal⟩ := exists_of_bind_eq_ok done
    cases equal
    exact withSeccomp fun _ orderly => { orderly with }
  | setDefaultForce _ =>
    obtain ⟨action, _, equal⟩ := exists_of_bind_eq_ok done
    cases equal
    exact withSeccomp fun _ orderly => { orderly.removeAction action with }
  | removeArch _ =>
    obtain ⟨_, _, equal⟩ := exists_of_bind_eq_ok done
    cases equal
    exact mapSeccomp fun _ orderly => { orderly with }
  | clearArches =>
    cases done
    exact mapSeccomp fun _ orderly => { orderly with }
  | addRules _ =>
    obtain ⟨rules, _, equal⟩ := exists_of_bind_eq_ok done
    cases equal
    exact withSeccomp fun _ orderly => orderly.addRules rules
  | removeRule rule =>
    cases done
    exact mapSeccomp fun _ orderly => orderly.removeRule rule
  | removeRules _ =>
    obtain ⟨rules, _, equal⟩ := exists_of_bind_eq_ok done
    cases equal
    exact mapSeccomp fun _ orderly => orderly.removeRules rules
  | removeName name =>
    cases done
    exact mapSeccomp fun _ orderly => orderly.removeName name
  | removeAction _ =>
    obtain ⟨action, _, equal⟩ := exists_of_bind_eq_ok done
    cases equal
    exact mapSeccomp fun _ orderly => orderly.removeAction action
  | clearRules =>
    cases done
    exact mapSeccomp fun _ orderly => orderly.of_sublist (List.nil_sublist _)

end OciBundle
