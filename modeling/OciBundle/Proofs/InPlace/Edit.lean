/-
**Edits in place do what edits do.**

The program of an edit leaves the configuration that the edit makes, with its decisions; or else it
is rejected for the same reason as the edit, and leaves the configuration as it was. So all checks
of a program stand before its first writing, and no part has been made when it is rejected.

* `InPlace.settle`: what is left of a configuration when a new one is made of it or not.
* `InPlace.outcome_bind`: what follows a step that is not rejected.
* `InPlace.outcome_check`, `InPlace.outcome_demand`, `InPlace.outcome_refuse`: programs that begin
  with a check.
* `GeneralEdit.outcome_perform`, `ProcessEdit.outcome_perform`, …: the programs of the edits.
-/

import OciBundle.InPlace.Edit

namespace OciBundle

namespace InPlace

variable {α β γ : Type} {rejection : Rejection} {config after : Config} {leave : γ → Config × α}

/-- What is left of a configuration, and the result: what is made of it, or else the configuration as
it was. -/
def settle (config : Config) (leave : γ → Config × α) :
    Except Rejection γ → Except Rejection α × Config
  | .ok made => (.ok (leave made).2, (leave made).1)
  | .error rejection => (.error rejection, config)

/-- What is left when a new configuration is all that is made. -/
def settled (config : Config) (result : Except Rejection Config) : Except Rejection Unit × Config :=
  settle config (·, ()) result

/-! ### Programs that go on -/

/-- What follows a step that is not rejected goes on with the configuration that it leaves. -/
theorem outcome_bind {program : InPlace α} {next : α → InPlace β} {value : α}
    (done : program.outcome config = (.ok value, after)) :
    (program >>= next).outcome config = (next value).outcome after := by
  show (ExceptT.bindCont next (program.outcome config).1).run (program.outcome config).2 = _
  rw [done]
  rfl

/-- Nothing follows a step that is rejected. -/
theorem outcome_bind_error {program : InPlace α} {next : α → InPlace β}
    (rejected : program.outcome config = (.error rejection, after)) :
    (program >>= next).outcome config = (.error rejection, after) := by
  show (ExceptT.bindCont next (program.outcome config).1).run (program.outcome config).2 = _
  rw [rejected]
  rfl

/-! ### Programs that begin with a check -/

theorem outcome_check {result : Except Rejection β} {next : β → InPlace α}
    {make : β → Except Rejection γ}
    (later : ∀ value, (next value).outcome config = settle config leave (make value)) :
    (check result >>= next).outcome config = settle config leave (result >>= make) := by
  cases result with
  | error rejection => rfl
  | ok value => exact later value

theorem outcome_demand {allowed : Prop} [Decidable allowed] {next : InPlace α}
    {made : Except Rejection γ} (later : next.outcome config = settle config leave made) :
    (demand allowed rejection >>= fun _ => next).outcome config =
      settle config leave (if allowed then made else .error rejection) := by
  unfold demand
  split
  next => exact later
  next => rfl

theorem outcome_refuse {wrong : Prop} [Decidable wrong] {next : InPlace α}
    {made : Except Rejection γ} (later : next.outcome config = settle config leave made) :
    (refuse wrong rejection >>= fun _ => next).outcome config =
      settle config leave (if wrong then .error rejection else made) := by
  unfold refuse
  split
  next => rfl
  next => exact later

end InPlace

open InPlace (settle settled outcome_check outcome_demand outcome_refuse)

variable {config : Config}

/-! ### General edits -/

theorem GeneralEdit.outcome_perform (edit : GeneralEdit) :
    edit.perform.outcome config = settled config (edit.apply config) := by
  cases edit with
  | setVersion version => exact outcome_demand rfl
  | setPlatformOs os => exact outcome_check fun _ => rfl
  | setPlatformArch arch => exact outcome_demand rfl
  | annotate key value => exact outcome_refuse rfl
  | setHostname _ | unannotate _ | clearAnnotations | setRootPath _ | setRootReadonly _ => rfl

/-! ### The process -/

namespace ProcessEdit

theorem outcome_performEnv (key value : String) :
    (performEnv key value).outcome config = settled config (putEnv config key value) :=
  outcome_refuse rfl

theorem outcome_perform (host : Option Host) (edit : ProcessEdit) :
    (edit.perform host).outcome config = settled config (edit.apply host config) := by
  cases edit with
  | setCwd cwd => exact outcome_demand rfl
  | setOomScoreAdj score => exact outcome_demand rfl
  | addEnv key value => exact outcome_performEnv key value
  | addEnvPair pair =>
    dsimp only [perform, apply]
    cases Text.cut '=' pair with
    | none => rfl
    | some parts => exact outcome_performEnv parts.1 parts.2
  | addCapability name => exact outcome_check fun _ => rfl
  | dropCapability name => exact outcome_check fun _ => rfl
  | addRlimit kind hard soft => exact outcome_refuse (outcome_refuse rfl)
  | setUid _ | setGid _ | setUsername _ | addAdditionalGid _ | clearAdditionalGids | setArgs _
  | setTerminal _ | setConsoleSize _ _ | setNoNewPrivileges _ | setSelinuxLabel _
  | setApparmorProfile _ | removeEnv _ | clearEnv | clearCapabilities | removeRlimit _
  | clearRlimits | setPrivileged => rfl

end ProcessEdit

/-! ### Mounts and hooks -/

namespace MountEdit

theorem outcome_performAppend (mount : Mount) :
    (performAppend mount).outcome config = settled config (append config mount) :=
  outcome_check fun _ => rfl

theorem outcome_perform (edit : MountEdit) :
    edit.perform.outcome config = settled config (edit.apply config) := by
  cases edit with
  | add mount => exact outcome_performAppend mount
  | addTmpfs input => exact outcome_check outcome_performAppend
  | addBind input => exact outcome_check outcome_performAppend
  | addCgroup policy =>
    dsimp only [perform, apply]
    split
    next => rfl
    next =>
      split
      next => exact outcome_performAppend _
      next => rfl
  | remove _ | clear => rfl

end MountEdit

namespace HookEdit

theorem outcome_performAppend (stage : HookStage) (hook : Hook) :
    (performAppend stage hook).outcome config = settled config (append config stage hook) :=
  outcome_check fun _ => rfl

theorem outcome_perform (edit : HookEdit) :
    edit.perform.outcome config = settled config (edit.apply config) := by
  cases edit with
  | add stage hook => exact outcome_performAppend stage hook
  | addText stage input => exact outcome_check (outcome_performAppend stage)
  | addEnv stage path pair =>
    refine outcome_check fun _ => ?_
    dsimp only
    cases envKey? pair with
    | none => rfl
    | some key => rfl
  | addTimeout stage path timeout => exact outcome_check fun _ => outcome_refuse rfl
  | clear stage => rfl

end HookEdit

/-! ### Linux -/

namespace LinuxEdit

theorem outcome_performMapping (kind : IdKind) (mapping : IdMapping) :
    (performMapping kind mapping).outcome config =
      settled config (appendMapping config kind mapping) :=
  outcome_refuse rfl

theorem outcome_perform (edit : LinuxEdit) :
    edit.perform.outcome config = settled config (edit.apply config) := by
  cases edit with
  | putNamespace kind path => exact outcome_check fun _ => rfl
  | removeNamespace kind => exact outcome_check fun _ => rfl
  | addIdMapping kind mapping => exact outcome_performMapping kind mapping
  | addIdMappingText kind input => exact outcome_check (outcome_performMapping kind)
  | addSysctl key value => exact outcome_refuse rfl
  | putDevice device => exact outcome_check fun _ => rfl
  | setRootfsPropagation propagation =>
    dsimp only [perform, apply]
    cases Vocabulary.read Propagation propagation with
    | error unknown => rfl
    | ok word => rfl
  | addMaskedPath path => exact outcome_check fun _ => rfl
  | addReadonlyPath path => exact outcome_check fun _ => rfl
  | clearNamespaces | clearIdMappings _ | removeSysctl _ | clearSysctl | removeDevice _
  | clearDevices | setCgroupsPath _ | setMountLabel _ | clearMaskedPaths | clearReadonlyPaths => rfl

end LinuxEdit

/-! ### Resources -/

theorem ResourcesEdit.outcome_perform (edit : ResourcesEdit) :
    edit.perform.outcome config = settled config (edit.apply config) := by
  cases edit with
  | setMemorySwappiness swappiness => exact outcome_demand rfl
  | setBlockIoWeight weight => exact outcome_check fun _ => rfl
  | setBlockIoLeafWeight weight => exact outcome_check fun _ => rfl
  | putWeightDevice major minor weight leafWeight =>
    exact outcome_check fun _ => outcome_check fun _ => rfl
  | putHugepageLimit pageSize limit => exact outcome_refuse rfl
  | putNetworkPriority name priority => exact outcome_refuse rfl
  | addDeviceRule allow kind major minor access => exact outcome_refuse (outcome_refuse rfl)
  | setCpuShares _ | setCpuQuota _ | setCpuPeriod _ | setCpuRealtimeRuntime _
  | setCpuRealtimePeriod _ | setCpuCpus _ | setCpuMems _ | setMemoryLimit _
  | setMemoryReservation _ | setMemorySwap _ | setMemoryKernel _ | setMemoryKernelTcp _
  | setMemoryDisableOomKiller _ | setPidsLimit _ | putThrottleDevice _ _ _ _
  | setNetworkClassId _ => rfl
  | dropWeightDevice _ _ | dropThrottleDevice _ _ _ | dropHugepageLimit _ | dropNetworkPriority _
  | clearDeviceRules => rfl

end OciBundle
