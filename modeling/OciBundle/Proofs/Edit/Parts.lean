/-
**Edits are about one part each.**

* `GeneralEdit.confined`, `MountEdit.confined`, …: the part that an edit looks at and changes.
* `ProcessEdit.confined`: the process, and for a privileged one the filter on system calls.
* `LinuxEdit.part`: namespaces and identity mappings, or the other settings.
-/

import OciBundle.Edit.General
import OciBundle.Edit.Linux
import OciBundle.Edit.Process
import OciBundle.Edit.Resources
import OciBundle.Edit.Seccomp
import OciBundle.Proofs.Config.Parts

namespace OciBundle

open Config (AgreeOn Confined confined_change confined_error confined_mapLinux confined_put
  confined_pure confined_withLinux)

/-! ### General settings -/

theorem GeneralEdit.confined (edit : GeneralEdit) :
    Confined [.general] (GeneralEdit.apply · edit) := by
  have changes {change : Config → Config}
      (puts : ∀ config, change config = .put .general (change (config.only .general)) config) :
      Confined [.general] fun config => (.ok (change config) : Except Rejection Config) :=
    confined_put false puts fun config => by rw [puts]; exact (Bool.or_false _).symm
  cases edit with
  | setVersion version => exact .ite (changes fun _ => rfl) confined_error
  | setPlatformOs os => exact .bind fun os => changes fun _ => rfl
  | setPlatformArch arch =>
    -- The architecture has to fit the operating system, which belongs to the same part.
    refine .guard (fun first second same => ?_) (changes fun _ => rfl) _
    have platform : first.platform = second.platform := by
      show (first.only .general).platform = (second.only .general).platform
      rw [same .general List.mem_cons_self]
    rw [platform]
  | annotate key value => exact .ite confined_error (changes fun _ => rfl)
  | setHostname _ | unannotate _ | clearAnnotations | setRootPath _ | setRootReadonly _ =>
    exact changes fun _ => rfl

/-! ### The process -/

theorem confined_mapProcess (change : Process → Process) :
    Confined [.process] fun config => (.ok (config.mapProcess change) : Except Rejection Config) :=
  confined_put false (fun _ => rfl) fun _ => (Bool.or_false _).symm

theorem ProcessEdit.confined_putEnv (key value : String) :
    Confined [.process] (ProcessEdit.putEnv · key value) :=
  .ite confined_error (confined_mapProcess _)

/-- The parts that an edit of the process is about. -/
def ProcessEdit.parts : ProcessEdit → List Config.Part
  | .setPrivileged => [.process, .linux .seccomp]
  | _ => [.process]

theorem confined_privileged (host : Option Host) :
    Confined [.process, .linux .seccomp] fun config =>
      (.ok (config.privileged host) : Except Rejection Config) := by
  have process := confined_mapProcess fun process =>
    { process with
      capabilities := Capability.available host
      selinuxLabel := ""
      apparmorProfile := "" }
  have filter : Confined [.linux .seccomp] fun config =>
      (.ok (config.mapLinux ({ · with seccomp := none })) : Except Rejection Config) :=
    confined_mapLinux (fun _ => rfl) rfl
  exact (process.mono (List.subset_append_left [_] _)).andThen
    (filter.mono (List.subset_append_right [_] _))

theorem ProcessEdit.confined (edit : ProcessEdit) (host : Option Host) :
    Confined edit.parts (ProcessEdit.apply host · edit) := by
  cases edit with
  | setCwd cwd => exact .ite (confined_mapProcess _) confined_error
  | setOomScoreAdj score => exact .ite (confined_mapProcess _) confined_error
  | addEnv key value => exact confined_putEnv key value
  | addEnvPair pair =>
    simp only [apply]
    split
    next => exact confined_putEnv _ _
    next => exact confined_error
  | addCapability name =>
    exact .bind (fun _ => confined_mapProcess _)
  | dropCapability name =>
    exact .bind fun _ => confined_mapProcess _
  | addRlimit kind hard soft =>
    exact .ite confined_error (.ite confined_error (confined_mapProcess _))
  | setPrivileged => exact confined_privileged host
  | setUid _ | setGid _ | setUsername _ | addAdditionalGid _ | clearAdditionalGids | setArgs _
  | setTerminal _ | setConsoleSize _ _ | setNoNewPrivileges _ | setSelinuxLabel _
  | setApparmorProfile _ | removeEnv _ | clearEnv | clearCapabilities | removeRlimit _
  | clearRlimits => exact confined_mapProcess _

/-! ### Mounts and hooks -/

theorem confined_mounts (change : List Mount → List Mount) :
    Confined [.mounts] fun config =>
      (.ok { config with mounts := change config.mounts } : Except Rejection Config) :=
  confined_put false (fun _ => rfl) fun _ => (Bool.or_false _).symm

theorem MountEdit.confined_append (mount : Mount) : Confined [.mounts] (MountEdit.append · mount) :=
  .bind fun _ => confined_mounts (· ++ [mount])

theorem MountEdit.confined (edit : MountEdit) : Confined [.mounts] (MountEdit.apply · edit) := by
  cases edit with
  | add mount => exact confined_append mount
  | addTmpfs input => exact .bind confined_append
  | addBind input => exact .bind confined_append
  | addCgroup policy =>
    exact .ite (confined_pure) (.ite (confined_append _) confined_error)
  | remove destination => exact confined_mounts (List.filter _)
  | clear => exact confined_mounts fun _ => []

theorem confined_hooks (change : Option Hooks → Option Hooks) :
    Confined [.hooks] fun config =>
      (.ok { config with hooks := change config.hooks } : Except Rejection Config) :=
  confined_put false (fun _ => rfl) fun _ => (Bool.or_false _).symm

theorem confined_withHooks (change : Hooks → Hooks) :
    Confined [.hooks] fun config => (.ok (config.withHooks change) : Except Rejection Config) :=
  confined_hooks fun hooks => some (change (hooks.getD default))

theorem HookEdit.confined (edit : HookEdit) : Confined [.hooks] (HookEdit.apply · edit) := by
  cases edit with
  | add stage hook => exact .bind fun _ => confined_withHooks _
  | addText stage input => exact .bind fun _ => .bind fun _ => confined_withHooks _
  | addEnv stage path pair =>
    refine .bind fun _ => ?_
    split
    next => exact confined_error
    next => exact confined_withHooks _
  | addTimeout stage path timeout =>
    exact .bind fun _ => .ite confined_error (confined_withHooks _)
  | clear stage => exact confined_hooks (Option.map _)

/-! ### Settings for Linux -/

/-- The part that an edit for Linux is about. -/
def LinuxEdit.part : LinuxEdit → Linux.Part
  | .putNamespace _ _ | .removeNamespace _ | .clearNamespaces | .addIdMapping _ _
  | .addIdMappingText _ _ | .clearIdMappings _ => .namespaces
  | _ => .settings

theorem LinuxEdit.confined_appendMapping (kind : IdKind) (mapping : IdMapping) :
    Confined [.linux .namespaces] (LinuxEdit.appendMapping · kind mapping) := by
  have changes : Confined [.linux .namespaces] fun config =>
      (.ok (config.withLinux fun linux =>
        kind.setMappings linux (kind.mappings linux ++ [mapping])) : Except Rejection Config) :=
    confined_withLinux fun _ => by cases kind <;> rfl
  refine changes.guard_not (fun first second same => ?_) _
  have listed (config : Config) :
      (config.linux.map fun linux => kind.mappings linux).getD [] =
        kind.mappings (config.only (.linux .namespaces)).linuxOrEmpty := by
    obtain ⟨_, _, _, _, _, _, _, _, linux⟩ := config
    cases kind <;> cases linux <;> rfl
  rw [listed first, listed second, same _ List.mem_cons_self]

theorem LinuxEdit.confined (edit : LinuxEdit) :
    Confined [.linux edit.part] (LinuxEdit.apply · edit) := by
  cases edit with
  | putNamespace kind path => exact .bind fun _ => confined_withLinux fun _ => rfl
  | removeNamespace kind => exact .bind fun _ => confined_mapLinux (fun _ => rfl) rfl
  | addIdMapping kind mapping => exact confined_appendMapping kind mapping
  | addIdMappingText kind input => exact .bind (confined_appendMapping kind)
  | clearIdMappings kind =>
    exact confined_mapLinux (fun _ => by cases kind <;> rfl) (by cases kind <;> rfl)
  | addSysctl key value => exact .ite confined_error (confined_withLinux fun _ => rfl)
  | putDevice device | addMaskedPath path | addReadonlyPath path =>
    exact .bind fun _ => confined_withLinux fun _ => rfl
  | setRootfsPropagation propagation =>
    simp only [apply]
    split
    next => exact confined_withLinux fun _ => rfl
    next => exact confined_error
  | setCgroupsPath _ | setMountLabel _ => exact confined_withLinux fun _ => rfl
  | clearNamespaces | removeSysctl _ | clearSysctl | removeDevice _ | clearDevices
  | clearMaskedPaths | clearReadonlyPaths => exact confined_mapLinux (fun _ => rfl) rfl

/-! ### Limits of control groups -/

theorem confined_withResources (change : Resources → Resources) :
    Confined [.linux .resources] fun config =>
      (.ok (config.withResources change) : Except Rejection Config) :=
  confined_withLinux fun _ => rfl

theorem confined_mapResources (change : Resources → Resources) :
    Confined [.linux .resources] fun config =>
      (.ok (config.mapResources change) : Except Rejection Config) :=
  confined_mapLinux (fun _ => rfl) rfl

theorem ResourcesEdit.confined (edit : ResourcesEdit) :
    Confined [.linux .resources] (ResourcesEdit.apply · edit) := by
  cases edit with
  | setMemorySwappiness swappiness => exact .ite (confined_withResources _) confined_error
  | setBlockIoWeight weight | setBlockIoLeafWeight weight =>
    exact .bind fun _ => confined_withResources _
  | putWeightDevice major minor weight leafWeight =>
    exact .bind fun _ => .bind fun _ => confined_withResources _
  | putHugepageLimit pageSize limit | putNetworkPriority name priority =>
    exact .ite confined_error (confined_withResources _)
  | addDeviceRule allow kind major minor access =>
    exact .ite confined_error (.ite confined_error (confined_withResources _))
  | dropWeightDevice _ _ | dropThrottleDevice _ _ _ | dropHugepageLimit _ | dropNetworkPriority _
  | clearDeviceRules => exact confined_mapResources _
  | setCpuShares _ | setCpuQuota _ | setCpuPeriod _ | setCpuRealtimeRuntime _
  | setCpuRealtimePeriod _ | setCpuCpus _ | setCpuMems _ | setMemoryLimit _
  | setMemoryReservation _ | setMemorySwap _ | setMemoryKernel _ | setMemoryKernelTcp _
  | setMemoryDisableOomKiller _ | setPidsLimit _ | putThrottleDevice _ _ _ _
  | setNetworkClassId _ => exact confined_withResources _

/-! ### The filter on system calls -/

theorem confined_withSeccomp (change : Seccomp → Seccomp) :
    Confined [.linux .seccomp] fun config =>
      (.ok (config.withSeccomp change) : Except Rejection Config) :=
  confined_withLinux fun _ => rfl

theorem confined_mapSeccomp (change : Seccomp → Seccomp) :
    Confined [.linux .seccomp] fun config =>
      (.ok (config.mapSeccomp change) : Except Rejection Config) :=
  confined_mapLinux (fun _ => rfl) rfl

theorem SeccompEdit.confined (edit : SeccompEdit) :
    Confined [.linux .seccomp] fun config => (edit.apply config).map Prod.fst := by
  have reads {α : Type} {step : Except Rejection α}
      {next : α → Config → Except Rejection (Config × List Decision)}
      (each : ∀ value, Confined [.linux .seccomp] fun config => (next value config).map Prod.fst) :
      Confined [.linux .seccomp] fun config =>
        (step >>= fun value => next value config).map Prod.fst := by
    cases step with
    | error fault => exact confined_error
    | ok value => exact each value
  cases edit with
  | setDefault _ | setDefaultForce _ | addArch _ | addRules _ =>
    exact reads fun _ => confined_withSeccomp _
  | removeArch _ | removeRules _ | removeAction _ => exact reads fun _ => confined_mapSeccomp _
  | clearArches | removeRule _ | removeName _ | clearRules => exact confined_mapSeccomp _

end OciBundle
