/-
**Edits in place.**

Each edit checks what it is given before it makes parts and writes to them, in the order of its
steps here.

* `GeneralEdit.perform`, `ProcessEdit.perform`, …: the programs of the edits.
* `NameRule.perform`: the program that merges a single rule.
-/

import OciBundle.Edit.General
import OciBundle.Edit.Linux
import OciBundle.Edit.Process
import OciBundle.Edit.Resources
import OciBundle.Edit.Seccomp
import OciBundle.InPlace.Basic

namespace OciBundle

open InPlace (check demand refuse write onLinux onResources onCpu onMemory onBlockIo onNetwork
  onSeccomp onHooks)

/-! ### General edits -/

/-- The program of an edit of what a configuration says in general. -/
def GeneralEdit.perform : GeneralEdit → InPlace Unit
  | .setVersion version => do
    demand (isVersion version) (.malformed "version" version "expected N.N.N")
    write ({ · with version })
  | .setHostname hostname => write ({ · with hostname })
  | .setPlatformOs os => do
    let os ← check (UnknownWord.lift (Vocabulary.read OperatingSystem os))
    write fun config => { config with platform := { config.platform with os := os.text } }
  | .setPlatformArch arch => do
    let config ← get
    demand (archFits config.platform.os arch) (.unrecognized "architecture" arch)
    write fun config => { config with platform := { config.platform with arch } }
  | .annotate key value => do
    refuse (key = "") (.malformed "annotation" value "empty key")
    write fun config => { config with annotations := config.annotations.insert key value }
  | .unannotate key =>
    write fun config => { config with annotations := config.annotations.erase key }
  | .clearAnnotations => write ({ · with annotations := .empty })
  | .setRootPath path => write fun config => { config with root := { config.root with path } }
  | .setRootReadonly readonly =>
    write fun config => { config with root := { config.root with readonly } }

/-! ### The process -/

namespace ProcessEdit

/-- Changes the process. -/
def onProcess (change : Process → Process) : InPlace Unit :=
  write (·.mapProcess change)

/-- The program that sets a variable in place of the one with its key, or at the end. -/
def performEnv (key value : String) : InPlace Unit := do
  refuse (key = "" ∨ key.toList.contains '=')
    (.malformed "env" key "key must be non-empty and must not contain '='")
  onProcess fun process =>
    { process with env := Keyed.put (isEnvOf key) (key ++ "=" ++ value) process.env }

/-- The program of an edit of the process. -/
def perform (host : Option Host) : ProcessEdit → InPlace Unit
  | .setUid uid => onProcess fun process => { process with user := { process.user with uid } }
  | .setGid gid => onProcess fun process => { process with user := { process.user with gid } }
  | .setUsername username =>
    onProcess fun process => { process with user := { process.user with username } }
  | .addAdditionalGid gid =>
    onProcess fun process =>
      { process with user := { process.user with
        additionalGids := Keyed.addNew gid process.user.additionalGids } }
  | .clearAdditionalGids =>
    onProcess fun process => { process with user := { process.user with additionalGids := [] } }
  | .setCwd cwd => do
    demand (Text.isAbsolute cwd) (.conflict (.relativeCwd cwd))
    onProcess ({ · with cwd })
  | .setArgs args => onProcess ({ · with args })
  | .setTerminal terminal => onProcess ({ · with terminal })
  | .setConsoleSize height width => onProcess ({ · with consoleSize := some { height, width } })
  | .setNoNewPrivileges noNewPrivileges => onProcess ({ · with noNewPrivileges })
  | .setSelinuxLabel label => onProcess ({ · with selinuxLabel := label })
  | .setApparmorProfile profile => onProcess ({ · with apparmorProfile := profile })
  | .setOomScoreAdj score => do
    demand (-1000 ≤ score ∧ score ≤ 1000) (.conflict (.oomScoreOutOfRange score))
    onProcess ({ · with oomScoreAdj := some score })
  | .addEnv key value => performEnv key value
  | .addEnvPair pair =>
    match Text.cut '=' pair with
    | some (key, value) => performEnv key value
    | none => check (.error (.malformed "env" pair "expected KEY=VALUE"))
  | .removeEnv key =>
    onProcess fun process =>
      { process with env := process.env.filter fun entry => !isEnvOf key entry }
  | .clearEnv => onProcess ({ · with env := [] })
  | .addCapability name => do
    let capability := Capability.normalize name
    check (Capability.check capability host)
    onProcess fun process =>
      { process with capabilities := Keyed.addNew capability process.capabilities }
  | .dropCapability name => do
    let capability := Capability.normalize name
    check (Capability.check capability none)
    onProcess fun process =>
      { process with capabilities := process.capabilities.filter (· ≠ capability) }
  | .clearCapabilities => onProcess ({ · with capabilities := [] })
  | .addRlimit kind hard soft => do
    refuse (¬ rlimitKinds.contains kind) (.unrecognized "rlimit" kind)
    refuse (soft > hard) (.conflict (.softLimitExceedsHard kind soft hard))
    onProcess fun process =>
      { process with rlimits := Keyed.put (·.kind = kind) { kind, hard, soft } process.rlimits }
  | .removeRlimit kind =>
    onProcess fun process => { process with rlimits := process.rlimits.filter (·.kind ≠ kind) }
  | .clearRlimits => onProcess ({ · with rlimits := [] })
  | .setPrivileged => do
    let capabilities := Capability.available host
    onProcess ({ · with capabilities })
    onProcess ({ · with selinuxLabel := "" })
    onProcess ({ · with apparmorProfile := "" })
    write (·.mapLinux ({ · with seccomp := none }))

end ProcessEdit

/-! ### Mounts and hooks -/

namespace MountEdit

/-- The program that appends a mount, whose destination has to be absolute. -/
def performAppend (mount : Mount) : InPlace Unit := do
  check (requireAbsolute "mount destination" mount.destination)
  write fun config => { config with mounts := config.mounts ++ [mount] }

/-- The program of an edit of the mounts. -/
def perform : MountEdit → InPlace Unit
  | .add mount => performAppend mount
  | .addTmpfs input => do performAppend (← check (ParseFault.lift (Mount.readTmpfs input)))
  | .addBind input => do performAppend (← check (ParseFault.lift (Mount.readBind input)))
  | .addCgroup policy =>
    if policy = "no" then return
    else if policy = "ro" ∨ policy = "rw" then performAppend (cgroupMount policy)
    else check (.error (.unrecognized "cgroup mount policy" policy))
  | .remove destination =>
    write fun config => { config with mounts := config.mounts.filter (·.destination ≠ destination) }
  | .clear => write ({ · with mounts := [] })

end MountEdit

namespace HookEdit

/-- The program that appends a hook, whose path has to be absolute. -/
def performAppend (stage : HookStage) (hook : Hook) : InPlace Unit := do
  check (requireAbsolute "hook path" hook.path)
  onHooks (·.mapStage stage (· ++ [hook]))

/-- The program that changes the first hook with a path, or appends a new one. -/
def performChange (stage : HookStage) (path : String) (update : Hook → Hook) : InPlace Unit :=
  onHooks (·.mapStage stage (Keyed.change (·.path = path) update (update (.ofPath path))))

/-- The program of an edit of the hooks. -/
def perform : HookEdit → InPlace Unit
  | .add stage hook => performAppend stage hook
  | .addText stage input => do
    performAppend stage (← check (ParseFault.lift (Hook.read input)))
  | .addEnv stage path pair => do
    check (requireAbsolute "hook path" path)
    match envKey? pair with
    | none => check (.error (.malformed "hook env" pair "expected KEY=VALUE"))
    | some key =>
      performChange stage path fun hook =>
        { hook with env := Keyed.put (Text.startsWith (key ++ "=")) pair hook.env }
  | .addTimeout stage path timeout => do
    check (requireAbsolute "hook path" path)
    refuse (timeout ≤ 0) (.conflict (.hookTimeoutNotPositive timeout))
    performChange stage path ({ · with timeout := some timeout })
  | .clear stage => write (·.mapHooks (·.mapStage stage fun _ => []))

end HookEdit

/-! ### Linux -/

namespace LinuxEdit

/-- Changes what is configured for Linux where there is something. -/
def whereLinux (change : Linux → Linux) : InPlace Unit :=
  write (·.mapLinux change)

/-- The program that appends a mapping, unless the kernel takes no more. -/
def performMapping (kind : IdKind) (mapping : IdMapping) : InPlace Unit := do
  let config ← get
  let count := ((config.linux.map fun linux => kind.mappings linux).getD []).length
  refuse (maxIdMappings ≤ count) (.conflict (.tooManyIdMappings kind.name maxIdMappings))
  onLinux fun linux => kind.setMappings linux (kind.mappings linux ++ [mapping])

/-- The program of an edit of what is configured for Linux. -/
def perform : LinuxEdit → InPlace Unit
  | .putNamespace kind path => do
    let kind ← check (readKind kind)
    onLinux fun linux =>
      { linux with
        namespaces := Keyed.put (·.kind = kind.text) { kind := kind.text, path } linux.namespaces }
  | .removeNamespace kind => do
    let kind ← check (readKind kind)
    whereLinux fun linux =>
      { linux with namespaces := linux.namespaces.filter (·.kind ≠ kind.text) }
  | .clearNamespaces => whereLinux ({ · with namespaces := [] })
  | .addIdMapping kind mapping => performMapping kind mapping
  | .addIdMappingText kind input => do
    performMapping kind (← check (ParseFault.lift (IdMapping.read input)))
  | .clearIdMappings kind => whereLinux fun linux => kind.setMappings linux []
  | .addSysctl key value => do
    refuse (key = "") (.malformed "sysctl" value "empty key")
    onLinux fun linux => { linux with sysctl := linux.sysctl.insert key value }
  | .removeSysctl key => whereLinux fun linux => { linux with sysctl := linux.sysctl.erase key }
  | .clearSysctl => whereLinux ({ · with sysctl := .empty })
  | .putDevice device => do
    check (checkDevice device)
    onLinux fun linux =>
      { linux with devices := Keyed.put (·.path = device.path) device linux.devices }
  | .removeDevice path =>
    whereLinux fun linux => { linux with devices := linux.devices.filter (·.path ≠ path) }
  | .clearDevices => whereLinux ({ · with devices := [] })
  | .setRootfsPropagation propagation => do
    let propagation ← check ((Vocabulary.read Propagation propagation).mapError fun unknown =>
      .conflict (.unknownPropagation unknown))
    onLinux ({ · with rootfsPropagation := propagation.text })
  | .setCgroupsPath path => onLinux ({ · with cgroupsPath := some path })
  | .setMountLabel label => onLinux ({ · with mountLabel := label })
  | .addMaskedPath path => do
    check (requireAbsolute "masked path" path)
    onLinux fun linux => { linux with maskedPaths := Keyed.addNew path linux.maskedPaths }
  | .clearMaskedPaths => whereLinux ({ · with maskedPaths := [] })
  | .addReadonlyPath path => do
    check (requireAbsolute "readonly path" path)
    onLinux fun linux => { linux with readonlyPaths := Keyed.addNew path linux.readonlyPaths }
  | .clearReadonlyPaths => whereLinux ({ · with readonlyPaths := [] })

end LinuxEdit

/-! ### Resources -/

namespace ResourcesEdit

/-- Changes the limits where there are some. -/
def whereResources (change : Resources → Resources) : InPlace Unit :=
  write (·.mapResources change)

/-- The program of an edit of the limits of control groups. -/
def perform : ResourcesEdit → InPlace Unit
  | .setCpuShares shares => onCpu ({ · with shares := some shares })
  | .setCpuQuota quota => onCpu ({ · with quota := some quota })
  | .setCpuPeriod period => onCpu ({ · with period := some period })
  | .setCpuRealtimeRuntime runtime => onCpu ({ · with realtimeRuntime := some runtime })
  | .setCpuRealtimePeriod period => onCpu ({ · with realtimePeriod := some period })
  | .setCpuCpus cpus => onCpu ({ · with cpus })
  | .setCpuMems mems => onCpu ({ · with mems })
  | .setMemoryLimit limit => onMemory ({ · with limit := some limit })
  | .setMemoryReservation reservation => onMemory ({ · with reservation := some reservation })
  | .setMemorySwap swap => onMemory ({ · with swap := some swap })
  | .setMemoryKernel kernel => onMemory ({ · with kernel := some kernel })
  | .setMemoryKernelTcp kernelTcp => onMemory ({ · with kernelTcp := some kernelTcp })
  | .setMemorySwappiness swappiness => do
    demand (swappiness ≤ 100) (.conflict (.swappinessOutOfRange swappiness))
    onMemory ({ · with swappiness := some swappiness })
  | .setMemoryDisableOomKiller disable => onMemory ({ · with disableOomKiller := some disable })
  | .setPidsLimit limit => onResources ({ · with pids := some { limit } })
  | .setBlockIoWeight weight => do
    check (checkWeight "blkio weight" (some weight))
    onBlockIo ({ · with weight := some weight })
  | .setBlockIoLeafWeight weight => do
    check (checkWeight "blkio leaf weight" (some weight))
    onBlockIo ({ · with leafWeight := some weight })
  | .putWeightDevice major minor weight leafWeight => do
    check (checkWeight "blkio weight" weight)
    check (checkWeight "blkio leaf weight" leafWeight)
    onBlockIo fun limits =>
      { limits with
        weightDevices := Keyed.put (fun device => device.major = major && device.minor = minor)
          { major, minor, weight, leafWeight } limits.weightDevices }
  | .dropWeightDevice major minor =>
    whereResources (·.mapBlockIo fun limits =>
      { limits with
        weightDevices := limits.weightDevices.filter fun device =>
          !(device.major = major && device.minor = minor) })
  | .putThrottleDevice throttle major minor rate =>
    onBlockIo fun limits =>
      limits.mapThrottle throttle
        (Keyed.put (fun device => device.major = major && device.minor = minor)
          { major, minor, rate })
  | .dropThrottleDevice throttle major minor =>
    whereResources (·.mapBlockIo fun limits =>
      limits.mapThrottle throttle
        (List.filter fun device => !(device.major = major && device.minor = minor)))
  | .putHugepageLimit pageSize limit => do
    refuse (pageSize = "") (.malformed "hugepage limit" pageSize "empty page size")
    onResources fun limits =>
      { limits with
        hugepageLimits :=
          Keyed.put (·.pageSize = pageSize) { pageSize, limit } limits.hugepageLimits }
  | .dropHugepageLimit pageSize =>
    whereResources fun limits =>
      { limits with hugepageLimits := limits.hugepageLimits.filter (·.pageSize ≠ pageSize) }
  | .setNetworkClassId classId => onNetwork ({ · with classId := some classId })
  | .putNetworkPriority name priority => do
    refuse (name = "") (.malformed "network priority" name "empty interface name")
    onNetwork fun network =>
      { network with
        priorities := Keyed.put (·.name = name) { name, priority } network.priorities }
  | .dropNetworkPriority name =>
    whereResources (·.mapNetwork fun network =>
      { network with priorities := network.priorities.filter (·.name ≠ name) })
  | .addDeviceRule allow kind major minor access => do
    refuse (¬ isRuleKind kind) (.unrecognized "device cgroup type" kind)
    refuse (access = "" ∨ ¬ isAccess access)
      (.malformed "device cgroup access" access "expected a subset of rwm")
    onResources fun limits =>
      { limits with devices := limits.devices ++ [{ allow, kind, major, minor, access }] }
  | .clearDeviceRules => whereResources ({ · with devices := [] })

end ResourcesEdit

/-! ### The filter on system calls -/

namespace SeccompEdit

/-- Changes the filter on system calls where there is one. -/
def whereSeccomp (change : Seccomp → Seccomp) : InPlace Unit :=
  write (·.mapSeccomp change)

/-- Takes names out of rules, and then removes the rules that are left without names. -/
def strip (change : SyscallRule → SyscallRule) : InPlace Unit := do
  whereSeccomp fun seccomp => { seccomp with syscalls := seccomp.syscalls.map change }
  whereSeccomp fun seccomp => { seccomp with syscalls := Seccomp.dropNameless seccomp.syscalls }

end SeccompEdit

namespace NameRule

/-- The program that merges a single rule, and says what was decided. It is never rejected. -/
def perform (rule : NameRule) : InPlace Decision := do
  InPlace.makeSeccomp
  let config ← get
  let decision := (config.seccomp.getD default).decide rule
  SeccompEdit.whereSeccomp fun seccomp =>
    { seccomp with syscalls := rule.apply decision seccomp.syscalls }
  return decision

/-- The program that removes a rule's name from the rules with its action and conditions. -/
def performRemoval (rule : NameRule) : InPlace Unit :=
  SeccompEdit.strip fun listed =>
    if listed.action = rule.action.text ∧ listed.args = rule.args then
      { listed with names := listed.names.filter (· ≠ rule.name) }
    else listed

end NameRule

namespace SeccompEdit

/-- The program of an edit of the filter on system calls; rules are merged and removed one after the
other. -/
def perform : SeccompEdit → InPlace (List Decision)
  | .setDefault action => do
    let action ← check (ParseFault.lift (NameRule.readAction action))
    onSeccomp ({ · with defaultAction := action.text })
    return []
  | .setDefaultForce action => do
    let action ← check (ParseFault.lift (NameRule.readAction action))
    onSeccomp ({ · with defaultAction := action.text })
    whereSeccomp (·.removeAction action)
    return []
  | .addArch arch => do
    let arch ← check (ParseFault.lift (NameRule.readArch arch))
    onSeccomp fun seccomp =>
      { seccomp with architectures := Keyed.addNew arch.text seccomp.architectures }
    return []
  | .removeArch arch => do
    let arch ← check (ParseFault.lift (NameRule.readArch arch))
    whereSeccomp fun seccomp =>
      { seccomp with architectures := seccomp.architectures.filter (· ≠ arch.text) }
    return []
  | .clearArches => do
    whereSeccomp ({ · with architectures := [] })
    return []
  | .addRules input => do
    let rules ← check (ParseFault.lift (NameRule.readAll input))
    rules.mapM NameRule.perform
  | .removeRule rule => do
    rule.performRemoval
    return []
  | .removeRules input => do
    let rules ← check (ParseFault.lift (NameRule.readAll input))
    rules.forM NameRule.performRemoval
    return []
  | .removeName name => do
    strip fun listed => { listed with names := listed.names.filter (· ≠ name) }
    return []
  | .removeAction action => do
    let action ← check (ParseFault.lift (NameRule.readAction action))
    whereSeccomp (·.removeAction action)
    return []
  | .clearRules => do
    whereSeccomp ({ · with syscalls := [] })
    return []

end SeccompEdit

end OciBundle
