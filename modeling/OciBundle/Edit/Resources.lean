/-
**Edits of the limits of control groups.**

* `ResourcesEdit.apply`: the configuration after an edit. A limit that is set makes the part that
  holds it.
* `Throttle`: the four lists of rate limits of block devices.
-/

import OciBundle.Config.Update
import OciBundle.Keyed
import OciBundle.Rejection

namespace OciBundle

/-- The four lists of rate limits of block devices. -/
inductive Throttle where
  | readBps | writeBps | readIops | writeIops
  deriving DecidableEq

/-- Changes a list of rate limits. -/
def BlockIo.mapThrottle (limits : BlockIo) (throttle : Throttle)
    (change : List ThrottleDevice → List ThrottleDevice) : BlockIo :=
  match throttle with
  | .readBps => { limits with readBps := change limits.readBps }
  | .writeBps => { limits with writeBps := change limits.writeBps }
  | .readIops => { limits with readIops := change limits.readIops }
  | .writeIops => { limits with writeIops := change limits.writeIops }

/-- An edit of the limits of control groups. -/
inductive ResourcesEdit where
  | setCpuShares (shares : UInt64)
  | setCpuQuota (quota : Int64)
  | setCpuPeriod (period : UInt64)
  | setCpuRealtimeRuntime (runtime : Int64)
  | setCpuRealtimePeriod (period : UInt64)
  | setCpuCpus (cpus : String)
  | setCpuMems (mems : String)
  | setMemoryLimit (limit : Int64)
  | setMemoryReservation (reservation : Int64)
  | setMemorySwap (swap : Int64)
  | setMemoryKernel (kernel : Int64)
  | setMemoryKernelTcp (kernelTcp : Int64)
  | setMemorySwappiness (swappiness : UInt64)
  | setMemoryDisableOomKiller (disable : Bool)
  | setPidsLimit (limit : Int64)
  | setBlockIoWeight (weight : UInt16)
  | setBlockIoLeafWeight (weight : UInt16)
  | putWeightDevice (major minor : Int64) (weight leafWeight : Option UInt16)
  | dropWeightDevice (major minor : Int64)
  | putThrottleDevice (throttle : Throttle) (major minor : Int64) (rate : UInt64)
  | dropThrottleDevice (throttle : Throttle) (major minor : Int64)
  | putHugepageLimit (pageSize : String) (limit : UInt64)
  | dropHugepageLimit (pageSize : String)
  | setNetworkClassId (classId : UInt32)
  | putNetworkPriority (name : String) (priority : UInt32)
  | dropNetworkPriority (name : String)
  | addDeviceRule (allow : Bool) (kind : String) (major minor : Option Int64) (access : String)
  | clearDeviceRules
  deriving DecidableEq

/-- Changes the limits, which are made where they are missing. -/
def Config.withResources (change : Resources → Resources) (config : Config) : Config :=
  config.withLinux (·.withResources change)

/-- Changes the limits where there are some. -/
def Config.mapResources (change : Resources → Resources) (config : Config) : Config :=
  config.mapLinux (·.mapResources change)

namespace ResourcesEdit

/-- Checks a weight of block devices; messages call it by `what`. -/
def checkWeight (what : String) : Option UInt16 → Except Rejection Unit
  | none => .ok ()
  | some weight =>
    if 10 ≤ weight ∧ weight ≤ 1000 then .ok ()
    else .error (.conflict (.blockIoWeightOutOfRange what weight))

/-- Whether a text is a kind of devices that rules are about. -/
def isRuleKind (kind : String) : Bool :=
  kind = "a" || kind = "b" || kind = "c"

/-- Whether a text only has letters of device access. -/
def isAccess (access : String) : Bool :=
  access.toList.all fun letter => letter = 'r' || letter = 'w' || letter = 'm'

/-- The configuration after an edit. -/
def apply (config : Config) : ResourcesEdit → Except Rejection Config
  | .setCpuShares shares =>
    .ok (config.withResources (·.withCpu ({ · with shares := some shares })))
  | .setCpuQuota quota => .ok (config.withResources (·.withCpu ({ · with quota := some quota })))
  | .setCpuPeriod period =>
    .ok (config.withResources (·.withCpu ({ · with period := some period })))
  | .setCpuRealtimeRuntime runtime =>
    .ok (config.withResources (·.withCpu ({ · with realtimeRuntime := some runtime })))
  | .setCpuRealtimePeriod period =>
    .ok (config.withResources (·.withCpu ({ · with realtimePeriod := some period })))
  | .setCpuCpus cpus => .ok (config.withResources (·.withCpu ({ · with cpus })))
  | .setCpuMems mems => .ok (config.withResources (·.withCpu ({ · with mems })))
  | .setMemoryLimit limit =>
    .ok (config.withResources (·.withMemory ({ · with limit := some limit })))
  | .setMemoryReservation reservation =>
    .ok (config.withResources (·.withMemory ({ · with reservation := some reservation })))
  | .setMemorySwap swap => .ok (config.withResources (·.withMemory ({ · with swap := some swap })))
  | .setMemoryKernel kernel =>
    .ok (config.withResources (·.withMemory ({ · with kernel := some kernel })))
  | .setMemoryKernelTcp kernelTcp =>
    .ok (config.withResources (·.withMemory ({ · with kernelTcp := some kernelTcp })))
  | .setMemorySwappiness swappiness =>
    if swappiness ≤ 100 then
      .ok (config.withResources (·.withMemory ({ · with swappiness := some swappiness })))
    else .error (.conflict (.swappinessOutOfRange swappiness))
  | .setMemoryDisableOomKiller disable =>
    .ok (config.withResources (·.withMemory ({ · with disableOomKiller := some disable })))
  | .setPidsLimit limit => .ok (config.withResources ({ · with pids := some { limit } }))
  | .setBlockIoWeight weight => do
    checkWeight "blkio weight" (some weight)
    return config.withResources (·.withBlockIo ({ · with weight := some weight }))
  | .setBlockIoLeafWeight weight => do
    checkWeight "blkio leaf weight" (some weight)
    return config.withResources (·.withBlockIo ({ · with leafWeight := some weight }))
  | .putWeightDevice major minor weight leafWeight => do
    checkWeight "blkio weight" weight
    checkWeight "blkio leaf weight" leafWeight
    return config.withResources (·.withBlockIo fun limits =>
      { limits with
        weightDevices := Keyed.put (fun device => device.major = major && device.minor = minor)
          { major, minor, weight, leafWeight } limits.weightDevices })
  | .dropWeightDevice major minor =>
    .ok (config.mapResources (·.mapBlockIo fun limits =>
      { limits with
        weightDevices := limits.weightDevices.filter fun device =>
          !(device.major = major && device.minor = minor) }))
  | .putThrottleDevice throttle major minor rate =>
    .ok (config.withResources (·.withBlockIo fun limits =>
      limits.mapThrottle throttle
        (Keyed.put (fun device => device.major = major && device.minor = minor)
          { major, minor, rate })))
  | .dropThrottleDevice throttle major minor =>
    .ok (config.mapResources (·.mapBlockIo fun limits =>
      limits.mapThrottle throttle
        (List.filter fun device => !(device.major = major && device.minor = minor))))
  | .putHugepageLimit pageSize limit =>
    if pageSize = "" then .error (.malformed "hugepage limit" pageSize "empty page size")
    else
      .ok (config.withResources fun limits =>
        { limits with
          hugepageLimits :=
            Keyed.put (·.pageSize = pageSize) { pageSize, limit } limits.hugepageLimits })
  | .dropHugepageLimit pageSize =>
    .ok (config.mapResources fun limits =>
      { limits with hugepageLimits := limits.hugepageLimits.filter (·.pageSize ≠ pageSize) })
  | .setNetworkClassId classId =>
    .ok (config.withResources (·.withNetwork ({ · with classId := some classId })))
  | .putNetworkPriority name priority =>
    if name = "" then .error (.malformed "network priority" name "empty interface name")
    else
      .ok (config.withResources (·.withNetwork fun network =>
        { network with
          priorities := Keyed.put (·.name = name) { name, priority } network.priorities }))
  | .dropNetworkPriority name =>
    .ok (config.mapResources (·.mapNetwork fun network =>
      { network with priorities := network.priorities.filter (·.name ≠ name) }))
  | .addDeviceRule allow kind major minor access =>
    if ¬ isRuleKind kind then .error (.unrecognized "device cgroup type" kind)
    else if access = "" ∨ ¬ isAccess access then
      .error (.malformed "device cgroup access" access "expected a subset of rwm")
    else
      .ok (config.withResources fun limits =>
        { limits with devices := limits.devices ++ [{ allow, kind, major, minor, access }] })
  | .clearDeviceRules => .ok (config.mapResources ({ · with devices := [] }))

end ResourcesEdit

end OciBundle
