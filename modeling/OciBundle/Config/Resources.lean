/-
**Limits of the container's control groups.**

A limit without a value is not set.

* `Resources`: all limits.
* `DeviceRule`, `Memory`, `Cpu`, `Pids`, `BlockIo`, `HugepageLimit`, `Network`: its parts.
-/

import OciBundle.Json.Record

namespace OciBundle

open Json (Field Record)

/-- A rule on the use of devices. -/
structure DeviceRule where
  allow : Bool
  /-- Block devices `b`, character devices `c`, or all `a`. -/
  kind : String
  major : Option Int64
  minor : Option Int64
  /-- Letters of `r`, `w` and `m`. -/
  access : String
  deriving DecidableEq, Inhabited

instance : Record DeviceRule where
  fields := [
    .always "allow" (·.allow) fun value rule => { rule with allow := value },
    .unlessDefault "type" (·.kind) fun value rule => { rule with kind := value },
    .ifPresent "major" (·.major) fun value rule => { rule with major := value },
    .ifPresent "minor" (·.minor) fun value rule => { rule with minor := value },
    .unlessDefault "access" (·.access) fun value rule => { rule with access := value }]

/-- Limits on memory. -/
structure Memory where
  limit : Option Int64
  reservation : Option Int64
  swap : Option Int64
  kernel : Option Int64
  kernelTcp : Option Int64
  swappiness : Option UInt64
  disableOomKiller : Option Bool
  deriving DecidableEq, Inhabited

instance : Record Memory where
  fields := [
    .ifPresent "limit" (·.limit) fun value memory => { memory with limit := value },
    .ifPresent "reservation" (·.reservation)
      fun value memory => { memory with reservation := value },
    .ifPresent "swap" (·.swap) fun value memory => { memory with swap := value },
    .ifPresent "kernel" (·.kernel) fun value memory => { memory with kernel := value },
    .ifPresent "kernelTCP" (·.kernelTcp) fun value memory => { memory with kernelTcp := value },
    .ifPresent "swappiness" (·.swappiness) fun value memory => { memory with swappiness := value },
    .ifPresent "disableOOMKiller" (·.disableOomKiller)
      fun value memory => { memory with disableOomKiller := value }]

/-- Limits on processor time. -/
structure Cpu where
  shares : Option UInt64
  quota : Option Int64
  period : Option UInt64
  realtimeRuntime : Option Int64
  realtimePeriod : Option UInt64
  cpus : String
  mems : String
  deriving DecidableEq, Inhabited

instance : Record Cpu where
  fields := [
    .ifPresent "shares" (·.shares) fun value cpu => { cpu with shares := value },
    .ifPresent "quota" (·.quota) fun value cpu => { cpu with quota := value },
    .ifPresent "period" (·.period) fun value cpu => { cpu with period := value },
    .ifPresent "realtimeRuntime" (·.realtimeRuntime)
      fun value cpu => { cpu with realtimeRuntime := value },
    .ifPresent "realtimePeriod" (·.realtimePeriod)
      fun value cpu => { cpu with realtimePeriod := value },
    .unlessDefault "cpus" (·.cpus) fun value cpu => { cpu with cpus := value },
    .unlessDefault "mems" (·.mems) fun value cpu => { cpu with mems := value }]

/-- The limit on the number of processes. -/
structure Pids where
  limit : Int64
  deriving DecidableEq, Inhabited

instance : Record Pids where
  fields := [.always "limit" (·.limit) fun value pids => { pids with limit := value }]

/-- The weights of one block device. -/
structure WeightDevice where
  major : Int64
  minor : Int64
  weight : Option UInt16
  leafWeight : Option UInt16
  deriving DecidableEq, Inhabited

instance : Record WeightDevice where
  fields := [
    .always "major" (·.major) fun value device => { device with major := value },
    .always "minor" (·.minor) fun value device => { device with minor := value },
    .ifPresent "weight" (·.weight) fun value device => { device with weight := value },
    .ifPresent "leafWeight" (·.leafWeight) fun value device => { device with leafWeight := value }]

/-- The rate limit of one block device. -/
structure ThrottleDevice where
  major : Int64
  minor : Int64
  rate : UInt64
  deriving DecidableEq, Inhabited

instance : Record ThrottleDevice where
  fields := [
    .always "major" (·.major) fun value device => { device with major := value },
    .always "minor" (·.minor) fun value device => { device with minor := value },
    .always "rate" (·.rate) fun value device => { device with rate := value }]

/-- Limits on block devices. -/
structure BlockIo where
  weight : Option UInt16
  leafWeight : Option UInt16
  weightDevices : List WeightDevice
  readBps : List ThrottleDevice
  writeBps : List ThrottleDevice
  readIops : List ThrottleDevice
  writeIops : List ThrottleDevice
  deriving DecidableEq, Inhabited

instance : Record BlockIo where
  fields := [
    .ifPresent "weight" (·.weight) fun value limits => { limits with weight := value },
    .ifPresent "leafWeight" (·.leafWeight) fun value limits => { limits with leafWeight := value },
    .unlessDefault "weightDevice" (·.weightDevices)
      fun value limits => { limits with weightDevices := value },
    .unlessDefault "throttleReadBpsDevice" (·.readBps)
      fun value limits => { limits with readBps := value },
    .unlessDefault "throttleWriteBpsDevice" (·.writeBps)
      fun value limits => { limits with writeBps := value },
    .unlessDefault "throttleReadIOPSDevice" (·.readIops)
      fun value limits => { limits with readIops := value },
    .unlessDefault "throttleWriteIOPSDevice" (·.writeIops)
      fun value limits => { limits with writeIops := value }]

/-- The limit on huge pages of one size. -/
structure HugepageLimit where
  pageSize : String
  limit : UInt64
  deriving DecidableEq, Inhabited

instance : Record HugepageLimit where
  fields := [
    .always "pageSize" (·.pageSize) fun value limit => { limit with pageSize := value },
    .always "limit" (·.limit) fun value limit => { limit with limit := value }]

/-- The priority of one network interface. -/
structure InterfacePriority where
  name : String
  priority : UInt32
  deriving DecidableEq, Inhabited

instance : Record InterfacePriority where
  fields := [
    .always "name" (·.name) fun value entry => { entry with name := value },
    .always "priority" (·.priority) fun value entry => { entry with priority := value }]

/-- The class and the priorities of network traffic. -/
structure Network where
  classId : Option UInt32
  priorities : List InterfacePriority
  deriving DecidableEq, Inhabited

instance : Record Network where
  fields := [
    .ifPresent "classID" (·.classId) fun value network => { network with classId := value },
    .unlessDefault "priorities" (·.priorities)
      fun value network => { network with priorities := value }]

/-- All limits of the container's control groups. -/
structure Resources where
  devices : List DeviceRule
  memory : Option Memory
  cpu : Option Cpu
  pids : Option Pids
  blockIo : Option BlockIo
  hugepageLimits : List HugepageLimit
  network : Option Network
  deriving DecidableEq, Inhabited

instance : Record Resources where
  fields := [
    .unlessDefault "devices" (·.devices) fun value limits => { limits with devices := value },
    .ifPresent "memory" (·.memory) fun value limits => { limits with memory := value },
    .ifPresent "cpu" (·.cpu) fun value limits => { limits with cpu := value },
    .ifPresent "pids" (·.pids) fun value limits => { limits with pids := value },
    .ifPresent "blockIO" (·.blockIo) fun value limits => { limits with blockIo := value },
    .unlessDefault "hugepageLimits" (·.hugepageLimits)
      fun value limits => { limits with hugepageLimits := value },
    .ifPresent "network" (·.network) fun value limits => { limits with network := value }]

end OciBundle
