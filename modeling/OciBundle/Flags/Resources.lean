/-
**Flags about the limits of control groups.**

* `ResourcesFlags.table`: the flags.
* `ResourcesFlags.steps`: what they ask for.
* `ResourcesFlags.readWeight`, `ResourcesFlags.readPriority`, `ResourcesFlags.readRule`: the values
  with a notation of their own.
-/

import OciBundle.CommandLine.Reading
import OciBundle.Flags.Step

namespace OciBundle

/-- Flags about the limits of control groups. -/
structure ResourcesFlags where
  cpuShares : Option UInt64
  cpuQuota : Option Int64
  cpuPeriod : Option UInt64
  cpuRealtimeRuntime : Option Int64
  cpuRealtimePeriod : Option UInt64
  cpus : Option String
  mems : Option String
  memoryLimit : Option Int64
  memoryReservation : Option Int64
  memorySwap : Option Int64
  memoryKernel : Option Int64
  memoryKernelTcp : Option Int64
  memorySwappiness : Option UInt64
  disableOomKiller : Option Bool
  pidsLimit : Option Int64
  blockIoWeight : Option UInt16
  blockIoLeafWeight : Option UInt16
  weightDevices : List String
  readBps : List String
  writeBps : List String
  readIops : List String
  writeIops : List String
  hugepageLimits : List String
  networkClassId : Option UInt32
  networkPriorities : List String
  deviceRules : List String
  deriving DecidableEq, Inhabited

namespace ResourcesFlags

/-- The flags. -/
def table : List (Flag ResourcesFlags) := [
  .number "cpu-shares" fun value flags => { flags with cpuShares := some value },
  .signed "cpu-quota" fun value flags => { flags with cpuQuota := some value },
  .number "cpu-period" fun value flags => { flags with cpuPeriod := some value },
  .signed "cpu-rt-runtime" fun value flags => { flags with cpuRealtimeRuntime := some value },
  .number "cpu-rt-period" fun value flags => { flags with cpuRealtimePeriod := some value },
  .text "cpus" fun value flags => { flags with cpus := some value },
  .text "mems" fun value flags => { flags with mems := some value },
  .signed "memory-limit" fun value flags => { flags with memoryLimit := some value },
  .signed "memory-reservation" fun value flags => { flags with memoryReservation := some value },
  .signed "memory-swap" fun value flags => { flags with memorySwap := some value },
  .signed "memory-kernel" fun value flags => { flags with memoryKernel := some value },
  .signed "memory-kernel-tcp" fun value flags => { flags with memoryKernelTcp := some value },
  .number "memory-swappiness" fun value flags => { flags with memorySwappiness := some value },
  .bool "disable-oom-kill" fun value flags => { flags with disableOomKiller := some value },
  .signed "pids-limit" fun value flags => { flags with pidsLimit := some value },
  .number "blkio-weight" fun value flags => { flags with blockIoWeight := some value },
  .number "blkio-leaf-weight" fun value flags => { flags with blockIoLeafWeight := some value },
  .texts "blkio-weight-device" fun value flags =>
    { flags with weightDevices := flags.weightDevices ++ [value] },
  .texts "blkio-read-bps-device" fun value flags =>
    { flags with readBps := flags.readBps ++ [value] },
  .texts "blkio-write-bps-device" fun value flags =>
    { flags with writeBps := flags.writeBps ++ [value] },
  .texts "blkio-read-iops-device" fun value flags =>
    { flags with readIops := flags.readIops ++ [value] },
  .texts "blkio-write-iops-device" fun value flags =>
    { flags with writeIops := flags.writeIops ++ [value] },
  .texts "hugepage-limit" fun value flags =>
    { flags with hugepageLimits := flags.hugepageLimits ++ [value] },
  .number "network-classid" fun value flags => { flags with networkClassId := some value },
  .texts "network-priority" fun value flags =>
    { flags with networkPriorities := flags.networkPriorities ++ [value] },
  .texts "device-cgroup" fun value flags =>
    { flags with deviceRules := flags.deviceRules ++ [value] }]

/-- Reads `MAJOR:MINOR:VALUE`. -/
def readDeviceValue (subject input : String) : Except Failure DeviceValue :=
  (DeviceValue.read subject input).mapError fun fault => .because fault.message

/-- Reads `MAJOR:MINOR:WEIGHT`. -/
def readWeight (input : String) : Except Failure (Int64 × Int64 × UInt16) := do
  let device ← readDeviceValue "blkio weight device" input
  match Word.ofInt? (Word.toInt device.value) with
  | some weight => return (device.major, device.minor, weight)
  | none => throw (FlagText.wrong "--blkio-weight-device" input "weight out of range")

/-- Reads `NAME:PRIORITY`. -/
def readPriority (input : String) : Except Failure (String × UInt32) := do
  let (name, value) ← FlagText.readNamedNumber "--network-priority" input
  match Word.ofInt? (Word.toInt value) with
  | some priority => return (name, priority)
  | none => throw (FlagText.wrong "--network-priority" input "priority out of range")

/-- Reads a number of a device rule; a star stands for all. -/
def readRuleNumber (input field : String) : Except Failure (Option Int64) :=
  if field = "*" then .ok none
  else (FlagText.readNumber "--device-cgroup" input field).map some

/-- Reads `allow|deny` of a device rule. -/
def readPolicy (input policy : String) : Except Failure Bool :=
  if policy = "allow" then .ok true
  else if policy = "deny" then .ok false
  else .error (FlagText.wrong "--device-cgroup" input ("unknown policy " ++ Text.quoted policy))

/-- Reads `allow|deny:TYPE[:MAJOR:MINOR]:ACCESS`. -/
def readRule (input : String) : Except Failure ResourcesEdit :=
  match Text.fields ':' input with
  | [policy, kind, access] => do
    let allow ← readPolicy input policy
    return .addDeviceRule allow kind none none access
  | [policy, kind, major, minor, access] => do
    let allow ← readPolicy input policy
    let major ← readRuleNumber input major
    let minor ← readRuleNumber input minor
    return .addDeviceRule allow kind major minor access
  | _ =>
    .error (FlagText.wrong "--device-cgroup" input
      "expected allow|deny:TYPE[:MAJOR:MINOR]:ACCESS")

/-- What the rate limits of one list ask for. -/
def throttleSteps (throttle : Throttle) (flag subject : String) (inputs : List String) :
    List Step :=
  inputs.map fun input =>
    .ofRead (readDeviceValue subject input) fun device =>
      .edit (flag ++ " " ++ input)
        (.resources (.putThrottleDevice throttle device.major device.minor device.value))

/-- What the flags about processor time and memory ask for. -/
def cpuMemorySteps (flags : ResourcesFlags) : List Step :=
  Step.ofOption "--cpu-shares" (.resources ∘ .setCpuShares) flags.cpuShares
    ++ Step.ofOption "--cpu-quota" (.resources ∘ .setCpuQuota) flags.cpuQuota
    ++ Step.ofOption "--cpu-period" (.resources ∘ .setCpuPeriod) flags.cpuPeriod
    ++ Step.ofOption "--cpu-rt-runtime" (.resources ∘ .setCpuRealtimeRuntime)
      flags.cpuRealtimeRuntime
    ++ Step.ofOption "--cpu-rt-period" (.resources ∘ .setCpuRealtimePeriod) flags.cpuRealtimePeriod
    ++ Step.ofOption "--cpus" (.resources ∘ .setCpuCpus) flags.cpus
    ++ Step.ofOption "--mems" (.resources ∘ .setCpuMems) flags.mems
    ++ Step.ofOption "--memory-limit" (.resources ∘ .setMemoryLimit) flags.memoryLimit
    ++ Step.ofOption "--memory-reservation" (.resources ∘ .setMemoryReservation)
      flags.memoryReservation
    ++ Step.ofOption "--memory-swap" (.resources ∘ .setMemorySwap) flags.memorySwap
    ++ Step.ofOption "--memory-kernel" (.resources ∘ .setMemoryKernel) flags.memoryKernel
    ++ Step.ofOption "--memory-kernel-tcp" (.resources ∘ .setMemoryKernelTcp) flags.memoryKernelTcp
    ++ Step.ofOption "--memory-swappiness" (.resources ∘ .setMemorySwappiness)
      flags.memorySwappiness
    ++ Step.ofOption "--disable-oom-kill" (.resources ∘ .setMemoryDisableOomKiller)
      flags.disableOomKiller

/-- What the flags about block devices ask for. -/
def blockIoSteps (flags : ResourcesFlags) : List Step :=
  Step.ofOption "--blkio-weight" (.resources ∘ .setBlockIoWeight) flags.blockIoWeight
    ++ Step.ofOption "--blkio-leaf-weight" (.resources ∘ .setBlockIoLeafWeight)
      flags.blockIoLeafWeight
    ++ flags.weightDevices.map (fun input =>
      .ofRead (readWeight input) fun (major, minor, weight) =>
        .edit ("--blkio-weight-device " ++ input)
          (.resources (.putWeightDevice major minor (some weight) none)))
    ++ throttleSteps .readBps "--blkio-read-bps-device" "blkio read bps device" flags.readBps
    ++ throttleSteps .writeBps "--blkio-write-bps-device" "blkio write bps device" flags.writeBps
    ++ throttleSteps .readIops "--blkio-read-iops-device" "blkio read iops device" flags.readIops
    ++ throttleSteps .writeIops "--blkio-write-iops-device" "blkio write iops device"
      flags.writeIops

/-- What the flags ask for. -/
def steps (flags : ResourcesFlags) : List Step :=
  flags.cpuMemorySteps
    ++ Step.ofOption "--pids-limit" (.resources ∘ .setPidsLimit) flags.pidsLimit
    ++ flags.blockIoSteps
    ++ flags.hugepageLimits.map (fun input =>
      .ofRead (FlagText.readNamedNumber "--hugepage-limit" input) fun (pageSize, limit) =>
        .edit ("--hugepage-limit " ++ input) (.resources (.putHugepageLimit pageSize limit)))
    ++ Step.ofOption "--network-classid" (.resources ∘ .setNetworkClassId) flags.networkClassId
    ++ flags.networkPriorities.map (fun input =>
      .ofRead (readPriority input) fun (name, priority) =>
        .edit ("--network-priority " ++ input) (.resources (.putNetworkPriority name priority)))
    ++ flags.deviceRules.map (fun input =>
      .ofRead (readRule input) fun change =>
        .edit ("--device-cgroup " ++ input) (.resources change))

end ResourcesFlags

end OciBundle
