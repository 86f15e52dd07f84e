/-
**Outlines: what a configuration looks like, apart from its values.**

An outline names the members of every part in order, says which are mandatory, and shows of each
value only whether and how it can be empty.

* `Outline.walk`: all members with their paths, each before the ones below it.
* `Outline.missing`: the paths of the mandatory members that are empty.
* `Config.outline`: the outline of a configuration.
-/

import OciBundle.Config.Basic

namespace OciBundle

/-- Whether a member has to be given. -/
inductive Presence where
  | required | optional
  deriving DecidableEq

/-- What is seen of a value. -/
inductive Outline where
  /-- A number, a truth value, or a text that may be empty. -/
  | scalar
  | text (value : String)
  /-- A list whose items are not looked at. -/
  | values (size : Nat)
  /-- A list of parts. -/
  | parts (items : List Outline)
  | dict (size : Nat)
  /-- A part that is left out. -/
  | absent
  /-- An optional part that is there. -/
  | present (part : Outline)
  /-- A part with its members. -/
  | record (members : List (String × Presence × Outline))

namespace Outline

/-- The kind of a value, without what is below it. -/
inductive Shape where
  | scalar
  | text (value : String)
  /-- A list of a size, with the number of items that are looked at. -/
  | list (size walked : Nat)
  | dict (size : Nat)
  | optional (isThere : Bool)
  | record
  deriving DecidableEq

/-- Whether a value of the shape counts as not given. -/
def Shape.isEmpty : Shape → Bool
  | .text value => value = ""
  | .list size _ => size = 0
  | .dict size => size = 0
  | .optional isThere => !isThere
  | .scalar | .record => false

/-- The kind of a value. -/
def shape : Outline → Shape
  | .scalar => .scalar
  | .text value => .text value
  | .values size => .list size 0
  | .parts items => .list items.length items.length
  | .dict size => .dict size
  | .absent => .optional false
  | .present _ => .optional true
  | .record _ => .record

/-- A member that a walk comes by. -/
structure Visit where
  path : String
  presence : Presence
  shape : Shape
  deriving DecidableEq

/-- The path of a member below a path. -/
def memberPath (path name : String) : String :=
  if path = "" then name else path ++ "." ++ name

/-- The path of an item of a list. -/
def itemPath (path : String) (index : Nat) : String :=
  path ++ "[" ++ toString index ++ "]"

mutual

/-- The members below a value at a path. -/
def walk (path : String) : Outline → List Visit
  | .record members => walkMembers path members
  | .present part => walk path part
  | .parts items => walkItems path 0 items
  | _ => []

/-- The items of a list from an index on. -/
def walkItems (path : String) (index : Nat) : List Outline → List Visit
  | [] => []
  | item :: rest => walk (itemPath path index) item ++ walkItems path (index + 1) rest

/-- Members, each before what is below it. -/
def walkMembers (path : String) : List (String × Presence × Outline) → List Visit
  | [] => []
  | (name, presence, value) :: rest =>
    ⟨memberPath path name, presence, value.shape⟩ ::
      (walk (memberPath path name) value ++ walkMembers path rest)

end

/-- The paths of the mandatory members that are empty. -/
def missing (outline : Outline) : List String :=
  ((walk "" outline).filter fun visit => visit.presence = .required && visit.shape.isEmpty).map
    Visit.path

/-- A mandatory member. -/
def needs (name : String) (value : Outline) : String × Presence × Outline :=
  (name, .required, value)

/-- A member that may be left out. -/
def allows (name : String) (value : Outline) : String × Presence × Outline :=
  (name, .optional, value)

/-- A list of texts, numbers or parts that are not looked at. -/
def ofValues {α : Type} (items : List α) : Outline :=
  .values items.length

/-- A list of parts. -/
def ofParts {α : Type} (outline : α → Outline) (items : List α) : Outline :=
  .parts (items.map outline)

/-- An optional part. -/
def ofOption {α : Type} (outline : α → Outline) : Option α → Outline
  | none => .absent
  | some part => .present (outline part)

/-- A dictionary. -/
def ofDict (dict : Dict String) : Outline :=
  .dict dict.size

end Outline

open Outline

/-! ### The process -/

/-- The outline of a terminal's size. -/
def ConsoleSize.outline (_ : ConsoleSize) : Outline :=
  .record [needs "height" .scalar, needs "width" .scalar]

/-- The outline of a user. -/
def User.outline (user : User) : Outline :=
  .record [
    needs "uid" .scalar,
    needs "gid" .scalar,
    allows "additionalGids" (ofValues user.additionalGids),
    allows "username" (.text user.username)]

/-- The outline of a resource limit. -/
def Rlimit.outline (limit : Rlimit) : Outline :=
  .record [needs "type" (.text limit.kind), needs "hard" .scalar, needs "soft" .scalar]

/-- The outline of a process. -/
def Process.outline (process : Process) : Outline :=
  .record [
    allows "terminal" .scalar,
    allows "consoleSize" (ofOption ConsoleSize.outline process.consoleSize),
    needs "user" process.user.outline,
    needs "args" (ofValues process.args),
    allows "env" (ofValues process.env),
    needs "cwd" (.text process.cwd),
    allows "capabilities" (ofValues process.capabilities),
    allows "rlimits" (ofParts Rlimit.outline process.rlimits),
    allows "noNewPrivileges" .scalar,
    allows "apparmorProfile" (.text process.apparmorProfile),
    allows "oomScoreAdj" .scalar,
    allows "selinuxLabel" (.text process.selinuxLabel)]

/-! ### File systems and hooks -/

/-- The outline of a root file system. -/
def Root.outline (root : Root) : Outline :=
  .record [needs "path" (.text root.path), allows "readonly" .scalar]

/-- The outline of a mount. -/
def Mount.outline (mount : Mount) : Outline :=
  .record [
    needs "destination" (.text mount.destination),
    allows "type" (.text mount.kind),
    allows "source" (.text mount.source),
    allows "options" (ofValues mount.options)]

/-- The outline of a hook. -/
def Hook.outline (hook : Hook) : Outline :=
  .record [
    needs "path" (.text hook.path),
    allows "args" (ofValues hook.args),
    allows "env" (ofValues hook.env),
    allows "timeout" .scalar]

/-- The outline of the hooks. -/
def Hooks.outline (hooks : Hooks) : Outline :=
  .record [
    allows "prestart" (ofParts Hook.outline hooks.prestart),
    allows "poststart" (ofParts Hook.outline hooks.poststart),
    allows "poststop" (ofParts Hook.outline hooks.poststop)]

/-! ### Limits of control groups -/

/-- The outline of a rule on devices. -/
def DeviceRule.outline (rule : DeviceRule) : Outline :=
  .record [
    needs "allow" .scalar,
    allows "type" (.text rule.kind),
    allows "major" .scalar,
    allows "minor" .scalar,
    allows "access" (.text rule.access)]

/-- The outline of limits on memory. -/
def Memory.outline (_ : Memory) : Outline :=
  .record [
    allows "limit" .scalar,
    allows "reservation" .scalar,
    allows "swap" .scalar,
    allows "kernel" .scalar,
    allows "kernelTCP" .scalar,
    allows "swappiness" .scalar,
    allows "disableOOMKiller" .scalar]

/-- The outline of limits on processor time. -/
def Cpu.outline (cpu : Cpu) : Outline :=
  .record [
    allows "shares" .scalar,
    allows "quota" .scalar,
    allows "period" .scalar,
    allows "realtimeRuntime" .scalar,
    allows "realtimePeriod" .scalar,
    allows "cpus" (.text cpu.cpus),
    allows "mems" (.text cpu.mems)]

/-- The outline of the limit on processes. -/
def Pids.outline (_ : Pids) : Outline :=
  .record [needs "limit" .scalar]

/-- The outline of limits on block devices; the single devices are not looked at. -/
def BlockIo.outline (limits : BlockIo) : Outline :=
  .record [
    allows "weight" .scalar,
    allows "leafWeight" .scalar,
    allows "weightDevice" (ofValues limits.weightDevices),
    allows "throttleReadBpsDevice" (ofValues limits.readBps),
    allows "throttleWriteBpsDevice" (ofValues limits.writeBps),
    allows "throttleReadIOPSDevice" (ofValues limits.readIops),
    allows "throttleWriteIOPSDevice" (ofValues limits.writeIops)]

/-- The outline of a limit on huge pages. -/
def HugepageLimit.outline (limit : HugepageLimit) : Outline :=
  .record [needs "pageSize" (.text limit.pageSize), needs "limit" .scalar]

/-- The outline of an interface's priority. -/
def InterfacePriority.outline (entry : InterfacePriority) : Outline :=
  .record [needs "name" (.text entry.name), needs "priority" .scalar]

/-- The outline of the settings of network traffic. -/
def Network.outline (network : Network) : Outline :=
  .record [
    allows "classID" .scalar,
    allows "priorities" (ofParts InterfacePriority.outline network.priorities)]

/-- The outline of all limits. -/
def Resources.outline (limits : Resources) : Outline :=
  .record [
    allows "devices" (ofParts DeviceRule.outline limits.devices),
    allows "memory" (ofOption Memory.outline limits.memory),
    allows "cpu" (ofOption Cpu.outline limits.cpu),
    allows "pids" (ofOption Pids.outline limits.pids),
    allows "blockIO" (ofOption BlockIo.outline limits.blockIo),
    allows "hugepageLimits" (ofParts HugepageLimit.outline limits.hugepageLimits),
    allows "network" (ofOption Network.outline limits.network)]

/-! ### The filter on system calls -/

/-- The outline of a condition. -/
def ArgCondition.outline (condition : ArgCondition) : Outline :=
  .record [
    needs "index" .scalar,
    needs "value" .scalar,
    allows "valueTwo" .scalar,
    needs "op" (.text condition.operator)]

/-- The outline of a rule on system calls. -/
def SyscallRule.outline (rule : SyscallRule) : Outline :=
  .record [
    needs "names" (ofValues rule.names),
    needs "action" (.text rule.action),
    allows "args" (ofParts ArgCondition.outline rule.args)]

/-- The outline of a filter on system calls. -/
def Seccomp.outline (seccomp : Seccomp) : Outline :=
  .record [
    needs "defaultAction" (.text seccomp.defaultAction),
    allows "architectures" (ofValues seccomp.architectures),
    allows "syscalls" (ofParts SyscallRule.outline seccomp.syscalls)]

/-! ### Linux -/

/-- The outline of an identity mapping. -/
def IdMapping.outline (_ : IdMapping) : Outline :=
  .record [needs "hostID" .scalar, needs "containerID" .scalar, needs "size" .scalar]

/-- The outline of a namespace. -/
def Namespace.outline (entry : Namespace) : Outline :=
  .record [needs "type" (.text entry.kind), allows "path" (.text entry.path)]

/-- The outline of a device. -/
def Device.outline (device : Device) : Outline :=
  .record [
    needs "path" (.text device.path),
    needs "type" (.text device.kind),
    needs "major" .scalar,
    needs "minor" .scalar,
    allows "fileMode" .scalar,
    allows "uid" .scalar,
    allows "gid" .scalar]

/-- The outline of what is configured for Linux; a path of control groups may be empty. -/
def Linux.outline (linux : Linux) : Outline :=
  .record [
    allows "uidMappings" (ofParts IdMapping.outline linux.uidMappings),
    allows "gidMappings" (ofParts IdMapping.outline linux.gidMappings),
    allows "sysctl" (ofDict linux.sysctl),
    allows "resources" (ofOption Resources.outline linux.resources),
    allows "cgroupsPath" .scalar,
    allows "namespaces" (ofParts Namespace.outline linux.namespaces),
    allows "devices" (ofParts Device.outline linux.devices),
    allows "seccomp" (ofOption Seccomp.outline linux.seccomp),
    allows "rootfsPropagation" (.text linux.rootfsPropagation),
    allows "maskedPaths" (ofValues linux.maskedPaths),
    allows "readonlyPaths" (ofValues linux.readonlyPaths),
    allows "mountLabel" (.text linux.mountLabel)]

/-! ### The configuration -/

/-- The outline of a platform. -/
def Platform.outline (platform : Platform) : Outline :=
  .record [needs "os" (.text platform.os), needs "arch" (.text platform.arch)]

namespace Config

/-- The outline of a configuration. -/
def outline (config : Config) : Outline :=
  .record [
    needs "ociVersion" (.text config.version),
    needs "platform" config.platform.outline,
    needs "process" config.process.outline,
    needs "root" config.root.outline,
    allows "hostname" (.text config.hostname),
    allows "mounts" (ofParts Mount.outline config.mounts),
    allows "hooks" (ofOption Hooks.outline config.hooks),
    allows "annotations" (ofDict config.annotations),
    allows "linux" (ofOption Linux.outline config.linux)]

/-- The paths of the mandatory members that are empty. -/
def missing (config : Config) : List String :=
  config.outline.missing

end Config

end OciBundle
