/-
**Rules about what is configured for Linux.**

* `Linux.check`: namespaces, identity mappings, kernel parameters, propagation, devices, paths.
* `Seccomp.check`: the filter on system calls.
-/

import OciBundle.Edit.Linux
import OciBundle.Validation.Basic

namespace OciBundle

open Violation (require each)

namespace Linux

/-- Whether there is a namespace of a kind. -/
def hasNamespace (linux : Linux) (kind : NamespaceKind) : Bool :=
  linux.namespaces.any (·.kind = kind.text)

/-! ### Namespaces -/

/-- A namespace has a known kind that no earlier one has. -/
def checkNamespaceKind (linux : Linux) (index : Nat) (entry : Namespace) : List Violation :=
  let subject := Outline.itemPath "linux.namespaces" index
  if ¬ Vocabulary.isKnown NamespaceKind entry.kind then
    [⟨.nsTypeInvalid, subject, "namespace type " ++ Text.quoted entry.kind ++ " is invalid"⟩]
  else
    require (!(linux.namespaces.take index).any (·.kind = entry.kind))
      ⟨.nsTypeDuplicate, subject, "namespace " ++ entry.kind ++ " is duplicated"⟩

/-- A namespace's path, when it is given, is absolute. -/
def checkNamespacePath (index : Nat) (entry : Namespace) : List Violation :=
  require (entry.path = "" || Text.isAbsolute entry.path)
    ⟨.nsPathAbs, Outline.itemPath "linux.namespaces" index,
      "namespace path " ++ Text.quoted entry.path ++ " is not absolute"⟩

/-- Namespaces with a kind have a known one, given once, and an absolute path. -/
def checkNamespaces (linux : Linux) : List Violation :=
  each linux.namespaces fun index entry =>
    if entry.kind = "" then []
    else linux.checkNamespaceKind index entry ++ checkNamespacePath index entry

/-- A hostname needs a namespace of its own. -/
def checkHostname (linux : Linux) (hostname : String) : List Violation :=
  require (hostname = "" || linux.hasNamespace .uts)
    ⟨.hostnameWithoutUtsNs, "hostname", "hostname is set but no uts namespace is configured"⟩

/-! ### Identity mappings -/

/-- The kernel takes the number of mappings. -/
def checkMappingCount (name : String) (mappings : List IdMapping) : List Violation :=
  require (mappings.length ≤ maxIdMappings)
    ⟨.idMappingsTooMany, "linux." ++ name,
      name ++ " has " ++ toString mappings.length ++ " entries, at most " ++ toString maxIdMappings
        ++ " are allowed"⟩

/-- Mappings are few enough and come with a namespace of users. -/
def checkMappings (linux : Linux) : List Violation :=
  checkMappingCount "uidMappings" linux.uidMappings
  ++ checkMappingCount "gidMappings" linux.gidMappings
  ++ require ((linux.uidMappings.isEmpty && linux.gidMappings.isEmpty) || linux.hasNamespace .user)
    ⟨.idMappingsWithoutUserNs, "linux.uidMappings",
      "id mappings are set but no user namespace is configured"⟩

/-! ### Kernel parameters -/

/-- Whether a kernel parameter belongs to a namespace of interprocess communication. -/
def isIpcKey (key : String) : Bool :=
  Text.startsWith "kernel.msg" key || key = "kernel.sem" || Text.startsWith "kernel.shm" key
    || Text.startsWith "fs.mqueue." key

/-- The kind of namespace that a kernel parameter lacks. -/
def lackingKind? (linux : Linux) (key : String) : Option NamespaceKind :=
  if Text.startsWith "net." key && !linux.hasNamespace .network then some .network
  else if isIpcKey key && !linux.hasNamespace .ipc then some .ipc
  else none

/-- Kernel parameters come with the namespace that they belong to. -/
def checkSysctl (linux : Linux) : List Violation :=
  linux.sysctl.entries.flatMap fun (key, _) =>
    match linux.lackingKind? key with
    | none => []
    | some kind =>
      [⟨.sysctlWithoutNs, "linux.sysctl." ++ key,
        "sysctl " ++ key ++ " requires a " ++ kind.text ++ " namespace"⟩]

/-- The propagation is a known one. -/
def checkPropagation (linux : Linux) : List Violation :=
  require (Vocabulary.isKnown Propagation linux.rootfsPropagation)
    ⟨.rootfsPropagationInvalid, "linux.rootfsPropagation",
      "rootfsPropagation " ++ Text.quoted linux.rootfsPropagation ++ " is invalid"⟩

/-! ### Devices -/

/-- The kind of a device, when it is given, is known and fits its numbers. -/
def checkDeviceKind (index : Nat) (device : Device) : List Violation :=
  let subject := Outline.itemPath "linux.devices" index
  if device.kind = "" then []
  else match Vocabulary.ofText? (α := DeviceKind) device.kind with
    | none =>
      [⟨.deviceTypeInvalid, subject, "device type " ++ Text.quoted device.kind ++ " is invalid"⟩]
    | some kind =>
      require (kind.numbersValid device.major device.minor)
        ⟨.deviceNumbersInvalid, subject,
          "device " ++ device.path ++ " of type " ++ kind.text ++ " has invalid major/minor "
            ++ Word.text device.major ++ ":" ++ Word.text device.minor⟩

/-- The path of a device, when it is given, is absolute and the path of no earlier device. -/
def checkDevicePath (linux : Linux) (index : Nat) (device : Device) : List Violation :=
  let subject := Outline.itemPath "linux.devices" index
  if device.path = "" then []
  else if ¬ Text.isAbsolute device.path then
    [⟨.devicePathAbs, subject, "device path " ++ Text.quoted device.path ++ " is not absolute"⟩]
  else
    require (!(linux.devices.take index).any (·.path = device.path))
      ⟨.devicePathDuplicate, subject, "device " ++ device.path ++ " is duplicated"⟩

/-- The rules about devices. -/
def checkDevices (linux : Linux) : List Violation :=
  each linux.devices fun index device =>
    checkDeviceKind index device ++ linux.checkDevicePath index device

/-- Rules on devices have a known kind, when it is given, and letters of device access. -/
def checkDeviceRules (rules : List DeviceRule) : List Violation :=
  each rules fun index rule =>
    let subject := Outline.itemPath "linux.resources.devices" index
    require (rule.kind = "" || ["a", "b", "c"].contains rule.kind)
      ⟨.deviceCgroupTypeInvalid, subject,
        "device cgroup type " ++ Text.quoted rule.kind ++ " is invalid"⟩
    ++ require (rule.access.toList.all fun letter => ['r', 'w', 'm'].contains letter)
      ⟨.deviceCgroupAccessInvalid, subject,
        "device cgroup access " ++ Text.quoted rule.access ++ " is not a subset of rwm"⟩

/-- Paths of a list are absolute. -/
def checkPaths (code : Code) (subject : String) (paths : List String) : List Violation :=
  each paths fun index path =>
    require (Text.isAbsolute path)
      ⟨code, Outline.itemPath subject index, Text.quoted path ++ " is not an absolute path"⟩

end Linux

/-! ### The filter on system calls -/

namespace Seccomp

/-- An action, when it is given, is a known one. -/
def actionHolds (action : String) : Bool :=
  action = "" || Vocabulary.isKnown SeccompAction action

/-- Architectures are known and given once. -/
def checkArchitectures (seccomp : Seccomp) : List Violation :=
  each seccomp.architectures fun index arch =>
    let subject := Outline.itemPath "linux.seccomp.architectures" index
    if ¬ Vocabulary.isKnown SeccompArch arch then
      [⟨.seccompArchInvalid, subject,
        "seccomp architecture " ++ Text.quoted arch ++ " is invalid"⟩]
    else
      require (!(seccomp.architectures.take index).contains arch)
        ⟨.seccompArchDuplicate, subject, "seccomp architecture " ++ arch ++ " is duplicated"⟩

/-- The action and the operators of a rule, when they are given, are known ones. -/
def checkRule (index : Nat) (rule : SyscallRule) : List Violation :=
  let subject := Outline.itemPath "linux.seccomp.syscalls" index
  require (actionHolds rule.action)
    ⟨.seccompActionInvalid, subject ++ ".action",
      "seccomp action " ++ Text.quoted rule.action ++ " is invalid"⟩
  ++ each rule.args fun position condition =>
    require (condition.operator = "" || Vocabulary.isKnown SeccompOperator condition.operator)
      ⟨.seccompOperatorInvalid, Outline.itemPath (subject ++ ".args") position ++ ".op",
        "seccomp operator " ++ Text.quoted condition.operator ++ " is invalid"⟩

/-- The rules about a filter on system calls. -/
def check (seccomp : Seccomp) : List Violation :=
  require (actionHolds seccomp.defaultAction)
    ⟨.seccompDefaultActionInvalid, "linux.seccomp.defaultAction",
      "seccomp default action " ++ Text.quoted seccomp.defaultAction ++ " is invalid"⟩
  ++ seccomp.checkArchitectures ++ each seccomp.syscalls checkRule

end Seccomp

/-- The rules about what is configured for Linux, beside a hostname. -/
def Linux.check (linux : Linux) (hostname : String) : List Violation :=
  linux.checkNamespaces ++ linux.checkHostname hostname ++ linux.checkMappings
    ++ linux.checkSysctl ++ linux.checkPropagation ++ linux.checkDevices
    ++ checkDeviceRules ((linux.resources.map Resources.devices).getD [])
    ++ checkPaths .maskedPathAbs "linux.maskedPaths" linux.maskedPaths
    ++ checkPaths .readonlyPathAbs "linux.readonlyPaths" linux.readonlyPaths
    ++ ((linux.seccomp.map Seccomp.check).getD [])

end OciBundle
