/-
**Comparison with a host.**

* `Config.checkHostPlatform`: the platform is the one of the host.
* `Device.differences`: how a device differs from the node of the host at its path.
* `Linux.checkHostDevices`: the devices that the host has are like the ones of the host.
-/

import OciBundle.Config.File
import OciBundle.Host
import OciBundle.Validation.Basic

namespace OciBundle

open Violation (require each)

/-- A known platform is the one of the host. -/
def Config.checkHostPlatform (config : Config) (host : Host) : List Violation :=
  let arch := config.platform.arch
  match Vocabulary.ofText? (α := OperatingSystem) config.platform.os with
  | none => []
  | some os =>
    require (os.text = host.os)
      ⟨.platformHostMismatch, "platform.os",
        "platform os " ++ os.text ++ " does not match host os " ++ host.os⟩
    ++ require (arch = "" || arch = host.arch)
      ⟨.platformHostMismatch, "platform.arch",
        "platform arch " ++ arch ++ " does not match host arch " ++ host.arch⟩

/-- The kind of node that a device of a kind is. -/
def DeviceKind.nodeKind : DeviceKind → NodeKind
  | .block => .blockDevice
  | .char | .unbuffered => .charDevice
  | .fifo => .fifo

/-- The octal text of a mode. -/
def octalText (mode : UInt32) : String :=
  String.ofList (Nat.toDigits 8 mode.toNat)

namespace Device

/-- How a device's numbers differ from a node's. -/
def numberDifference (device : Device) (node : Node) : List String :=
  if device.major.toUInt64 = node.major ∧ device.minor.toUInt64 = node.minor then []
  else
    [device.path ++ " is " ++ Word.text node.major ++ ":" ++ Word.text node.minor
      ++ " on the host, not " ++ Word.text device.major ++ ":" ++ Word.text device.minor]

/-- How a device's mode, where it is given, differs from a node's. -/
def modeDifference (device : Device) (node : Node) : List String :=
  match device.fileMode with
  | none => []
  | some mode =>
    if mode = node.permissions then []
    else
      [device.path ++ " has mode " ++ octalText node.permissions ++ " on the host, not "
        ++ octalText mode]

/-- How an owner, where it is given, differs from a node's. -/
def ownerDifference (path what : String) (owner : Option UInt32) (onHost : UInt32) :
    List String :=
  match owner with
  | none => []
  | some owner =>
    if owner = onHost then []
    else
      [path ++ " is owned by " ++ what ++ " " ++ Word.text onHost ++ " on the host, not "
        ++ Word.text owner]

/-- How a device of a kind differs from the node of the host at its path. -/
def differences (device : Device) (kind : DeviceKind) (node : Node) : List String :=
  if node.kind ≠ kind.nodeKind then
    [device.path ++ " is not a " ++ kind.text ++ " device on the host"]
  else
    (if kind.requiresNumbers then device.numberDifference node else [])
      ++ device.modeDifference node
      ++ ownerDifference device.path "uid" device.uid node.uid
      ++ ownerDifference device.path "gid" device.gid node.gid

/-- Compares a device with the node of the host at its path. There is nothing to compare for an
unknown kind, a relative path or a missing node. -/
def checkOnHost (tree : FileTree) (index : Nat) (device : Device) :
    Except BundleFault (List Violation) :=
  match Vocabulary.ofText? (α := DeviceKind) device.kind with
  | none => .ok []
  | some kind =>
    if ¬ Text.isAbsolute device.path then .ok []
    else match tree.find device.path with
      | .error .notFound => .ok []
      | .error .nulInPath => .error (.invalidPath device.path)
      | .error fault => .error (.access device.path fault)
      | .ok node =>
        .ok ((device.differences kind node).map fun message =>
          ⟨.devicesFileNotMatch, Outline.itemPath "linux.devices" index, message⟩)

end Device

/-- Compares all devices with the nodes of the host; the first path that cannot be looked at ends
the comparison. -/
def Linux.checkHostDevices (linux : Linux) (tree : FileTree) :
    Except BundleFault (List Violation) := do
  let found ← linux.devices.zipIdx.mapM fun (device, index) => device.checkOnHost tree index
  return found.flatten

end OciBundle
