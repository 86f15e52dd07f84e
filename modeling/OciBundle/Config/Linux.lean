/-
**What is configured for Linux alone.**

* `Linux`: identity mappings, namespaces, devices, limits and the filter on system calls.
* `IdMapping`, `Namespace`, `Device`: its parts.
-/

import OciBundle.Config.Resources
import OciBundle.Config.Seccomp

namespace OciBundle

open Json (Field Record)

/-- A range of identities of the host inside the container. -/
structure IdMapping where
  hostId : UInt32
  containerId : UInt32
  size : UInt32
  deriving DecidableEq, Inhabited

instance : Record IdMapping where
  fields := [
    .always "hostID" (·.hostId) fun value mapping => { mapping with hostId := value },
    .always "containerID" (·.containerId)
      fun value mapping => { mapping with containerId := value },
    .always "size" (·.size) fun value mapping => { mapping with size := value }]

/-- A namespace; without a path it is a new one, else the one at the path is joined. -/
structure Namespace where
  kind : String
  path : String
  deriving DecidableEq, Inhabited

instance : Record Namespace where
  fields := [
    .always "type" (·.kind) fun value entry => { entry with kind := value },
    .unlessDefault "path" (·.path) fun value entry => { entry with path := value }]

/-- A device node inside the container. -/
structure Device where
  path : String
  kind : String
  major : Int64
  minor : Int64
  fileMode : Option UInt32
  uid : Option UInt32
  gid : Option UInt32
  deriving DecidableEq, Inhabited

instance : Record Device where
  fields := [
    .always "path" (·.path) fun value device => { device with path := value },
    .always "type" (·.kind) fun value device => { device with kind := value },
    .always "major" (·.major) fun value device => { device with major := value },
    .always "minor" (·.minor) fun value device => { device with minor := value },
    .ifPresent "fileMode" (·.fileMode) fun value device => { device with fileMode := value },
    .ifPresent "uid" (·.uid) fun value device => { device with uid := value },
    .ifPresent "gid" (·.gid) fun value device => { device with gid := value }]

/-- What is configured for Linux alone. -/
structure Linux where
  uidMappings : List IdMapping
  gidMappings : List IdMapping
  sysctl : Dict String
  resources : Option Resources
  cgroupsPath : Option String
  namespaces : List Namespace
  devices : List Device
  seccomp : Option Seccomp
  rootfsPropagation : String
  maskedPaths : List String
  readonlyPaths : List String
  mountLabel : String
  deriving DecidableEq, Inhabited

instance : Record Linux where
  fields := [
    .unlessDefault "uidMappings" (·.uidMappings)
      fun value linux => { linux with uidMappings := value },
    .unlessDefault "gidMappings" (·.gidMappings)
      fun value linux => { linux with gidMappings := value },
    .unlessDefault "sysctl" (·.sysctl) fun value linux => { linux with sysctl := value },
    .ifPresent "resources" (·.resources) fun value linux => { linux with resources := value },
    .ifPresent "cgroupsPath" (·.cgroupsPath)
      fun value linux => { linux with cgroupsPath := value },
    .unlessDefault "namespaces" (·.namespaces)
      fun value linux => { linux with namespaces := value },
    .unlessDefault "devices" (·.devices) fun value linux => { linux with devices := value },
    .ifPresent "seccomp" (·.seccomp) fun value linux => { linux with seccomp := value },
    .unlessDefault "rootfsPropagation" (·.rootfsPropagation)
      fun value linux => { linux with rootfsPropagation := value },
    .unlessDefault "maskedPaths" (·.maskedPaths)
      fun value linux => { linux with maskedPaths := value },
    .unlessDefault "readonlyPaths" (·.readonlyPaths)
      fun value linux => { linux with readonlyPaths := value },
    .unlessDefault "mountLabel" (·.mountLabel)
      fun value linux => { linux with mountLabel := value }]

end OciBundle
