/-
**Edits of namespaces, identity mappings, kernel parameters, devices and paths.**

* `LinuxEdit.apply`: the configuration after an edit.
* `maxIdMappings`: the number of mappings that the kernel takes.
-/

import OciBundle.Edit.Mount

namespace OciBundle

/-- The number of mappings of one kind that the kernel takes. -/
def maxIdMappings : Nat := 5

/-- The kinds of identities that are mapped. -/
inductive IdKind where
  | uid | gid
  deriving DecidableEq

namespace IdKind

/-- The name of a kind in messages. -/
def name : IdKind → String
  | .uid => "Uid"
  | .gid => "Gid"

/-- The mappings of a kind. -/
def mappings (linux : Linux) : IdKind → List IdMapping
  | .uid => linux.uidMappings
  | .gid => linux.gidMappings

/-- Sets the mappings of a kind. -/
def setMappings (linux : Linux) (mappings : List IdMapping) : IdKind → Linux
  | .uid => { linux with uidMappings := mappings }
  | .gid => { linux with gidMappings := mappings }

end IdKind

/-- An edit of what is configured for Linux. -/
inductive LinuxEdit where
  | putNamespace (kind path : String)
  | removeNamespace (kind : String)
  | clearNamespaces
  | addIdMapping (kind : IdKind) (mapping : IdMapping)
  /-- A mapping given as `HOST:CONTAINER:SIZE`. -/
  | addIdMappingText (kind : IdKind) (input : String)
  | clearIdMappings (kind : IdKind)
  | addSysctl (key value : String)
  | removeSysctl (key : String)
  | clearSysctl
  | putDevice (device : Device)
  | removeDevice (path : String)
  | clearDevices
  | setRootfsPropagation (propagation : String)
  | setCgroupsPath (path : String)
  | setMountLabel (label : String)
  | addMaskedPath (path : String)
  | clearMaskedPaths
  | addReadonlyPath (path : String)
  | clearReadonlyPaths
  deriving DecidableEq

namespace LinuxEdit

/-- Reads the name of a kind of namespace. -/
def readKind (name : String) : Except Rejection NamespaceKind :=
  UnknownWord.lift (NamespaceKind.readName name)

/-- Appends a mapping, unless the kernel takes no more. -/
def appendMapping (config : Config) (kind : IdKind) (mapping : IdMapping) :
    Except Rejection Config :=
  let count := ((config.linux.map fun linux => kind.mappings linux).getD []).length
  if maxIdMappings ≤ count then .error (.conflict (.tooManyIdMappings kind.name maxIdMappings))
  else
    .ok (config.withLinux fun linux => kind.setMappings linux (kind.mappings linux ++ [mapping]))

/-- Checks a device: its kind, its numbers and its path. -/
def checkDevice (device : Device) : Except Rejection Unit := do
  let kind ← UnknownWord.lift (Vocabulary.read DeviceKind device.kind)
  if ¬ kind.numbersValid device.major device.minor then
    throw (.conflict (.deviceNumbers device.path kind device.major device.minor))
  if ¬ Text.isAbsolute device.path then throw (.conflict (.relativeDevicePath device.path))

/-- The configuration after an edit. -/
def apply (config : Config) : LinuxEdit → Except Rejection Config
  | .putNamespace kind path => do
    let kind ← readKind kind
    return config.withLinux fun linux =>
      { linux with
        namespaces := Keyed.put (·.kind = kind.text) { kind := kind.text, path } linux.namespaces }
  | .removeNamespace kind => do
    let kind ← readKind kind
    return config.mapLinux fun linux =>
      { linux with namespaces := linux.namespaces.filter (·.kind ≠ kind.text) }
  | .clearNamespaces => .ok (config.mapLinux fun linux => { linux with namespaces := [] })
  | .addIdMapping kind mapping => appendMapping config kind mapping
  | .addIdMappingText kind input => do
    appendMapping config kind (← ParseFault.lift (IdMapping.read input))
  | .clearIdMappings kind => .ok (config.mapLinux fun linux => kind.setMappings linux [])
  | .addSysctl key value =>
    if key = "" then .error (.malformed "sysctl" value "empty key")
    else .ok (config.withLinux fun linux => { linux with sysctl := linux.sysctl.insert key value })
  | .removeSysctl key =>
    .ok (config.mapLinux fun linux => { linux with sysctl := linux.sysctl.erase key })
  | .clearSysctl => .ok (config.mapLinux fun linux => { linux with sysctl := .empty })
  | .putDevice device => do
    checkDevice device
    return config.withLinux fun linux =>
      { linux with devices := Keyed.put (·.path = device.path) device linux.devices }
  | .removeDevice path =>
    .ok (config.mapLinux fun linux => { linux with devices := linux.devices.filter (·.path ≠ path) })
  | .clearDevices => .ok (config.mapLinux fun linux => { linux with devices := [] })
  | .setRootfsPropagation propagation =>
    match Vocabulary.read Propagation propagation with
    | .ok propagation =>
      .ok (config.withLinux fun linux => { linux with rootfsPropagation := propagation.text })
    | .error unknown => .error (.conflict (.unknownPropagation unknown))
  | .setCgroupsPath path => .ok (config.withLinux fun linux => { linux with cgroupsPath := some path })
  | .setMountLabel label => .ok (config.withLinux fun linux => { linux with mountLabel := label })
  | .addMaskedPath path => do
    requireAbsolute "masked path" path
    return config.withLinux fun linux =>
      { linux with maskedPaths := Keyed.addNew path linux.maskedPaths }
  | .clearMaskedPaths => .ok (config.mapLinux fun linux => { linux with maskedPaths := [] })
  | .addReadonlyPath path => do
    requireAbsolute "readonly path" path
    return config.withLinux fun linux =>
      { linux with readonlyPaths := Keyed.addNew path linux.readonlyPaths }
  | .clearReadonlyPaths => .ok (config.mapLinux fun linux => { linux with readonlyPaths := [] })

end LinuxEdit

end OciBundle
