/-
**Validation of bundles.**

* `Config.violations`: the rules that a configuration alone decides.
* `Bundle.validate`: these, and the rules about the bundle's file tree and about the host, in their
  order.
* `Bundle.load`: the bundle in a directory.
-/

import OciBundle.Validation.Host
import OciBundle.Validation.Linux
import OciBundle.Validation.Mount
import OciBundle.Validation.Process

namespace OciBundle

open Violation (require each)

namespace Config

/-- The rules about the hooks. -/
def checkHooks (config : Config) : List Violation :=
  (config.hooks.map Hooks.check).getD []

/-- The rules about what is configured for Linux. -/
def checkLinux (config : Config) : List Violation :=
  (config.linux.map fun linux => linux.check config.hostname).getD []

/-- The violations of the rules that a configuration alone decides. -/
def violations (config : Config) : List Violation :=
  config.checkMandatory ++ config.checkVersion ++ config.checkPlatform
    ++ config.process.check none ++ config.checkHooks
    ++ each config.mounts (fun index mount => mount.check index)
    ++ config.checkAnnotations ++ config.checkLinux

end Config

/-- The text of the system's refusal to look at a path. -/
def BundleFault.invalidArgument : String := "Invalid argument (os error 22)"

/-- The text of a fault. -/
def BundleFault.message : BundleFault → String
  | .configNotFound bundle => "config.json not found in bundle " ++ bundle
  | .access path fault => "failed to access " ++ path ++ ": " ++ fault.message
  | .invalidPath path => "failed to access " ++ path ++ ": " ++ invalidArgument
  | .refused _ => "schema error"

/-- A directory with a configuration. -/
structure Bundle where
  path : String
  config : Config
  /-- The host that the configuration is compared with, if it is compared with one. -/
  host : Option Host

namespace Bundle

/-- The bundle in a directory. -/
def load (tree : FileTree) (path : String) (host : Option Host) : Except BundleFault Bundle := do
  return { path, config := ← Config.loadBundle tree path, host }

/-- The root file system. -/
def rootfs (bundle : Bundle) : String :=
  bundle.config.rootfs bundle.path

/-- The path of the root file system, when it is given, leads to a directory. -/
def checkRoot (bundle : Bundle) (tree : FileTree) : Except BundleFault (List Violation) :=
  if bundle.config.root.path = "" then .ok []
  else match tree.find bundle.rootfs with
    | .ok node =>
      .ok (require node.isDirectory
        ⟨.rootPathNotDirectory, "root.path", "root path " ++ bundle.rootfs ++ " is not a directory"⟩)
    | .error .notFound =>
      .ok [⟨.rootPathNotExist, "root.path", "root path " ++ bundle.rootfs ++ " does not exist"⟩]
    | .error fault => .error (.access bundle.rootfs fault)

/-- Where the profile lies, in the root file system. -/
def profilePath (bundle : Bundle) : String :=
  Path.join (Path.inside bundle.rootfs "/etc/apparmor.d") bundle.config.process.apparmorProfile

/-- Where the destination of a mount lies, in the root file system. -/
def destinationPath (bundle : Bundle) (mount : Mount) : String :=
  Path.inside bundle.rootfs mount.destination

/-- The paths that the rules about the file tree look at. -/
def lookups (bundle : Bundle) : List String :=
  bundle.rootfs :: bundle.profilePath :: bundle.config.mounts.map bundle.destinationPath

/-- The profile, when one is given, lies in the root file system. -/
def checkProfile (bundle : Bundle) (tree : FileTree) : List Violation :=
  require (bundle.config.process.apparmorProfile = "" || tree.contains bundle.profilePath)
    ⟨.procApparmorProfileNotExist, "process.apparmorProfile",
      "apparmor profile " ++ bundle.profilePath ++ " does not exist"⟩

/-- An absolute destination leads to a directory in the root file system. -/
def checkDestination (bundle : Bundle) (tree : FileTree) (index : Nat) (mount : Mount) :
    List Violation :=
  let path := bundle.destinationPath mount
  require (!Text.isAbsolute mount.destination || tree.isDirectory path)
    ⟨.mountDestinationNotExist, Outline.itemPath "mounts" index ++ ".destination",
      "mount destination " ++ path ++ " is not an existing directory"⟩

/-- The rules about the mounts. -/
def checkMounts (bundle : Bundle) (tree : FileTree) : List Violation :=
  each bundle.config.mounts fun index mount =>
    mount.check index ++ bundle.checkDestination tree index mount

/-- The comparison of the devices with the host, where it is wanted. -/
def checkHostDevices (bundle : Bundle) (tree : FileTree) : Except BundleFault (List Violation) :=
  match bundle.host, bundle.config.linux with
  | some _, some linux => linux.checkHostDevices tree
  | _, _ => .ok []

/-- All violations of a bundle in the order in which they are found, unless a path cannot be looked
at. -/
def validate (bundle : Bundle) (tree : FileTree) : Except BundleFault (List Violation) := do
  let config := bundle.config
  let root ← bundle.checkRoot tree
  let devices ← bundle.checkHostDevices tree
  return config.checkMandatory ++ config.checkVersion ++ config.checkPlatform
    ++ (bundle.host.map config.checkHostPlatform).getD []
    ++ root
    ++ config.process.check bundle.host ++ bundle.checkProfile tree
    ++ config.checkHooks ++ bundle.checkMounts tree ++ config.checkAnnotations
    ++ config.checkLinux ++ devices

end Bundle

end OciBundle
