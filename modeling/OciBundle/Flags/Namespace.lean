/-
**Flags about namespaces and identity mappings.**

A flag of a namespace takes a path, nothing for a new namespace, or `host` for none.

* `NamespaceFlags.table`: the flags.
* `NamespaceFlags.steps`: what they ask for.
-/

import OciBundle.CommandLine.Reading
import OciBundle.Flags.Step

namespace OciBundle

/-- Flags about namespaces and identity mappings. -/
structure NamespaceFlags where
  network : Option String
  pid : Option String
  mount : Option String
  ipc : Option String
  uts : Option String
  user : Option String
  cgroup : Option String
  uidMappings : List String
  gidMappings : List String
  deriving DecidableEq, Inhabited

namespace NamespaceFlags

/-- The flags. -/
def table : List (Flag NamespaceFlags) := [
  .optionalText "network" fun value flags => { flags with network := some value },
  .optionalText "pid" fun value flags => { flags with pid := some value },
  .optionalText "mount" fun value flags => { flags with mount := some value },
  .optionalText "ipc" fun value flags => { flags with ipc := some value },
  .optionalText "uts" fun value flags => { flags with uts := some value },
  .optionalText "user" fun value flags => { flags with user := some value },
  .optionalText "cgroup" fun value flags => { flags with cgroup := some value },
  .texts "uidmappings" fun value flags =>
    { flags with uidMappings := flags.uidMappings ++ [value] },
  .texts "gidmappings" fun value flags =>
    { flags with gidMappings := flags.gidMappings ++ [value] }]

/-- The flags of namespaces with the names of their kinds. -/
def entries (flags : NamespaceFlags) : List (String × Option String) := [
  ("network", flags.network), ("pid", flags.pid), ("mount", flags.mount), ("ipc", flags.ipc),
  ("uts", flags.uts), ("user", flags.user), ("cgroup", flags.cgroup)]

/-- The edit that a flag of a namespace asks for. -/
def edit (kind path : String) : LinuxEdit :=
  if path = "host" then .removeNamespace kind else .putNamespace kind path

/-- What the flags ask for. -/
def steps (flags : NamespaceFlags) : List Step :=
  flags.entries.flatMap (fun (kind, path) => Step.ofOption ("--" ++ kind) (.linux ∘ edit kind) path)
    ++ Step.ofTexts "--uidmappings" (.linux ∘ .addIdMappingText .uid) flags.uidMappings
    ++ Step.ofTexts "--gidmappings" (.linux ∘ .addIdMappingText .gid) flags.gidMappings

end NamespaceFlags

end OciBundle
