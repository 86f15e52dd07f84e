/-
**Container configurations.**

* `Config`: the configuration of one container, the content of `config.json` in a bundle.
* `Config.text`: a configuration as it is written.
* `Config.ofSource`: the configuration that a source holds.
* `Config.seccompText`: the filter on system calls alone.
-/

import OciBundle.Config.Linux
import OciBundle.Config.Mount
import OciBundle.Config.Process
import OciBundle.Json.Printer
import OciBundle.Json.Reader

namespace OciBundle

open Json (Field Record)

/-- The operating system and the processor architecture that a container is made for. -/
structure Platform where
  os : String
  arch : String
  deriving DecidableEq, Inhabited

instance : Record Platform where
  fields := [
    .always "os" (·.os) fun value platform => { platform with os := value },
    .always "arch" (·.arch) fun value platform => { platform with arch := value }]

/-- The configuration of one container. -/
structure Config where
  /-- The version of the specification that the configuration follows. -/
  version : String
  platform : Platform
  process : Process
  root : Root
  hostname : String
  /-- The mounts in the order in which they are made. -/
  mounts : List Mount
  hooks : Option Hooks
  annotations : Dict String
  linux : Option Linux
  deriving DecidableEq, Inhabited

instance : Record Config where
  fields := [
    .always "ociVersion" (·.version) fun value config => { config with version := value },
    .always "platform" (·.platform) fun value config => { config with platform := value },
    .always "process" (·.process) fun value config => { config with process := value },
    .always "root" (·.root) fun value config => { config with root := value },
    .unlessDefault "hostname" (·.hostname) fun value config => { config with hostname := value },
    .unlessDefault "mounts" (·.mounts) fun value config => { config with mounts := value },
    .ifPresent "hooks" (·.hooks) fun value config => { config with hooks := value },
    .unlessDefault "annotations" (·.annotations)
      fun value config => { config with annotations := value },
    .ifPresent "linux" (·.linux) fun value config => { config with linux := value }]

namespace Config

/-- The configuration that a source holds. -/
def ofSource (source : Source) : Except Json.Fault Config :=
  (Json.Document.read source).keep Json.decode

/-- The configuration as a JSON value. -/
def toJson (config : Config) : Json :=
  Json.encode config

/-- The filter on system calls. -/
def seccomp (config : Config) : Option Seccomp :=
  config.linux.bind Linux.seccomp

/-- The text of a configuration. -/
def text (config : Config) : String :=
  Json.document config.toJson

/-- The text of the filter on system calls alone; without one, of the empty object. -/
def seccompText (config : Config) : String :=
  Json.document ((config.seccomp.map Json.encode).getD (.object []))

end Config

end OciBundle
