/-
**The container's file systems and hooks.**

* `Root`: the root file system.
* `Mount`: a further mount.
* `Hook`, `Hooks`: programs that run at three stages of the container's life.
-/

import OciBundle.Json.Record

namespace OciBundle

open Json (Field Record)

/-- The root file system; its path is absolute or relative to the bundle. -/
structure Root where
  path : String
  readonly : Bool
  deriving DecidableEq, Inhabited

instance : Record Root where
  fields := [
    .always "path" (·.path) fun value root => { root with path := value },
    .unlessDefault "readonly" (·.readonly) fun value root => { root with readonly := value }]

/-- A mount inside the container. -/
structure Mount where
  destination : String
  kind : String
  source : String
  options : List String
  deriving DecidableEq, Inhabited

instance : Record Mount where
  fields := [
    .always "destination" (·.destination) fun value mount => { mount with destination := value },
    .unlessDefault "type" (·.kind) fun value mount => { mount with kind := value },
    .unlessDefault "source" (·.source) fun value mount => { mount with source := value },
    .unlessDefault "options" (·.options) fun value mount => { mount with options := value }]

/-- A program that runs at a stage of the container's life. -/
structure Hook where
  path : String
  args : List String
  env : List String
  /-- The time limit in seconds. -/
  timeout : Option Int32
  deriving DecidableEq, Inhabited

instance : Record Hook where
  fields := [
    .always "path" (·.path) fun value hook => { hook with path := value },
    .unlessDefault "args" (·.args) fun value hook => { hook with args := value },
    .unlessDefault "env" (·.env) fun value hook => { hook with env := value },
    .ifPresent "timeout" (·.timeout) fun value hook => { hook with timeout := value }]

/-- The hooks of the three stages, in the order in which they run. -/
structure Hooks where
  prestart : List Hook
  poststart : List Hook
  poststop : List Hook
  deriving DecidableEq, Inhabited

instance : Record Hooks where
  fields := [
    .unlessDefault "prestart" (·.prestart) fun value hooks => { hooks with prestart := value },
    .unlessDefault "poststart" (·.poststart) fun value hooks => { hooks with poststart := value },
    .unlessDefault "poststop" (·.poststop) fun value hooks => { hooks with poststop := value }]

end OciBundle
