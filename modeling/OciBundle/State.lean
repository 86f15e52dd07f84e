/-
**The state of a container as a runtime reports it.**

* `Status`: the stages of a container's life.
* `State`: the state document.
* `State.ofText`: the state that a text holds.
-/

import OciBundle.Json.Printer
import OciBundle.Json.Reader
import OciBundle.Json.Record

namespace OciBundle

open Json (Field Record Document Fault)

/-- The stages of a container's life. -/
inductive Status where
  | creating | created | running | stopped | paused
  deriving DecidableEq

instance : Inhabited Status := ⟨.created⟩

namespace Status

/-- All stages. -/
def all : List Status := [.creating, .created, .running, .stopped, .paused]

/-- The text of a stage. -/
def text : Status → String
  | .creating => "creating"
  | .created => "created"
  | .running => "running"
  | .stopped => "stopped"
  | .paused => "paused"

/-- The name of a stage in lists. -/
def name : Status → String
  | .creating => "Creating"
  | .created => "Created"
  | .running => "Running"
  | .stopped => "Stopped"
  | .paused => "Paused"

/-- The stage with a text. -/
def ofText (value : String) : Except Fault Status :=
  (all.find? (·.text = value)).elim (.error .mismatch) .ok

/-- The fault of a value behind the name of a stage, which has to be `null`. -/
def closeName (stage : Status) : Document → Except Fault Status
  | .null => .ok stage
  | document => .error document.mismatch

/-- Keeps a stage: its text, or an object whose only member has its text for a name and no
value. -/
def decode : Document → Except Fault Status
  | .text token => do ofText (← token.kept)
  | .object [] none => .error .malformed
  | .object [] (some found) => .error found.single
  | .object [(name, value)] ending => do
    let stage ← ofText (← name.kept)
    let stage ← closeName stage value
    Document.close stage (ending.map Json.Break.single)
  | .object ((name, value) :: _ :: _) _ => do
    let stage ← ofText (← name.kept)
    let _ ← closeName stage value
    .error .malformed
  | .broken fault => .error fault
  | _ => .error .malformed

instance : Json.Coded Status := ⟨fun stage => .text stage.text, decode⟩

end Status

/-- The state of a container. -/
structure State where
  version : String
  id : String
  status : Status
  pid : Option Int32
  bundle : String
  annotations : Dict String
  deriving DecidableEq, Inhabited

instance : Record State where
  fields := [
    .always "ociVersion" (·.version) fun value state => { state with version := value },
    .always "id" (·.id) fun value state => { state with id := value },
    .always "status" (·.status) fun value state => { state with status := value },
    .ifPresent "pid" (·.pid) fun value state => { state with pid := value },
    .always "bundle" (·.bundle) fun value state => { state with bundle := value },
    .unlessDefault "annotations" (·.annotations)
      fun value state => { state with annotations := value }]

/-- The state that a text holds. -/
def State.ofText (text : String) : Except Fault State :=
  (Document.read (Source.ofString text)).keep Json.decode

end OciBundle
