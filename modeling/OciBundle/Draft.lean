/-
**Drafts: configurations under construction.**

* `Edit`: all edits.
* `Draft.target`: the host that a draft is made for, if it is made for one.
* `Draft.apply`: the draft after an edit with the decisions on rules, or the rejection.
* `Draft.step`, `Draft.run`: a rejected edit leaves the draft as it was.
-/

import OciBundle.Config.Sanitize
import OciBundle.Edit.General
import OciBundle.Edit.Linux
import OciBundle.Edit.Process
import OciBundle.Edit.Resources
import OciBundle.Edit.Seccomp

namespace OciBundle

/-- An edit of a draft. -/
inductive Edit where
  | general (edit : GeneralEdit)
  | process (edit : ProcessEdit)
  | mount (edit : MountEdit)
  | hook (edit : HookEdit)
  | linux (edit : LinuxEdit)
  | resources (edit : ResourcesEdit)
  | seccomp (edit : SeccompEdit)
  /-- Removes what binds the configuration to a host or raises its rights. -/
  | sanitize
  /-- Says whether the configuration is made for the host. -/
  | setHostSpecific (hostSpecific : Bool)
  deriving DecidableEq

/-- A configuration under construction. -/
structure Draft where
  config : Config
  /-- The host on which the configuration is made. -/
  host : Host
  /-- Whether the configuration is made for this host alone. -/
  hostSpecific : Bool
  deriving DecidableEq

namespace Draft

/-- A draft that starts with a configuration. -/
def ofConfig (host : Host) (config : Config) : Draft := ⟨config, host, false⟩

/-- The host that the configuration is made for, if it is made for one. -/
def target (draft : Draft) : Option Host :=
  draft.host.target draft.hostSpecific

/-- The draft after an edit and the decisions on added rules, or why the edit is rejected. -/
def apply (draft : Draft) : Edit → Except Rejection (Draft × List Decision)
  | .general edit => return ({ draft with config := ← edit.apply draft.config }, [])
  | .process edit =>
    return ({ draft with config := ← edit.apply draft.target draft.config }, [])
  | .mount edit => return ({ draft with config := ← edit.apply draft.config }, [])
  | .hook edit => return ({ draft with config := ← edit.apply draft.config }, [])
  | .linux edit => return ({ draft with config := ← edit.apply draft.config }, [])
  | .resources edit => return ({ draft with config := ← edit.apply draft.config }, [])
  | .seccomp edit => do
    let (config, decisions) ← edit.apply draft.config
    return ({ draft with config }, decisions)
  | .sanitize => .ok ({ draft with config := draft.config.sanitize }, [])
  | .setHostSpecific hostSpecific => .ok ({ draft with hostSpecific }, [])

/-- The draft after an edit, with the decisions or the rejection. -/
def step (draft : Draft) (edit : Edit) : Draft × Except Rejection (List Decision) :=
  match draft.apply edit with
  | .ok (after, decisions) => (after, .ok decisions)
  | .error rejection => (draft, .error rejection)

/-- The draft after edits, with the results of all of them. -/
def run (draft : Draft) : List Edit → Draft × List (Except Rejection (List Decision))
  | [] => (draft, [])
  | edit :: rest =>
    let (after, result) := draft.step edit
    let (final, results) := after.run rest
    (final, result :: results)

end Draft

end OciBundle
