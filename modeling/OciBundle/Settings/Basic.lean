/-
**The settings of the tool.**

* `Settings`: what can be set.
* `Settings.ofText?`: the settings that a text holds. A key may be given once, and no other keys
  may be given.
* `Settings.load`: the settings in a file.
-/

import OciBundle.Failure
import OciBundle.FileTree
import OciBundle.Settings.Notation

namespace OciBundle

/-- What can be set. -/
structure Settings where
  logLevel : Option String
  /-- Whether bundles are for this host unless a flag says more. -/
  hostSpecific : Bool
  /-- The level from which on violations count as errors. -/
  complianceLevel : Option String
  runtime : Option String
  runtimeTimeoutSecs : Option UInt64
  deriving DecidableEq, Inhabited

namespace Settings

/-- Sets a key. -/
def set (settings : Settings) (key : String) (value : Value) : Option Settings :=
  match key, value with
  | "log_level", .text name => some { settings with logLevel := some name }
  | "host_specific", .truth value => some { settings with hostSpecific := value }
  | "compliance_level", .text name => some { settings with complianceLevel := some name }
  | "runtime", .text name => some { settings with runtime := some name }
  | "runtime_timeout_secs", .number seconds =>
    (Word.ofInt? (Word.toInt seconds)).map fun seconds =>
      { settings with runtimeTimeoutSecs := some seconds }
  | _, _ => none

/-- The settings that a text holds. -/
def ofText? (text : String) : Option Settings := do
  let lines ← read text
  if (lines.map (·.1)).Nodup then
    lines.foldlM (fun settings (key, value) => settings.set key value) default
  else none

/-- The settings in a file. -/
def load (tree : FileTree) (path : String) : Except Failure Settings :=
  match tree.readText path with
  | .error fault =>
    .error ((Failure.because fault.message).within ("failed to read config file " ++ path))
  | .ok text =>
    match ofText? text with
    | some settings => .ok settings
    | none =>
      .error ((Failure.ofDocument .settings).within ("invalid config file " ++ path))

end Settings

end OciBundle
