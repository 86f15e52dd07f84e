/-
**Edits of what a configuration says in general.**

Version, platform, hostname, annotations and the root file system.
-/

import OciBundle.Config.Basic
import OciBundle.Rejection
import OciBundle.Version

namespace OciBundle

/-- An edit of what a configuration says in general. -/
inductive GeneralEdit where
  | setVersion (version : String)
  | setHostname (hostname : String)
  | setPlatformOs (os : String)
  | setPlatformArch (arch : String)
  | annotate (key value : String)
  | unannotate (key : String)
  | clearAnnotations
  | setRootPath (path : String)
  | setRootReadonly (readonly : Bool)
  deriving DecidableEq

namespace GeneralEdit

/-- Whether an architecture belongs to an operating system; an unknown system has any. -/
def archFits (os arch : String) : Bool :=
  match Vocabulary.ofText? (α := OperatingSystem) os with
  | some os => os.architectures.contains arch
  | none => true

/-- The configuration after an edit. -/
def apply (config : Config) : GeneralEdit → Except Rejection Config
  | .setVersion version =>
    if isVersion version then .ok { config with version }
    else .error (.malformed "version" version "expected N.N.N")
  | .setHostname hostname => .ok { config with hostname }
  | .setPlatformOs os => do
    let os ← UnknownWord.lift (Vocabulary.read OperatingSystem os)
    return { config with platform := { config.platform with os := os.text } }
  | .setPlatformArch arch =>
    if archFits config.platform.os arch then
      .ok { config with platform := { config.platform with arch } }
    else .error (.unrecognized "architecture" arch)
  | .annotate key value =>
    if key = "" then .error (.malformed "annotation" value "empty key")
    else .ok { config with annotations := config.annotations.insert key value }
  | .unannotate key => .ok { config with annotations := config.annotations.erase key }
  | .clearAnnotations => .ok { config with annotations := .empty }
  | .setRootPath path => .ok { config with root := { config.root with path } }
  | .setRootReadonly readonly => .ok { config with root := { config.root with readonly } }

end GeneralEdit

end OciBundle
