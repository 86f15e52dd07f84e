/-
**Rules about what a configuration says in general.**

* `Violation.require`, `Violation.each`: the violation of one rule, the violations of a list's items.
* `Config.checkMandatory`, `Config.checkVersion`, `Config.checkPlatform`, `Config.checkAnnotations`.
-/

import OciBundle.Outline
import OciBundle.Version
import OciBundle.Violation
import OciBundle.Vocabulary

namespace OciBundle

namespace Violation

/-- A single violation where a rule does not hold. -/
def require (holds : Bool) (violation : Violation) : List Violation :=
  if holds then [] else [violation]

/-- The violations of the items of a list, each checked with its index. -/
def each {α : Type} (items : List α) (check : Nat → α → List Violation) : List Violation :=
  items.zipIdx.flatMap fun (item, index) => check index item

end Violation

/-- Whether an entry has the form `KEY=VALUE` with a key. -/
def isEnvPair (entry : String) : Bool :=
  match Text.cut '=' entry with
  | some (key, _) => key ≠ ""
  | none => false

open Violation (require each)

namespace Config

/-- Mandatory members are given. -/
def checkMandatory (config : Config) : List Violation :=
  config.missing.map fun path => ⟨.mandatoryFieldMissing, path, path ++ " is required"⟩

/-- The version, when it is given, is a version. -/
def checkVersion (config : Config) : List Violation :=
  require (config.version = "" || isVersion config.version)
    ⟨.specVersionInSemVer, "ociVersion",
      Text.quoted config.version ++ " is not a valid SemVer N.N.N"⟩

/-- The operating system, when it is given, is known, and the architecture belongs to it. -/
def checkPlatform (config : Config) : List Violation :=
  let platform := config.platform
  if platform.os = "" then []
  else match Vocabulary.ofText? (α := OperatingSystem) platform.os with
    | none =>
      [⟨.platformOsInvalid, "platform.os",
        "operation system " ++ Text.quoted platform.os ++ " is not supported"⟩]
    | some os =>
      require (platform.arch = "" || os.architectures.contains platform.arch)
        ⟨.platformArchInvalid, "platform.arch",
          "architecture " ++ Text.quoted platform.arch ++ " is not supported on " ++ os.text⟩

/-- No annotation has an empty key. -/
def checkAnnotations (config : Config) : List Violation :=
  require (config.annotations.get? "").isNone
    ⟨.annotationKeyEmpty, "annotations", "annotation keys must not be empty"⟩

end Config

end OciBundle
