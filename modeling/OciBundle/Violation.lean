/-
**Violations of the specification.**

* `Level`: how strongly a rule binds, with its severity.
* `Code`: the rules, each with its level and its place in the specification.
* `Violation`: one place where a rule does not hold.
* `Violation.atLeast`: the violations from a level's severity on.
-/

import OciBundle.Text.Quoted

namespace OciBundle

/-- How strongly a rule binds. -/
inductive Level where
  | may | optional
  | should | shouldNot | recommended | notRecommended
  | must | mustNot | shall | shallNot | required
  deriving DecidableEq

namespace Level

/-- All levels. -/
def all : List Level :=
  [.may, .optional, .should, .shouldNot, .recommended, .notRecommended, .must, .mustNot, .shall,
    .shallNot, .required]

/-- The severity of a level: what is allowed, advised, demanded. -/
def severity : Level → Nat
  | .may | .optional => 0
  | .should | .shouldNot | .recommended | .notRecommended => 1
  | .must | .mustNot | .shall | .shallNot | .required => 2

/-- The text of a level. -/
def text : Level → String
  | .may => "MAY"
  | .optional => "OPTIONAL"
  | .should => "SHOULD"
  | .shouldNot => "SHOULD NOT"
  | .recommended => "RECOMMENDED"
  | .notRecommended => "NOT RECOMMENDED"
  | .must => "MUST"
  | .mustNot => "MUST NOT"
  | .shall => "SHALL"
  | .shallNot => "SHALL NOT"
  | .required => "REQUIRED"

/-- A name without its blanks, hyphens and underscores, in ASCII lower case. No character outside
ASCII has a letter of a level's name as its lower case. -/
def key (name : String) : List Char :=
  (name.toList.filter fun char => char ≠ ' ' ∧ char ≠ '-' ∧ char ≠ '_').map Char.toLower

/-- The level of a name; case, blanks, hyphens and underscores do not count. -/
def ofName? (name : String) : Option Level :=
  all.find? fun level => key level.text = key name

/-- The text of the fault of an unknown name. -/
def unknownMessage (name : String) : String :=
  "unrecognized compliance level: " ++ Text.quoted name

end Level

/-- The rules of the specification that are checked. -/
inductive Code where
  | mandatoryFieldMissing
  | specVersionInSemVer
  | platformOsInvalid
  | platformArchInvalid
  | platformHostMismatch
  | rootPathNotExist
  | rootPathNotDirectory
  | procCwdAbs
  | procEnvInvalid
  | procCapInvalid
  | procCapDuplicate
  | procCapNotSupported
  | procRlimitTypeInvalid
  | procRlimitDuplicate
  | procRlimitSoftExceedsHard
  | procApparmorProfileNotExist
  | hookPathAbs
  | hookEnvInvalid
  | hookTimeoutInvalid
  | mountDestinationAbs
  | mountDestinationNotExist
  | nsTypeInvalid
  | nsTypeDuplicate
  | nsPathAbs
  | idMappingsTooMany
  | idMappingsWithoutUserNs
  | hostnameWithoutUtsNs
  | sysctlWithoutNs
  | rootfsPropagationInvalid
  | deviceTypeInvalid
  | deviceNumbersInvalid
  | devicePathAbs
  | devicePathDuplicate
  | devicesFileNotMatch
  | deviceCgroupTypeInvalid
  | deviceCgroupAccessInvalid
  | maskedPathAbs
  | readonlyPathAbs
  | seccompDefaultActionInvalid
  | seccompArchInvalid
  | seccompArchDuplicate
  | seccompActionInvalid
  | seccompOperatorInvalid
  | annotationKeyEmpty
  deriving DecidableEq

namespace Code

/-- The identifier of a rule. -/
def text : Code → String
  | .mandatoryFieldMissing => "MandatoryFieldMissing"
  | .specVersionInSemVer => "SpecVersionInSemVer"
  | .platformOsInvalid => "PlatformOsInvalid"
  | .platformArchInvalid => "PlatformArchInvalid"
  | .platformHostMismatch => "PlatformHostMismatch"
  | .rootPathNotExist => "RootPathNotExist"
  | .rootPathNotDirectory => "RootPathNotDirectory"
  | .procCwdAbs => "ProcCwdAbs"
  | .procEnvInvalid => "ProcEnvInvalid"
  | .procCapInvalid => "ProcCapInvalid"
  | .procCapDuplicate => "ProcCapDuplicate"
  | .procCapNotSupported => "ProcCapNotSupported"
  | .procRlimitTypeInvalid => "ProcRlimitTypeInvalid"
  | .procRlimitDuplicate => "ProcRlimitDuplicate"
  | .procRlimitSoftExceedsHard => "ProcRlimitSoftExceedsHard"
  | .procApparmorProfileNotExist => "ProcApparmorProfileNotExist"
  | .hookPathAbs => "HookPathAbs"
  | .hookEnvInvalid => "HookEnvInvalid"
  | .hookTimeoutInvalid => "HookTimeoutInvalid"
  | .mountDestinationAbs => "MountDestinationAbs"
  | .mountDestinationNotExist => "MountDestinationNotExist"
  | .nsTypeInvalid => "NsTypeInvalid"
  | .nsTypeDuplicate => "NsTypeDuplicate"
  | .nsPathAbs => "NsPathAbs"
  | .idMappingsTooMany => "IdMappingsTooMany"
  | .idMappingsWithoutUserNs => "IdMappingsWithoutUserNs"
  | .hostnameWithoutUtsNs => "HostnameWithoutUtsNs"
  | .sysctlWithoutNs => "SysctlWithoutNs"
  | .rootfsPropagationInvalid => "RootfsPropagationInvalid"
  | .deviceTypeInvalid => "DeviceTypeInvalid"
  | .deviceNumbersInvalid => "DeviceNumbersInvalid"
  | .devicePathAbs => "DevicePathAbs"
  | .devicePathDuplicate => "DevicePathDuplicate"
  | .devicesFileNotMatch => "DevicesFileNotMatch"
  | .deviceCgroupTypeInvalid => "DeviceCgroupTypeInvalid"
  | .deviceCgroupAccessInvalid => "DeviceCgroupAccessInvalid"
  | .maskedPathAbs => "MaskedPathAbs"
  | .readonlyPathAbs => "ReadonlyPathAbs"
  | .seccompDefaultActionInvalid => "SeccompDefaultActionInvalid"
  | .seccompArchInvalid => "SeccompArchInvalid"
  | .seccompArchDuplicate => "SeccompArchDuplicate"
  | .seccompActionInvalid => "SeccompActionInvalid"
  | .seccompOperatorInvalid => "SeccompOperatorInvalid"
  | .annotationKeyEmpty => "AnnotationKeyEmpty"

/-- The level of a rule. -/
def level : Code → Level
  | .procCapDuplicate | .idMappingsWithoutUserNs | .hostnameWithoutUtsNs | .sysctlWithoutNs
  | .seccompArchDuplicate => .should
  | _ => .must

/-- The place of a rule in the specification. -/
def fragment : Code → String
  | .mandatoryFieldMissing => "config.md"
  | .specVersionInSemVer => "config.md#specification-version"
  | .platformOsInvalid | .platformArchInvalid | .platformHostMismatch => "config.md#platform"
  | .rootPathNotExist | .rootPathNotDirectory => "config.md#root"
  | .procCwdAbs | .procEnvInvalid => "config.md#process"
  | .procCapInvalid | .procCapDuplicate | .procCapNotSupported | .procApparmorProfileNotExist =>
    "config.md#linux-process"
  | .procRlimitTypeInvalid | .procRlimitDuplicate | .procRlimitSoftExceedsHard =>
    "config.md#posix-process"
  | .hookPathAbs | .hookEnvInvalid | .hookTimeoutInvalid => "config.md#posix-platform-hooks"
  | .mountDestinationAbs | .mountDestinationNotExist => "config.md#mounts"
  | .nsTypeInvalid | .nsTypeDuplicate | .nsPathAbs => "config-linux.md#namespaces"
  | .idMappingsTooMany | .idMappingsWithoutUserNs => "config-linux.md#user-namespace-mappings"
  | .hostnameWithoutUtsNs => "config.md#hostname"
  | .sysctlWithoutNs => "config-linux.md#sysctl"
  | .rootfsPropagationInvalid => "config-linux.md#rootfs-mount-propagation"
  | .deviceTypeInvalid | .deviceNumbersInvalid | .devicePathAbs | .devicePathDuplicate
  | .devicesFileNotMatch => "config-linux.md#devices"
  | .deviceCgroupTypeInvalid | .deviceCgroupAccessInvalid =>
    "config-linux.md#allowed-device-list"
  | .maskedPathAbs => "config-linux.md#masked-paths"
  | .readonlyPathAbs => "config-linux.md#readonly-paths"
  | .seccompDefaultActionInvalid | .seccompArchInvalid | .seccompArchDuplicate
  | .seccompActionInvalid | .seccompOperatorInvalid => "config-linux.md#seccomp"
  | .annotationKeyEmpty => "config.md#annotations"

end Code

/-- One place where a rule does not hold. -/
structure Violation where
  code : Code
  /-- The member that does not hold, as a path. -/
  subject : String
  message : String
  deriving DecidableEq

namespace Violation

/-- The address of a place in a version of the specification. -/
def address (version fragment : String) : String :=
  "https://github.com/opencontainers/runtime-spec/blob/v" ++ version ++ "/" ++ fragment

/-- The level of the rule. -/
def level (violation : Violation) : Level := violation.code.level

/-- The address of the rule in a version of the specification. -/
def reference (violation : Violation) (version : String) : String :=
  address version violation.code.fragment

/-- The violation as it is shown. -/
def text (violation : Violation) (version : String) : String :=
  "[" ++ violation.level.text ++ "] " ++ violation.code.text ++ ": " ++ violation.message
    ++ " (" ++ violation.subject ++ ")\nRefer to: " ++ violation.reference version

/-- The violations from a level's severity on. -/
def atLeast (level : Level) (violations : List Violation) : List Violation :=
  violations.filter fun violation => level.severity ≤ violation.level.severity

end Violation

end OciBundle
