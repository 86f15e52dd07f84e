/-
**Flags about the filter on system calls.**

* `SeccompFlags.table`: the flags.
* `SeccompFlags.conflicting`: the two ways to set the default action exclude each other.
* `SeccompFlags.steps`: what the flags ask for. Architectures and rules are only added where there
  is a default action.
-/

import OciBundle.CommandLine.Reading
import OciBundle.Flags.Step

namespace OciBundle

/-- Flags about the filter on system calls. -/
structure SeccompFlags where
  defaultAction : Option String
  defaultActionForced : Option String
  arches : List String
  archesRemoved : List String
  rules : List String
  rulesRemoved : List String
  removeAll : Bool
  deriving DecidableEq, Inhabited

namespace SeccompFlags

/-- The flags. -/
def table : List (Flag SeccompFlags) := [
  .text "seccomp-default" fun value flags => { flags with defaultAction := some value },
  .text "seccomp-default-force" fun value flags =>
    { flags with defaultActionForced := some value },
  .texts "seccomp-arch" fun value flags => { flags with arches := flags.arches ++ [value] },
  .texts "seccomp-arch-remove" fun value flags =>
    { flags with archesRemoved := flags.archesRemoved ++ [value] },
  .texts "seccomp-syscalls" fun value flags => { flags with rules := flags.rules ++ [value] },
  .texts "seccomp-remove" fun value flags =>
    { flags with rulesRemoved := flags.rulesRemoved ++ [value] },
  .switch "seccomp-remove-all" fun flags => { flags with removeAll := true }]

/-- Whether both ways to set the default action are asked for. -/
def conflicting (flags : SeccompFlags) : Bool :=
  flags.defaultAction.isSome && flags.defaultActionForced.isSome

/-- Whether architectures or rules are added. -/
def adds (flags : SeccompFlags) : Bool :=
  !flags.arches.isEmpty || !flags.rules.isEmpty

/-- What the flags ask for. -/
def steps (flags : SeccompFlags) : List Step :=
  Step.ofOption "--seccomp-default" (.seccomp ∘ .setDefault) flags.defaultAction
    ++ Step.ofOption "--seccomp-default-force" (.seccomp ∘ .setDefaultForce)
      flags.defaultActionForced
    ++ (if flags.adds then [.needDefaultAction] else [])
    ++ Step.ofTexts "--seccomp-arch" (.seccomp ∘ .addArch) flags.arches
    ++ Step.ofTexts "--seccomp-arch-remove" (.seccomp ∘ .removeArch) flags.archesRemoved
    ++ (if flags.removeAll then [.edit "--seccomp-remove-all" (.seccomp .clearRules)] else [])
    ++ Step.ofTexts "--seccomp-syscalls" (.seccomp ∘ .addRules) flags.rules
    ++ Step.ofTexts "--seccomp-remove" (.seccomp ∘ .removeRules) flags.rulesRemoved

end SeccompFlags

end OciBundle
