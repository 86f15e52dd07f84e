/-
**Flags about the configuration in general.**

* `GeneralFlags.table`: the flags.
* `GeneralFlags.steps`: what they ask for.
-/

import OciBundle.CommandLine.Reading
import OciBundle.Flags.Step

namespace OciBundle

/-- Flags about the configuration in general. -/
structure GeneralFlags where
  version : Option String
  hostname : Option String
  os : Option String
  arch : Option String
  annotations : List String
  annotationsRemoved : List String
  rootPath : Option String
  rootReadonly : Option Bool
  deriving DecidableEq, Inhabited

namespace GeneralFlags

/-- The flags. -/
def table : List (Flag GeneralFlags) := [
  .text "oci-version" fun value flags => { flags with version := some value },
  .text "hostname" fun value flags => { flags with hostname := some value },
  .text "os" fun value flags => { flags with os := some value },
  .text "arch" fun value flags => { flags with arch := some value },
  .texts "annotation" fun value flags => { flags with annotations := flags.annotations ++ [value] },
  .texts "annotation-remove" fun value flags =>
    { flags with annotationsRemoved := flags.annotationsRemoved ++ [value] },
  .text "rootfs-path" fun value flags => { flags with rootPath := some value },
  .bool "rootfs-readonly" fun value flags => { flags with rootReadonly := some value }]

/-- What the flags ask for. -/
def steps (flags : GeneralFlags) : List Step :=
  Step.ofOption "--oci-version" (.general ∘ .setVersion) flags.version
    ++ Step.ofOption "--hostname" (.general ∘ .setHostname) flags.hostname
    ++ Step.ofOption "--os" (.general ∘ .setPlatformOs) flags.os
    ++ Step.ofOption "--arch" (.general ∘ .setPlatformArch) flags.arch
    ++ flags.annotations.map (fun input =>
      .ofRead (FlagText.readPair "--annotation" input) fun (key, value) =>
        .edit ("--annotation " ++ input) (.general (.annotate key value)))
    ++ Step.ofTexts "--annotation-remove" (.general ∘ .unannotate) flags.annotationsRemoved
    ++ Step.ofOption "--rootfs-path" (.general ∘ .setRootPath) flags.rootPath
    ++ Step.ofOption "--rootfs-readonly" (.general ∘ .setRootReadonly) flags.rootReadonly

end GeneralFlags

end OciBundle
