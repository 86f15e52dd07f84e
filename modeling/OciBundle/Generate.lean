/-
**Generating a configuration.**

* `GenerateFlags`: the options of the command, with their table of flags.
* `GenerateFlags.steps`: all steps in their fixed order, whatever the order of the flags was.
* `GenerateFlags.build`: the draft that the steps make of the template.
* `GenerateFlags.run`: the text that is printed and the file tree with the output in it.
-/

import OciBundle.Config.File
import OciBundle.Config.Template
import OciBundle.Flags.General
import OciBundle.Flags.Linux
import OciBundle.Flags.Mount
import OciBundle.Flags.Namespace
import OciBundle.Flags.Process
import OciBundle.Flags.Resources
import OciBundle.Flags.Seccomp

namespace OciBundle

/-- Why a configuration cannot be loaded, as a failure. -/
def TemplateFault.toFailure : TemplateFault → Failure
  | .access fault => .because fault.message
  | .refused fault => .ofDocument (.json fault)

/-- The options of the command that generates a configuration. -/
structure GenerateFlags where
  template : Option String
  output : Option String
  sanitize : Bool
  seccompOnly : Bool
  hostSpecific : Bool
  general : GeneralFlags
  process : ProcessFlags
  namespaces : NamespaceFlags
  mounts : MountFlags
  hooks : HookFlags
  linux : LinuxFlags
  resources : ResourcesFlags
  seccomp : SeccompFlags
  deriving DecidableEq, Inhabited

namespace GenerateFlags

/-! ### Reading -/

/-- The flags. -/
def table : List (Flag GenerateFlags) :=
  [.path "template" fun value flags => { flags with template := some value },
    (Flag.path "output" fun value flags => { flags with output := some value }).withLetter 'o',
    .switch "sanitize" fun flags => { flags with sanitize := true },
    .switch "seccomp-only" fun flags => { flags with seccompOnly := true },
    .switch "host-specific" fun flags => { flags with hostSpecific := true }]
    ++ GeneralFlags.table.map (.within (·.general) fun part flags => { flags with general := part })
    ++ ProcessFlags.table.map (.within (·.process) fun part flags => { flags with process := part })
    ++ NamespaceFlags.table.map
      (.within (·.namespaces) fun part flags => { flags with namespaces := part })
    ++ MountFlags.table.map (.within (·.mounts) fun part flags => { flags with mounts := part })
    ++ HookFlags.table.map (.within (·.hooks) fun part flags => { flags with hooks := part })
    ++ LinuxFlags.table.map (.within (·.linux) fun part flags => { flags with linux := part })
    ++ ResourcesFlags.table.map
      (.within (·.resources) fun part flags => { flags with resources := part })
    ++ SeccompFlags.table.map (.within (·.seccomp) fun part flags => { flags with seccomp := part })

/-- Options that do not exclude each other. -/
def check (flags : GenerateFlags) : Except UsageFault GenerateFlags :=
  if flags.seccomp.conflicting then .error .conflict else .ok flags

/-- Reads the options. -/
def read (line : List String) : Except UsageFault GenerateFlags := do
  (← Flag.readAll (Flag.help :: table) default line).check

/-! ### Building -/

/-- The configuration to start with. -/
def base (flags : GenerateFlags) (host : Host) (tree : FileTree) : Except Failure Config :=
  match flags.template with
  | none => .ok (.template host)
  | some path =>
    (Config.loadTemplate tree path).mapError fun fault =>
      fault.toFailure.within ("failed to load template " ++ path)

/-- All steps that the flags ask for. -/
def steps (flags : GenerateFlags) : List Step :=
  flags.general.steps ++ flags.process.steps ++ flags.namespaces.steps ++ flags.mounts.steps
    ++ flags.hooks.steps ++ flags.linux.steps ++ flags.resources.steps ++ flags.seccomp.steps

/-- The draft that the flags make of a configuration. -/
def buildFrom (flags : GenerateFlags) (host : Host) (hostSpecific : Bool) (config : Config) :
    Except Failure Draft :=
  let config := if flags.sanitize then config.sanitize else config
  Step.runAll ⟨config, host, hostSpecific || flags.hostSpecific⟩ flags.steps

/-- The draft that the flags make of the template. -/
def build (flags : GenerateFlags) (host : Host) (hostSpecific : Bool) (tree : FileTree) :
    Except Failure Draft := do
  flags.buildFrom host hostSpecific (← flags.base host tree)

/-- What is exported. -/
def exported (flags : GenerateFlags) : Export :=
  if flags.seccompOnly then .seccomp else .whole

/-- The text that is printed and the file tree with the output in it. -/
def run (flags : GenerateFlags) (host : Host) (hostSpecific : Bool) (tree : FileTree) :
    Except Failure (String × FileTree) := do
  let draft ← flags.build host hostSpecific tree
  match flags.output with
  | none => return (draft.config.exportText flags.exported, tree)
  | some path =>
    match draft.config.save flags.exported path tree with
    | .ok after => return ("", after)
    | .error fault => throw ((Failure.because fault.message).within ("failed to write " ++ path))

end GenerateFlags

end OciBundle
