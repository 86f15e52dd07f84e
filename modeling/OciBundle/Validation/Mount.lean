/-
**Rules about mounts and hooks.**

* `Mount.check`: the destination of a mount.
* `Hooks.check`: the hooks of all stages.
-/

import OciBundle.Validation.Basic

namespace OciBundle

open Violation (require each)

/-- A destination, when it is given, is absolute. -/
def Mount.check (mount : Mount) (index : Nat) : List Violation :=
  require (mount.destination = "" || Text.isAbsolute mount.destination)
    ⟨.mountDestinationAbs, Outline.itemPath "mounts" index ++ ".destination",
      "mount destination " ++ Text.quoted mount.destination ++ " is not absolute"⟩

/-- The rules about a hook at a place. -/
def Hook.check (hook : Hook) (subject : String) : List Violation :=
  require (hook.path = "" || Text.isAbsolute hook.path)
    ⟨.hookPathAbs, subject ++ ".path", "hook path " ++ Text.quoted hook.path ++ " is not absolute"⟩
  ++ ((hook.env.filter fun entry => !isEnvPair entry).map fun entry =>
    ⟨.hookEnvInvalid, subject ++ ".env",
      "hook env " ++ Text.quoted entry ++ " is not in KEY=VALUE form"⟩)
  ++ match hook.timeout with
    | none => []
    | some timeout =>
      require (0 < timeout)
        ⟨.hookTimeoutInvalid, subject ++ ".timeout",
          "hook timeout " ++ Word.text timeout ++ " must be positive"⟩

/-- The rules about the hooks of all stages. -/
def Hooks.check (hooks : Hooks) : List Violation :=
  let stage (name : String) (list : List Hook) : List Violation :=
    each list fun index hook => hook.check (Outline.itemPath ("hooks." ++ name) index)
  stage "prestart" hooks.prestart ++ stage "poststart" hooks.poststart
    ++ stage "poststop" hooks.poststop

end OciBundle
