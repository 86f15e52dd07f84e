/-
**Edits of the mounts and the hooks.**

* `requireAbsolute`: the check of a path inside the container.
* `MountEdit.apply`, `HookEdit.apply`: the configuration after an edit.
-/

import OciBundle.Config.Notation
import OciBundle.Config.Update
import OciBundle.Keyed

namespace OciBundle

/-- Checks that a path is absolute; messages call it by `subject`. -/
def requireAbsolute (subject path : String) : Except Rejection Unit :=
  if Text.isAbsolute path then .ok ()
  else .error (.malformed subject path "must be an absolute path")

/-! ### Mounts -/

/-- An edit of the mounts. -/
inductive MountEdit where
  | add (mount : Mount)
  /-- A temporary file system given as `DEST[:OPTIONS]`. -/
  | addTmpfs (input : String)
  /-- A bind mount given as `SOURCE:DEST[:OPTIONS]`. -/
  | addBind (input : String)
  /-- The control groups, mounted as the policy says: `ro`, `rw` or `no`. -/
  | addCgroup (policy : String)
  | remove (destination : String)
  | clear
  deriving DecidableEq

namespace MountEdit

/-- Appends a mount, whose destination has to be absolute. -/
def append (config : Config) (mount : Mount) : Except Rejection Config := do
  requireAbsolute "mount destination" mount.destination
  return { config with mounts := config.mounts ++ [mount] }

/-- The mount of the control groups. -/
def cgroupMount (policy : String) : Mount where
  destination := "/sys/fs/cgroup"
  kind := "cgroup"
  source := "cgroup"
  options := ["nosuid", "noexec", "nodev", "relatime", policy]

/-- The configuration after an edit. -/
def apply (config : Config) : MountEdit → Except Rejection Config
  | .add mount => append config mount
  | .addTmpfs input => do append config (← ParseFault.lift (Mount.readTmpfs input))
  | .addBind input => do append config (← ParseFault.lift (Mount.readBind input))
  | .addCgroup policy =>
    if policy = "no" then .ok config
    else if policy = "ro" ∨ policy = "rw" then append config (cgroupMount policy)
    else .error (.unrecognized "cgroup mount policy" policy)
  | .remove destination =>
    .ok { config with mounts := config.mounts.filter (·.destination ≠ destination) }
  | .clear => .ok { config with mounts := [] }

end MountEdit

/-! ### Hooks -/

/-- Changes the hooks of a stage. -/
def Hooks.mapStage (hooks : Hooks) (stage : HookStage) (change : List Hook → List Hook) : Hooks :=
  match stage with
  | .prestart => { hooks with prestart := change hooks.prestart }
  | .poststart => { hooks with poststart := change hooks.poststart }
  | .poststop => { hooks with poststop := change hooks.poststop }

/-- A hook that only has a path. -/
def Hook.ofPath (path : String) : Hook :=
  { path, args := [], env := [], timeout := none }

/-- An edit of the hooks. -/
inductive HookEdit where
  | add (stage : HookStage) (hook : Hook)
  /-- A hook given as a path with arguments behind it. -/
  | addText (stage : HookStage) (input : String)
  /-- A variable for the first hook with a path, or for a new one. -/
  | addEnv (stage : HookStage) (path pair : String)
  /-- A time limit for the first hook with a path, or for a new one. -/
  | addTimeout (stage : HookStage) (path : String) (timeout : Int32)
  | clear (stage : HookStage)
  deriving DecidableEq

namespace HookEdit

/-- Appends a hook, whose path has to be absolute. -/
def append (config : Config) (stage : HookStage) (hook : Hook) : Except Rejection Config := do
  requireAbsolute "hook path" hook.path
  return config.withHooks (·.mapStage stage (· ++ [hook]))

/-- The key of a variable given as `KEY=VALUE`; there is none without a key. -/
def envKey? (pair : String) : Option String :=
  match Text.cut '=' pair with
  | some (key, _) => if key = "" then none else some key
  | none => none

/-- The configuration after an edit. -/
def apply (config : Config) : HookEdit → Except Rejection Config
  | .add stage hook => append config stage hook
  | .addText stage input => do append config stage (← ParseFault.lift (Hook.read input))
  | .addEnv stage path pair => do
    requireAbsolute "hook path" path
    match envKey? pair with
    | none => .error (.malformed "hook env" pair "expected KEY=VALUE")
    | some key =>
      let update (hook : Hook) : Hook :=
        { hook with env := Keyed.put (Text.startsWith (key ++ "=")) pair hook.env }
      return config.withHooks (·.mapStage stage
        (Keyed.change (·.path = path) update (update (.ofPath path))))
  | .addTimeout stage path timeout => do
    requireAbsolute "hook path" path
    if timeout ≤ 0 then .error (.conflict (.hookTimeoutNotPositive timeout))
    else
      let update (hook : Hook) : Hook := { hook with timeout := some timeout }
      return config.withHooks (·.mapStage stage
        (Keyed.change (·.path = path) update (update (.ofPath path))))
  | .clear stage => .ok (config.mapHooks (·.mapStage stage fun _ => []))

end HookEdit

end OciBundle
