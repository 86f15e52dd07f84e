/-
**Paths as texts.**

* `Path.join`: a path below another one; an absolute path stands for itself.
* `Path.inside`: a path of a container below its root file system.
* `Config.rootfs`: the root file system of a configuration in a bundle.
-/

import OciBundle.Config.Basic
import OciBundle.Text.Separated

namespace OciBundle

namespace Path

/-- A path below another one. An absolute path stands for itself; a slash is put between the two
where there is none. -/
def join (base path : String) : String :=
  if Text.isAbsolute path then path
  else if base.toList = [] ∨ base.toList.getLast? = some '/' then base ++ path
  else base ++ "/" ++ path

/-- A path of a container below its root file system: without its leading slashes. -/
def inside (rootfs path : String) : String :=
  join rootfs (String.ofList (path.toList.dropWhile (· = '/')))

end Path

/-- The root file system of a configuration in a bundle. -/
def Config.rootfs (config : Config) (bundle : String) : String :=
  Path.join bundle config.root.path

end OciBundle
