/-
**Configurations in files.**

* `Config.loadTemplate`: the configuration in a file.
* `Config.loadBundle`: the configuration of a bundle, in its `config.json`.
* `Config.save`: the file tree after a configuration has been written.
-/

import OciBundle.Config.Basic
import OciBundle.FileTree
import OciBundle.Path

namespace OciBundle

/-- Why a configuration cannot be loaded from a file. -/
inductive TemplateFault where
  /-- The file cannot be opened. -/
  | access (fault : LookupFault)
  /-- The file holds no configuration. -/
  | refused (fault : Json.Fault)
  deriving DecidableEq

/-- Why a bundle cannot be loaded or checked. -/
inductive BundleFault where
  | configNotFound (bundle : String)
  /-- A path cannot be looked at. -/
  | access (path : String) (fault : LookupFault)
  /-- The file holds no configuration. -/
  | refused (fault : Json.Fault)
  /-- The system refuses to look at a path that holds a NUL. -/
  | invalidPath (path : String)
  deriving DecidableEq

/-- What is exported of a configuration. -/
inductive Export where
  | whole
  /-- The filter on system calls alone. -/
  | seccomp
  deriving DecidableEq

namespace Config

/-- The exported text of a configuration. -/
def exportText (config : Config) : Export → String
  | .whole => config.text
  | .seccomp => config.seccompText

/-- The configuration in a file. A directory can be opened but not read. -/
def loadTemplate (tree : FileTree) (path : String) : Except TemplateFault Config :=
  match tree.read path with
  | .ok source => (Config.ofSource source).mapError .refused
  | .error .isADirectory => .error (.refused .unreadable)
  | .error fault => .error (.access fault)

/-- The configuration of a bundle. -/
def loadBundle (tree : FileTree) (bundle : String) : Except BundleFault Config :=
  let path := Path.join bundle "config.json"
  match tree.readText path with
  | .ok text => (Config.ofSource (.ofString text)).mapError .refused
  | .error .notFound => .error (.configNotFound bundle)
  | .error fault => .error (.access path fault)

/-- The file tree after a configuration has been written to a file. -/
def save (config : Config) (kind : Export) (path : String) (tree : FileTree) :
    Except LookupFault FileTree :=
  tree.write path (config.exportText kind)

end Config

end OciBundle
