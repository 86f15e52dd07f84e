/-
**Finite file trees without links.**

* `FileTree.find`: the node at a path, or why there is none. A path is walked component by
  component, so `..` needs the directory before it.
* `FileTree.read`, `FileTree.readText`: what a file holds.
* `FileTree.write`: the tree after a file has been written.
-/

import OciBundle.Text.Glyph
import OciBundle.Text.Separated

namespace OciBundle

/-- The kinds of nodes. -/
inductive NodeKind where
  | file | directory | fifo | charDevice | blockDevice
  deriving DecidableEq

/-- A node of a file tree. -/
structure Node where
  kind : NodeKind
  /-- What is read from the node. -/
  content : Source
  /-- The mode bits; the kind is kept apart. -/
  mode : UInt32
  uid : UInt32
  gid : UInt32
  /-- The numbers of a device. -/
  major : UInt64
  minor : UInt64
  deriving DecidableEq

namespace Node

/-- A directory. -/
def directory : Node := ⟨.directory, [], 0o755, 0, 0, 0, 0⟩

/-- A file with a content. -/
def file (content : Source) : Node := ⟨.file, content, 0o644, 0, 0, 0, 0⟩

/-- Whether a node is a directory. -/
def isDirectory (node : Node) : Bool := node.kind = .directory

/-- The permission bits, the low twelve of the mode. -/
def permissions (node : Node) : UInt32 := node.mode &&& 0o7777

end Node

/-- Why a path leads to no node, or a node cannot be read or written. -/
inductive LookupFault where
  | notFound
  | notADirectory
  | isADirectory
  | nameTooLong
  /-- The path holds a NUL. -/
  | nulInPath
  /-- The content is no well-formed text. -/
  | notText
  deriving DecidableEq

/-- The text of the fault. -/
def LookupFault.message : LookupFault → String
  | .notFound => "No such file or directory (os error 2)"
  | .notADirectory => "Not a directory (os error 20)"
  | .isADirectory => "Is a directory (os error 21)"
  | .nameTooLong => "File name too long (os error 36)"
  | .nulInPath => "file name contained an unexpected NUL byte"
  | .notText => "stream did not contain valid UTF-8"

/-- A finite tree of nodes, given by the names from the root on, and a working directory. -/
structure FileTree where
  nodes : List (List String × Node)
  here : List String

namespace FileTree

/-- The node at a place; the root is always a directory. -/
def node? (tree : FileTree) (place : List String) : Option Node :=
  if place = [] then some .directory else tree.nodes.lookup place

/-- Walks from a place along components. -/
def walk (tree : FileTree) : List String → List String → Except LookupFault (List String)
  | place, [] => .ok place
  | place, name :: rest =>
    match tree.node? place with
    | none => .error .notFound
    | some node =>
      if ¬ node.isDirectory then .error .notADirectory
      else if name = "" ∨ name = "." then tree.walk place rest
      else if name = ".." then tree.walk place.dropLast rest
      else if name.utf8ByteSize > 255 then .error .nameTooLong
      else
        match tree.node? (place ++ [name]) with
        | none => .error .notFound
        | some _ => tree.walk (place ++ [name]) rest

/-- Where a path starts: at the root, or in the working directory. -/
def start (tree : FileTree) (path : String) : List String :=
  if Text.isAbsolute path then [] else tree.here

/-- The fault of a path that cannot be walked at all. -/
def pathFault? (path : String) : Option LookupFault :=
  if path.toList.contains '\x00' then some .nulInPath
  else if path = "" then some .notFound
  else if path.utf8ByteSize > 4095 then some .nameTooLong
  else none

/-- The place that a path leads to. -/
def locate (tree : FileTree) (path : String) : Except LookupFault (List String) :=
  match pathFault? path with
  | some fault => .error fault
  | none => tree.walk (tree.start path) (Text.fields '/' path)

/-- The path from the root on of the place that a path leads to. -/
def resolve (tree : FileTree) (path : String) : Except LookupFault String :=
  (tree.locate path).map fun place => "/" ++ "/".intercalate place

/-- The node that a path leads to. -/
def find (tree : FileTree) (path : String) : Except LookupFault Node := do
  let place ← tree.locate path
  match tree.node? place with
  | some node => return node
  | none => throw .notFound

/-- Whether a path leads to a node. -/
def contains (tree : FileTree) (path : String) : Bool :=
  (tree.find path).isOk

/-- Whether a path leads to a directory. -/
def isDirectory (tree : FileTree) (path : String) : Bool :=
  match tree.find path with
  | .ok node => node.isDirectory
  | .error _ => false

/-- What the file at a path holds. -/
def read (tree : FileTree) (path : String) : Except LookupFault Source := do
  let node ← tree.find path
  if node.isDirectory then throw .isADirectory
  return node.content

/-- The text that the file at a path holds. -/
def readText (tree : FileTree) (path : String) : Except LookupFault String := do
  let source ← tree.read path
  match source.text? with
  | some text => return text
  | none => throw .notText

/-- Puts a node at a place. -/
def put (tree : FileTree) (place : List String) (node : Node) : FileTree :=
  { tree with nodes := (place, node) :: tree.nodes.filter (·.1 ≠ place) }

/-- Puts a directory at a place where there is no node. -/
def putDirectory (tree : FileTree) (place : List String) : FileTree :=
  if (tree.node? place).isSome then tree else tree.put place .directory

/-- Puts the directories at all places up to one. -/
def putDirectories (tree : FileTree) (place : List String) : FileTree :=
  (List.range (place.length + 1)).foldl (fun tree count => tree.putDirectory (place.take count)) tree

/-- The tree after a text has been written to the file at a path, which is made if its directory
exists. A path that ends in a slash can only name a directory. What a device is given is lost. -/
def write (tree : FileTree) (path content : String) : Except LookupFault FileTree := do
  if let some fault := pathFault? path then throw fault
  let fields := Text.fields '/' path
  let names := (fields.reverse.dropWhile (· = "")).reverse
  let place ← tree.walk (tree.start path) names.dropLast
  let some parent := tree.node? place | throw .notFound
  if ¬ parent.isDirectory then throw .notADirectory
  let name := names.getLastD ""
  if names ≠ fields ∨ name = "." ∨ name = ".." then throw .isADirectory
  if name.utf8ByteSize > 255 then throw .nameTooLong
  match tree.node? (place ++ [name]) with
  | none => return tree.put (place ++ [name]) (.file (.ofString content))
  | some node =>
    match node.kind with
    | .directory => throw .isADirectory
    | .file => return tree.put (place ++ [name]) { node with content := .ofString content }
    | _ => return tree

end FileTree

end OciBundle
