import SchemaIntake.Text.Basic

/-!
# Disks

What a program can ask a file system, and the file system that a tree of directories is; the top of
the tree is its root.  Programs are written for any disk, so that what they do can be told from a
tree.

## Main definitions

* `Disk m` — the questions that a file system answers, in a monad `m`.
* `Node` — a tree of files and directories; `Node.put` adds a file to one.
* `Node.disk root current` — the disk that a tree is, seen from a directory in it.
* `Path.components`, `Path.append`, `Path.isAbsolute` — paths as texts.
-/

namespace SchemaIntake

open Text

/-! ### Paths -/

namespace Path

/-- The components of a path: the texts between its slashes. -/
def components (path : Text) : List Text :=
  cutWhere (fun (_ : Unit) _ => ()) (fun _ c => c == '/') () path

/-- Whether a path starts at the root of the file system. -/
def isAbsolute (path : Text) : Bool := path.head? = some '/'

/-- A path without the slash that stands for the root. -/
def afterRoot (path : Text) : Text := if isAbsolute path then path.drop 1 else path

/-- The path of an entry of a directory. -/
def append (path name : Text) : Text :=
  if path.getLast? = some '/' then path ++ name else path ++ '/' :: name

/-- Whether a path is that of the current directory, written with dots only. -/
def isHere (path : Text) : Bool :=
  path.head? = some '.' && (components path).all fun c => c.isEmpty || c = ['.']

/-- The absolute paths of a directory and of the directories around it, from the inside to the
outside.  The directory is given by the names that lead to it from the root. -/
def around (names : List Text) : List Text :=
  (List.range (names.length + 1)).map fun n =>
    '/' :: join "/".toList (names.take (names.length - n))

end Path

/-! ### Disks -/

/-- What a path can lead to. -/
inductive Kind
  | file | directory
deriving DecidableEq, Repr

/-- The questions that a file system answers. -/
structure Disk (m : Type → Type) where
  /-- What a path leads to, if it leads anywhere. -/
  kind? : Text → m (Option Kind)
  /-- The text of a file.  There is none where a path does not lead to a file, and where a file
  does not hold a text. -/
  read? : Text → m (Option Text)
  /-- The names in a directory, in any order. -/
  names : Text → m (List Text)
  /-- The paths of the current directory and of the directories around it, from the inside to
  the outside. -/
  ancestors : m (List Text)

namespace Disk

variable {m : Type → Type} [Monad m]

def exists? (disk : Disk m) (path : Text) : m Bool := return (← disk.kind? path).isSome

def isDirectory (disk : Disk m) (path : Text) : m Bool :=
  return (← disk.kind? path) = some .directory

end Disk

/-! ### Trees -/

inductive Node
  /-- A file; it may hold something that is not a text. -/
  | file (content : Option Text)
  /-- A directory with its entries.  No name is used twice. -/
  | directory (entries : List (Text × Node))

namespace Node

def empty : Node := .directory []

/-- Whether it is a file or a directory. -/
def kind : Node → Kind
  | file _ => .file
  | directory _ => .directory

def entries : Node → List (Text × Node)
  | file _ => []
  | directory entries => entries

/-- The entry of a directory with a given name. -/
def child? (name : Text) (node : Node) : Option Node :=
  (node.entries.find? (·.1 = name)).map (·.2)

/-- A tree with a node at a path of names from its top.  Directories on the way are made, and
what has stood there before is replaced. -/
def put (node : Node) : List Text → Node → Node
  | [], _ => node
  | name :: path, top =>
    .directory ((top.entries.filter (·.1 ≠ name)) ++
      [(name, put node path ((top.child? name).getD empty))])

/-- A step along a path, from a node with the directories around it.  Steps are possible from
directories only.  Around the top there is nothing but the top. -/
def step? (component : Text) : List Node → Option (List Node)
  | directory entries :: around =>
    if component.isEmpty || component = ".".toList then some (directory entries :: around)
    else if component = "..".toList then
      some (if around.isEmpty then [directory entries] else around)
    else ((directory entries).child? component).map (· :: directory entries :: around)
  | _ => none

/-- Where steps lead to. -/
def follow? (path : List Text) (start : List Node) : Option (List Node) :=
  path.foldlM (fun here component => step? component here) start

/-- The names that lead to where a path starts: the top of the tree if it is absolute, and the
current directory otherwise. -/
def start (current : List Text) (path : Text) : List Text :=
  if Path.isAbsolute path then [] else current

/-- The node that a path leads to, seen from a directory of a tree.  The empty path leads
nowhere. -/
def find? (top : Node) (current : List Text) (path : Text) : Option Node :=
  if path.isEmpty then none
  else (follow? (start current path ++ Path.components path) [top]).bind (·.head?)

/-- The disk that a tree is, seen from a directory in it. -/
def disk (top : Node) (current : List Text) : Disk Id where
  kind? path := (top.find? current path).map kind
  read? path :=
    match top.find? current path with
    | some (file content) => content
    | _ => none
  names path := ((top.find? current path).map fun node => node.entries.map (·.1)).getD []
  ancestors := Path.around current

end Node

end SchemaIntake
