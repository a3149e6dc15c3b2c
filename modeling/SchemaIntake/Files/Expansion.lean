import SchemaIntake.Files.Pattern

/-!
# Expanding patterns

A pattern selects the paths of a disk that match it, component by component.

## Main definitions

* `Disk.below` — everything inside a directory.
* `Disk.selected` — the paths that the components of a pattern select.
* `Disk.expand` — paths and patterns, with every pattern replaced by what it selects.

## Main results

* `Disk.expand_of_plain` — paths that are no patterns stay as they are.

Names are taken in the order of their characters, and a directory before what is in it.
-/

namespace SchemaIntake

open Text

namespace Disk

variable {m : Type → Type} [Monad m]

/-- An entry of a directory: its name and its path. -/
structure Entry where
  name : Text
  path : Text
deriving DecidableEq, Repr

/-- The path of what has a name in a directory.  Inside the current directory it is the name. -/
def pathIn (directory name : Text) : Text :=
  if Path.isHere directory then name else Path.append directory name

/-- The entries of a directory, in the order of their names. -/
def entriesOf (disk : Disk m) (directory : Text) : m (List Entry) :=
  return ((← disk.names directory).mergeSort inOrder).map fun name =>
    ⟨name, pathIn directory name⟩

/-- How deep directories can lie in each other: each takes two characters of a path, and a path
with more than four thousand and some characters cannot be opened. -/
def depthLimit : Nat := 2048

/-- Everything inside a directory, down to some depth. -/
def below (disk : Disk m) : Nat → Text → m (List Entry)
  | 0, _ => return []
  | depth + 1, directory => do
    let entries ← disk.entriesOf directory
    let parts ← entries.mapM fun e => do
      if ← disk.isDirectory e.path then return e :: (← disk.below depth e.path) else return [e]
    return parts.flatten

/-- The entries that a part of a pattern selects. -/
def matching (component : Pattern.Component) (entries : List Entry) : List Entry :=
  match component with
  | .name t => entries.filter (·.name = t)
  | .wild pieces => entries.filter fun e => Pattern.matchesName pieces e.name
  | .anywhere => entries

/-- The two names that every directory has for itself and for the one around it, where a part
of a pattern selects them: it must start with a dot. -/
def dots (pieces : List Pattern.Piece) : List Text :=
  if pieces.head? = some (.char '.') then
    ["..".toList, ".".toList].filter (Pattern.matchesName pieces)
  else []

/-- The paths that the rest of a pattern selects from a path on. -/
def selected (disk : Disk m) (directoriesOnly : Bool) :
    List Pattern.Component → Text → m (List Text)
  | [], path => do
    if directoriesOnly && !(← disk.isDirectory path) then return [] else return [path]
  | .name t :: rest, path => do
    let next := pathIn path t
    let isThere ←
      if t = ".".toList || t = "..".toList then disk.isDirectory path else disk.exists? next
    if isThere then disk.selected directoriesOnly rest next else return []
  | .wild pieces :: rest, path => do
    if ← disk.isDirectory path then
      let special := (dots pieces).map (Path.append path)
      let entries := matching (.wild pieces) (← disk.entriesOf path)
      let parts ← (special ++ entries.map (·.path)).mapM (disk.selected directoriesOnly rest)
      return parts.flatten
    else return []
  | [.anywhere], path => do
    if ← disk.isDirectory path then
      let entries ← disk.below depthLimit path
      let parts ← entries.mapM fun e => do
        if ← disk.isDirectory e.path then return [e.path] else return []
      return parts.flatten
    else return []
  | .anywhere :: .anywhere :: rest, path => disk.selected directoriesOnly (.anywhere :: rest) path
  | .anywhere :: component :: rest, path => do
    if ← disk.isDirectory path then
      let entries := matching component (← disk.below depthLimit path)
      let parts ← (entries.map (·.path)).mapM (disk.selected directoriesOnly rest)
      return parts.flatten
    else return []

def select (disk : Disk m) (pattern : Pattern) : m (List Text) :=
  disk.selected pattern.directoriesOnly pattern.components
    (if pattern.isAbsolute then "/".toList else ".".toList)

/-- Paths as they are, and in place of every pattern what it selects.  There is no answer if one
of the patterns is not well formed. -/
def expand (disk : Disk m) : List Text → m (Option (List Text))
  | [] => return some []
  | t :: rest => do
    if Pattern.isOne t then
      match Pattern.read? t with
      | none => return none
      | some pattern =>
        let paths ← disk.select pattern
        return (← disk.expand rest).map (paths ++ ·)
    else return (← disk.expand rest).map (t :: ·)

/-- Paths that are no patterns stay as they are, and the disk is not asked about them. -/
theorem expand_of_plain [LawfulMonad m] (disk : Disk m) {paths : List Text}
    (h : ∀ t ∈ paths, Pattern.isOne t = false) : disk.expand paths = pure (some paths) := by
  induction paths with
  | nil => rfl
  | cons t rest ih =>
    rw [expand, ih fun u hu => h u (List.mem_cons_of_mem t hu)]
    simp [h t List.mem_cons_self]

end Disk

end SchemaIntake
