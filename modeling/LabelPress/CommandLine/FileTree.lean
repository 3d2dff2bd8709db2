import LabelPress.Error
import LabelPress.Text.Chars

/-!
# Files in memory

A tree of directories and files under a working directory. A path is followed name by name from
there; nothing is found outside of the tree.

## Main definitions

* `FileTree` - the directories and files.
* `FileTree.entry` - what stands under a name.
* `FileTree.read`, `FileTree.write`, `FileTree.createDirectory` - the operations on paths.
-/

namespace LabelPress.CommandLine

open LabelPress.Text

/-- The names from the working directory down. -/
abbrev Location := List String

/-- Directories and files under a working directory. -/
structure FileTree where
  /-- The directories below the working directory. -/
  directories : List Location := []
  files : List (Location × List UInt8) := []
deriving Repr

/-- What stands under a name. A location is missing outside of the tree. -/
inductive Entry where
  | directory (place : Option Location)
  | file (place : Location) (bytes : List UInt8)
  | absent (place : Option Location)
deriving Repr

/-- The longest name in bytes. -/
def maxName : Nat := 255

/-- The longest path in bytes. -/
def maxPath : Nat := 4095

/-- The names of a path; an empty one between two slashes or after the last counts. -/
def names (path : String) : List String :=
  (splitAll '/' path.toList).map String.ofList

/-- Where a path starts: in the working directory, or at the root, which is outside. -/
def startOf (path : String) : Option Location :=
  if path.startsWith "/" then none else some []

namespace FileTree

/-- What stands under a name in a directory. -/
def entry (tree : FileTree) (place : Option Location) (name : String) : Except FileFault Entry :=
  if name = "" ∨ name = "." then .ok (.directory place)
  else if name = ".." then
    .ok (.directory (place.bind fun p => if p = [] then none else some p.dropLast))
  else if maxName < name.utf8ByteSize then .error .nameTooLong
  else match place with
    | none => .ok (.absent none)
    | some p =>
      let below := p ++ [name]
      if below ∈ tree.directories then .ok (.directory (some below))
      else match tree.files.lookup below with
        | some bytes => .ok (.file below bytes)
        | none => .ok (.absent (some below))

/-- The directory under a name. -/
def enter (tree : FileTree) (place : Option Location) (name : String) :
    Except FileFault (Option Location) := do
  match ← tree.entry place name with
  | .directory place => return place
  | .file _ _ => throw .notDirectory
  | .absent _ => throw .notFound

/-- What no path may be: empty, too long, or with the character that ends it. -/
def checkPath (path : String) : Except FileFault Unit :=
  if path = "" then .error .notFound
  else if '\x00' ∈ path.toList then .error (.other "file name contained an unexpected NUL byte")
  else if maxPath < path.utf8ByteSize then .error .nameTooLong
  else .ok ()

/-- What stands under the last of some names. -/
def find (tree : FileTree) (start : Option Location) (names : List String) :
    Except FileFault Entry := do
  let place ← names.dropLast.foldlM tree.enter start
  tree.entry place (names.getLastD "")

/-- The bytes of a file. -/
def read (tree : FileTree) (path : String) : Except FileFault (List UInt8) := do
  checkPath path
  match ← tree.find (startOf path) (names path) with
  | .file _ bytes => return bytes
  | .directory _ => throw .isDirectory
  | .absent _ => throw .notFound

/-- The tree with a file at a location. -/
def put (tree : FileTree) (place : Location) (bytes : List UInt8) : FileTree :=
  { tree with files := (place, bytes) :: tree.files.filter (·.1 ≠ place) }

/-- The names without the empty ones at the end. -/
def dropSlashes (names : List String) : List String :=
  (names.reverse.dropWhile (· = "")).reverse

/-- The file that was put at a location is found there. -/
@[simp] theorem lookup_put (tree : FileTree) (place : Location) (bytes : List UInt8) :
    (tree.put place bytes).files.lookup place = some bytes := by
  simp [put]

/-- Writes a file in a directory that exists. A path that ends in a slash names a directory. -/
def write (tree : FileTree) (path : String) (bytes : List UInt8) : Except FileFault FileTree := do
  checkPath path
  let parts := dropSlashes (names path)
  let entry ← tree.find (startOf path) parts
  if path.endsWith "/" then throw .isDirectory
  match entry with
  | .file place _ | .absent (some place) => return tree.put place bytes
  | .directory _ => throw .isDirectory
  | .absent none => throw .notFound

/-- Creates the directories that are missing on a path. -/
def createFrom (tree : FileTree) (place : Option Location) :
    List String → Except FileFault FileTree
  | [] => return tree
  | name :: names => do
    match ← tree.entry place name with
    | .directory place => createFrom tree place names
    | .file _ _ => throw (if names = [] then .exists else .notDirectory)
    | .absent (some place) =>
      createFrom { tree with directories := place :: tree.directories } (some place) names
    | .absent none => throw .notFound

/-- Creates a directory and those above it that are missing. A path that ends in a dot names a
directory that exists. -/
def createDirectory (tree : FileTree) (path : String) : Except FileFault FileTree := do
  checkPath path
  let parts := dropSlashes (names path)
  if parts.getLast? = some "." then
    let _ ← parts.foldlM tree.enter (startOf path)
    return tree
  else createFrom tree (startOf path) parts

/-- The tree of files by path, with the directories that they need. -/
def ofFiles (files : List (String × List UInt8)) : FileTree :=
  files.foldl
    (fun tree (path, bytes) =>
      let place := names path
      let above := (List.range place.length).map (place.take ·)
      { tree.put place bytes with directories := tree.directories ++ above.filter (· ≠ []) }) {}

/-- The files that another tree does not have, or not with the same bytes. -/
def newFiles (tree before : FileTree) : List (Location × List UInt8) :=
  tree.files.filter fun (place, bytes) => before.files.lookup place ≠ some bytes

end FileTree

example : ((FileTree.ofFiles [("a/b", [1])]).read "./a/../a//b").toOption = some [1] := by
  decide +kernel

end LabelPress.CommandLine
