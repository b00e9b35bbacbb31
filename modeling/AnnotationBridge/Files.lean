import AnnotationBridge.Path

/-!
# Files

The program sees the file system through `Files`: the bytes of a file, the canonical form of a path,
and whether a path is a directory. `FileTree` is a file system held in memory.

* `FileError`: why a file cannot be used, with the text that the system gives.
* `Files.readText`: the text of a file, which must be UTF-8.
* `FileTree.write`, `FileTree.files`: putting files into a tree and looking at it.
-/

namespace AnnotationBridge

/-- Why a file cannot be used. -/
inductive FileError where
  | notFound
  | isDirectory
  | notDirectory
  | nameTooLong
  | nulInName
  | notText
  | other (text : String)
  deriving DecidableEq, Repr

namespace FileError

/-- The text of the error. -/
def message : FileError → String
  | .notFound => "No such file or directory (os error 2)"
  | .isDirectory => "Is a directory (os error 21)"
  | .notDirectory => "Not a directory (os error 20)"
  | .nameTooLong => "File name too long (os error 36)"
  | .nulInName => "file name contained an unexpected NUL byte"
  | .notText => "stream did not contain valid UTF-8"
  | .other text => text

end FileError

/-- A view of the file system. -/
structure Files where
  /-- The bytes of a file. -/
  read : Path → Except FileError (List UInt8)
  /-- The absolute path without `.`, `..` and links that a path leads to. -/
  canonicalize : Path → Except FileError Path
  /-- Whether a path leads to a directory. -/
  isDirectory : Path → Bool

namespace Files

/-- The text of a file. -/
def readText (files : Files) (path : Path) : Except FileError String := do
  let bytes ← files.read path
  match Text.Utf8.decode? bytes with
  | some text => .ok text
  | none => .error .notText

/-- A view in which there is nothing. -/
def empty : Files where
  read _ := .error .notFound
  canonicalize _ := .error .notFound
  isDirectory _ := false

end Files

/-! ### A file system in memory -/

/-- What a place of a file tree holds. -/
inductive FileNode where
  | file (bytes : List UInt8)
  | directory
  deriving DecidableEq, Repr

/-- A file system in memory: each place, the list of names from the root to it, with what it
holds. -/
structure FileTree where
  nodes : List (List (List UInt8) × FileNode)

namespace FileTree

/-- The tree that holds the root directory only. -/
def empty : FileTree :=
  ⟨[]⟩

/-- What a place holds. -/
def node? (t : FileTree) (place : List (List UInt8)) : Option FileNode :=
  if place = [] then some .directory else t.nodes.lookup place

/-- Makes the directories on the way from `done` to the end of `place`, which is left out. -/
def makeParents (t : FileTree) (done : List (List UInt8)) : List (List UInt8) → FileTree
  | [] | [_] => t
  | name :: next :: rest =>
    let place := done ++ [name]
    let t' := if (t.node? place).isSome then t else ⟨(place, .directory) :: t.nodes⟩
    t'.makeParents place (next :: rest)

/-- Puts a node at a place, and directories on the way to it. -/
def put (t : FileTree) (place : List (List UInt8)) (node : FileNode) : FileTree :=
  let t' := t.makeParents [] place
  ⟨(place, node) :: t'.nodes⟩

/-- The names in the spelling of a place. -/
def placeOf (path : Path) : List (List UInt8) :=
  path.components.filterMap fun
    | .name bytes => some bytes
    | _ => none

/-- Puts a node at the place that an absolute path spells. -/
def write (t : FileTree) (path : Path) (node : FileNode) : FileTree :=
  t.put (placeOf path) node

/-- Follows the pieces of a path from a place. -/
def follow (t : FileTree) (place : List (List UInt8)) :
    List (List UInt8) → Except FileError (List (List UInt8))
  | [] => .ok place
  | piece :: rest =>
    match t.node? place with
    | none => .error .notFound
    | some (.file _) => .error .notDirectory
    | some .directory =>
      if piece = [] ∨ piece = [dot] then t.follow place rest
      else if piece = [dot, dot] then t.follow place.dropLast rest
      else if 255 < piece.length then .error .nameTooLong
      else if (t.node? (place ++ [piece])).isSome then t.follow (place ++ [piece]) rest
      else .error .notFound

/-- The place that a path leads to, from the directory `here` if the path is relative. -/
def find (t : FileTree) (here : Path) (path : Path) : Except FileError (List (List UInt8)) :=
  if path.bytes = [] then .error .notFound
  else if path.bytes.contains 0 then .error .nulInName
  else if 4095 < path.bytes.length then .error .nameTooLong
  else t.follow (if path.isAbsolute then [] else placeOf here) (splitAtByte slash path.bytes)

/-- The view of a tree from the working directory `here`. -/
def files (t : FileTree) (here : Path) : Files where
  read path := do
    let place ← t.find here path
    match t.node? place with
    | some (.file bytes) => .ok bytes
    | some .directory => .error .isDirectory
    | none => .error .notFound
  canonicalize path := do
    let place ← t.find here path
    .ok ⟨slash :: Path.joinPieces place⟩
  isDirectory path :=
    match t.find here path with
    | .ok place => t.node? place == some .directory
    | .error _ => false

end FileTree

end AnnotationBridge
