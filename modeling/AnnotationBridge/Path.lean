import AnnotationBridge.Text.Utf8

/-!
# Paths

A `Path` is a sequence of bytes. It is read as components separated by `/`: repeated separators and
`.` count for nothing, except for a `.` at the very start, and `..` is a component of its own.

* `Path.components`: the components, on which paths are compared.
* `Path.fileName`, `Path.parent`, `Path.join`, `Path.relativeTo`, `Path.isUnder`.
* `extension`: the extension of a file name.
-/

namespace AnnotationBridge

/-- The byte that separates components. -/
def slash : UInt8 := 0x2F

/-- The byte of a full stop. -/
def dot : UInt8 := 0x2E

/-- The pieces between separators; there is one more piece than there are separators. -/
def splitAtByte (sep : UInt8) : List UInt8 → List (List UInt8)
  | [] => [[]]
  | b :: rest =>
    if b = sep then [] :: splitAtByte sep rest
    else match splitAtByte sep rest with
      | [] => [[b]]
      | piece :: pieces => (b :: piece) :: pieces

/-- There is a piece, which may be empty. -/
theorem splitAtByte_ne_nil (sep : UInt8) (bytes : List UInt8) : splitAtByte sep bytes ≠ [] := by
  fun_cases splitAtByte sep bytes <;> simp_all

/-- The pieces of a text that starts with a separator. -/
theorem splitAtByte_sep (sep : UInt8) (rest : List UInt8) :
    splitAtByte sep (sep :: rest) = [] :: splitAtByte sep rest := by
  simp [splitAtByte]

/-- A path of the file system. -/
structure Path where
  bytes : List UInt8
  deriving DecidableEq, Repr, Inhabited

namespace Path

/-- The path that a text spells. -/
def ofString (s : String) : Path :=
  ⟨Text.Utf8.encode s⟩

/-- The text of a path, if its bytes are text. -/
def toString? (p : Path) : Option String :=
  Text.Utf8.decode? p.bytes

/-- The text that shows a path; bytes that are no text are replaced. -/
def display (p : Path) : String :=
  Text.Utf8.display p.bytes

/-- Whether the path starts at the root. -/
def isAbsolute (p : Path) : Bool :=
  p.bytes.head? = some slash

/-! ### Components -/

/-- One step of a path. -/
inductive Component where
  | root
  | current
  | parent
  | name (bytes : List UInt8)
  deriving DecidableEq, Repr

/-- The component that a piece between separators stands for, if any. -/
def Component.ofPiece (piece : List UInt8) : Option Component :=
  if piece = [] ∨ piece = [dot] then none
  else if piece = [dot, dot] then some .parent
  else some (.name piece)

/-- The bytes of a component other than the root. -/
def Component.bytes : Component → List UInt8
  | .root => []
  | .current => [dot]
  | .parent => [dot, dot]
  | .name bytes => bytes

/-- The component before the pieces that is not one of them: the root, or a `.` at the start. -/
def leadComponent (p : Path) : Option Component :=
  if p.isAbsolute then some .root
  else if (splitAtByte slash p.bytes).head? = some [dot] then some .current
  else none

/-- The components of a path. -/
def components (p : Path) : List Component :=
  p.leadComponent.toList ++ (splitAtByte slash p.bytes).filterMap Component.ofPiece

/-- The last component, if it is a name. -/
def fileName (p : Path) : Option (List UInt8) :=
  match p.components.getLast? with
  | some (.name bytes) => some bytes
  | _ => none

/-- Whether the components of `base` are the first components of `p`. -/
def isUnder (base p : Path) : Bool :=
  base.components.isPrefixOf p.components

/-! ### Taking apart and putting together -/

/-- The pieces put together with separators between them. -/
def joinPieces : List (List UInt8) → List UInt8
  | [] => []
  | [piece] => piece
  | piece :: next :: rest => piece ++ slash :: joinPieces (next :: rest)

/-- What is left of a list of pieces after the first `n` components. -/
def dropComponents : (n : Nat) → List (List UInt8) → List (List UInt8)
  | 0, pieces => pieces
  | _ + 1, [] => []
  | n + 1, piece :: rest =>
    if (Component.ofPiece piece).isSome then dropComponents n rest
    else dropComponents (n + 1) rest

/-- Pieces without those at the start that stand for no component. -/
def trimStart (pieces : List (List UInt8)) : List (List UInt8) :=
  pieces.dropWhile fun piece => (Component.ofPiece piece).isNone

/-- Pieces without those at the end that stand for no component. -/
def trimEnd (pieces : List (List UInt8)) : List (List UInt8) :=
  (trimStart pieces.reverse).reverse

/-- The path as it is spelled, less what stands for no component at its end. -/
def trimmed (p : Path) : Path :=
  let pieces := splitAtByte slash p.bytes
  match p.leadComponent with
  | some .root => ⟨slash :: joinPieces (trimEnd pieces.tail)⟩
  | some _ => ⟨joinPieces ([dot] :: trimEnd pieces.tail)⟩
  | none => ⟨joinPieces (trimEnd pieces)⟩

/-- What follows `base` in `p`, as it is spelled there, if `p` is under `base`. -/
def relativeTo (base p : Path) : Option Path :=
  if base.isUnder p then
    some (match base.components.length with
      | 0 => p.trimmed
      | n =>
        let pieces := dropComponents (n - p.leadComponent.toList.length) (splitAtByte slash p.bytes)
        ⟨joinPieces (trimEnd (trimStart pieces))⟩)
  else none

/-- `p` as seen from `base`: an absolute path stays as it is. -/
def join (base p : Path) : Path :=
  if p.isAbsolute then p
  else if base.bytes = [] ∨ base.bytes.getLast? = some slash then ⟨base.bytes ++ p.bytes⟩
  else ⟨base.bytes ++ slash :: p.bytes⟩

/-- The path that spells the given components. -/
def ofComponents : List Component → Path
  | .root :: rest => ⟨slash :: joinPieces (rest.map Component.bytes)⟩
  | parts => ⟨joinPieces (parts.map Component.bytes)⟩

/-- The directory that holds the last component; the root and the empty path have none. -/
def parent (p : Path) : Option Path :=
  match p.components.getLast? with
  | none | some .root => none
  | some _ => some (ofComponents p.components.dropLast)

/-- An absolute path is not joined to another one. -/
theorem join_absolute {p : Path} (base : Path) (h : p.isAbsolute = true) : base.join p = p := by
  simp [join, h]

/-- A path is under another exactly if its components start with those of the other. -/
theorem isUnder_iff {base p : Path} :
    base.isUnder p = true ↔ base.components <+: p.components :=
  List.isPrefixOf_iff_prefix

/-- Each path is under itself. -/
theorem isUnder_self (p : Path) : p.isUnder p = true := by
  simp [isUnder]

end Path

/-! ### File names -/

/-- The characters after the last full stop, if there is a full stop. -/
def afterLastDot : List Char → Option (List Char)
  | [] => none
  | c :: rest => (afterLastDot rest).or (if c = '.' then some rest else none)

/-- The extension of a file name: what follows its last full stop. A name that begins with its only
full stop has none. -/
def extension (name : List Char) : Option (List Char) :=
  match name with
  | [] => none
  | first :: rest => if first = '.' ∧ rest = ['.'] then none else afterLastDot rest

end AnnotationBridge
