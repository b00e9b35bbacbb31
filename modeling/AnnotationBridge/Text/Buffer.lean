import AnnotationBridge.Text.Line
import AnnotationBridge.Text.Position
import AnnotationBridge.Text.Utf16
import AnnotationBridge.Text.Word

/-!
# Text buffers

A `TextBuffer` is a text with a counter of its edits. Offsets count characters. Positions come as a
line with a column in characters (`position`) or in UTF-16 units (`utf16Position`), and
`indexOfUtf16` leads back from any pair of numbers to the nearest offset at or before it.

* `slice`, `insert`, `delete`, `replace`: reading and editing a range; a range that is inverted or
  reaches past the end is refused and changes nothing.
* `line`, `lineLength`: one line of the text.
* `tokenAt`: the word that an offset stands in.
-/

namespace AnnotationBridge

/-- A result that was mapped comes from one. -/
theorem exists_of_map_eq_ok {α β ε : Type} {f : α → β} {x : Except ε α} {b : β}
    (h : x.map f = .ok b) : ∃ a, x = .ok a ∧ f a = b := by
  cases x with
  | error err => cases h
  | ok a => exact ⟨a, rfl, Except.ok.inj h⟩

namespace Text

/-- Why a buffer refuses an access. -/
inductive BufferError where
  | positionOutOfBounds (position : Position)
  | invalidCharIndex (index : Nat)
  | invalidRange (range : Span)
  deriving DecidableEq, Repr

namespace BufferError

/-- The text of the error. -/
def message : BufferError → String
  | .positionOutOfBounds p =>
    "Position " ++ toString p.line ++ ":" ++ toString p.column ++ " is out of bounds"
  | .invalidCharIndex n => "Invalid character index: " ++ toString n
  | .invalidRange r =>
    "Invalid range: start " ++ toString r.start ++ " is after end " ++ toString r.stop

end BufferError

/-- A text and the number of edits made to it. -/
structure TextBuffer where
  text : List Char
  version : Nat
  deriving DecidableEq, Repr

namespace TextBuffer

/-- A buffer that has not been edited yet. -/
def ofString (s : String) : TextBuffer :=
  ⟨s.toList, 0⟩

/-- The number of characters. -/
def size (b : TextBuffer) : Nat :=
  b.text.length

/-- The number of lines, one more than there are breaks. -/
def lineCount (b : TextBuffer) : Nat :=
  (lines b.text).length

/-- Whether the text is empty. -/
def isEmpty (b : TextBuffer) : Bool :=
  b.text.isEmpty

/-! ### Reading -/

/-- The characters of a range, which must be ordered and inside the text. -/
def slice (b : TextBuffer) (range : Span) : Except BufferError (List Char) :=
  if range.stop < range.start then .error (.invalidRange range)
  else if b.size < range.stop then .error (.invalidCharIndex range.stop)
  else .ok ((b.text.drop range.start).take (range.stop - range.start))

/-- A line with its break. -/
def line (b : TextBuffer) (n : Nat) : Except BufferError (List Char) :=
  match (lines b.text)[n]? with
  | some l => .ok l
  | none => .error (.positionOutOfBounds ⟨n, 0⟩)

/-- The number of characters of a line before its break. -/
def lineLength (b : TextBuffer) (n : Nat) : Except BufferError Nat :=
  (b.line n).map (lineContent · |>.length)

/-! ### Editing -/

/-- Puts `s` in front of the character at `index`. -/
def insert (b : TextBuffer) (index : Nat) (s : List Char) : Except BufferError TextBuffer :=
  if b.size < index then .error (.invalidCharIndex index)
  else .ok ⟨b.text.take index ++ s ++ b.text.drop index, b.version + 1⟩

/-- Takes a range out of the text; answers what was taken. -/
def delete (b : TextBuffer) (range : Span) : Except BufferError (List Char × TextBuffer) := do
  let taken ← b.slice range
  .ok (taken, ⟨b.text.take range.start ++ b.text.drop range.stop, b.version + 1⟩)

/-- Puts `s` in the place of a range: a deletion and an insertion. -/
def replace (b : TextBuffer) (range : Span) (s : List Char) :
    Except BufferError (List Char × TextBuffer) := do
  let (taken, rest) ← b.delete range
  let edited ← rest.insert range.start s
  .ok (taken, edited)

/-! ### Positions -/

/-- The position of an offset among lines of which it is not past the end. -/
def locate : List (List Char) → Nat → Position
  | [], i => ⟨0, i⟩
  | [_], i => ⟨0, i⟩
  | l :: next :: rest, i =>
    if i < l.length then ⟨0, i⟩ else (locate (next :: rest) (i - l.length)).below

/-- The line and column of an offset. An offset between `\r` and `\n` is on the line that they
end. -/
def position (b : TextBuffer) (index : Nat) : Except BufferError Position :=
  if b.size < index then .error (.invalidCharIndex index)
  else .ok (locate (lines b.text) index)

/-- The offset at which a line starts. -/
def lineStart (b : TextBuffer) (n : Nat) : Nat :=
  ((lines b.text).take n).flatten.length

/-- The line and the UTF-16 column of an offset. -/
def utf16Position (b : TextBuffer) (index : Nat) : Except BufferError Position := do
  let p ← b.position index
  let l ← b.line p.line
  .ok ⟨p.line, units (l.take p.column)⟩

/-- The offset of a line and a UTF-16 column. A column past the content of its line stands for the
end of the content, and a line past the last for the end of the text. -/
def indexOfUtf16 (b : TextBuffer) (p : Position) : Nat :=
  match (lines b.text)[p.line]? with
  | some l => b.lineStart p.line + charsWithin p.column (lineContent l)
  | none => b.size

/-! ### Words -/

/-- The piece that contains `column`, or else ends there, of consecutive pieces from `start` on. -/
def pieceAt (column : Nat) : (start : Nat) → List (List Char) → Option Span
  | _, [] => none
  | start, w :: rest =>
    if column < start + w.length then some ⟨start, start + w.length⟩
    else (pieceAt column (start + w.length) rest).or
      (if column = start + w.length then some ⟨start, start + w.length⟩ else none)

/-- The word that an offset stands in. At the end of the content of a line it is the last word; past
it, as between `\r` and `\n`, and on an empty line it is the empty range at the offset. -/
def tokenAt (b : TextBuffer) (index : Nat) : Except BufferError Span := do
  let p ← b.position index
  let l ← b.line p.line
  .ok (match pieceAt p.column 0 (words (lineContent l)) with
    | some piece => piece.shift (b.lineStart p.line)
    | none => ⟨index, index⟩)

end TextBuffer

end Text

end AnnotationBridge
