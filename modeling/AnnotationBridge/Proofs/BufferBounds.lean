import AnnotationBridge.Proofs.Editing
import AnnotationBridge.Proofs.LineView
import AnnotationBridge.Proofs.Tokens

/-!
# Accesses inside a text

A text may be accessed at its own offsets and lines only, and offsets are numbers of 64 bits. An
access outside, a sum that is too large and a difference below zero are faults, which nothing
answers. Here the methods of a buffer are written with each access and each sum checked, and it
turns out that none of them has a fault: each check is implied by what the method has tested before,
and by the text being one that memory can hold.

* `Text.Checked`: methods with faults. `Text.Checked.access`, `Text.Checked.add`,
  `Text.Checked.sub`: what is checked.
* `Text.Checked.run_line` to `Text.Checked.run_tokenAt`: each method does what it does without
  checks.
-/

namespace AnnotationBridge.Text

/-- What nothing answers. -/
inductive Fault where
  /-- The text was accessed where it is not. -/
  | outside
  /-- A number would be negative, or take more than 64 bits. -/
  | overflow
  deriving DecidableEq, Repr

/-- Why a method ends without a value. -/
inductive Stop where
  /-- The error that is answered. -/
  | refused (e : BufferError)
  | fault (f : Fault)
  deriving DecidableEq, Repr

/-- A method with checks, which works on the buffer in place. -/
abbrev Checked (α : Type) := EStateM Stop TextBuffer α

namespace Checked

/-! ### What is checked -/

section Checks

variable {α : Type} {inside : Prop} [Decidable inside] {b : TextBuffer} {m n : Nat}

/-- A value of the text, which is there if the access is inside. -/
def access (inside : Prop) [Decidable inside] (value : α) : Checked α :=
  if inside then return value else throw (.fault .outside)

/-- A sum of offsets. -/
def add (m n : Nat) : Checked Nat :=
  if m + n < 2 ^ 64 then return m + n else throw (.fault .overflow)

/-- A difference of offsets. -/
def sub (m n : Nat) : Checked Nat :=
  if n ≤ m then return m - n else throw (.fault .overflow)

/-- An access inside the bounds gives the value. -/
theorem run_access (h : inside) (value : α) : (access inside value).run b = .ok value b := by
  rw [access, if_pos h]
  rfl

/-- A sum of 64 bits is formed. -/
theorem run_add (h : m + n < 2 ^ 64) : (add m n).run b = .ok (m + n) b := by
  rw [add, if_pos h]
  rfl

/-- A difference that is not negative is formed. -/
theorem run_sub (h : n ≤ m) : (sub m n).run b = .ok (m - n) b := by
  rw [sub, if_pos h]
  rfl

end Checks

/-! ### The text -/

/-- A line with its break. -/
def lineAt (n : Nat) : Checked (List Char) := do
  match (lines (← get).text)[n]? with
  | some l => return l
  | none => throw (.fault .outside)

/-- The line of an offset. -/
def lineOf (index : Nat) : Checked Nat := do
  let b ← get
  access (index ≤ b.size) (TextBuffer.locate (lines b.text) index).line

/-- The offset at which a line starts. -/
def startOfLine (n : Nat) : Checked Nat := do
  let b ← get
  access (n < b.lineCount) (b.lineStart n)

/-- The characters of a range. -/
def cut (range : Span) : Checked (List Char) := do
  let b ← get
  access (range.start ≤ range.stop ∧ range.stop ≤ b.size)
    ((b.text.drop range.start).take (range.stop - range.start))

/-- Puts `s` in the place of a range. -/
def splice (range : Span) (s : List Char) : Checked Unit := do
  let b ← get
  set (← access (range.start ≤ range.stop ∧ range.stop ≤ b.size)
    { b with text := b.text.take range.start ++ s ++ b.text.drop range.stop })

/-- The units before a character of a line. -/
def unitsBefore (l : List Char) (k : Nat) : Checked Nat :=
  access (k ≤ l.length) (units (l.take k))

/-- The character of a line that a unit belongs to. -/
def charOfUnit (l : List Char) (u : Nat) : Checked Nat :=
  access (u ≤ units l) (charsWithin u l)

/-! ### The methods -/

/-- Ends with an error that is answered. -/
def refuse {α : Type} (e : BufferError) : Checked α :=
  throw (.refused e)

/-- What a method answers, or zero if it is refused. -/
def orZero (method : Checked Nat) : Checked Nat :=
  tryCatch method fun
    | .refused _ => return 0
    | .fault f => throw (.fault f)

/-- Counts an edit. -/
def count : Checked Unit :=
  modify fun b => { b with version := b.version + 1 }

/-- A line with its break. -/
def line (n : Nat) : Checked (List Char) := do
  if (← get).lineCount ≤ n then refuse (.positionOutOfBounds ⟨n, 0⟩)
  lineAt n

/-- The characters of a range. -/
def slice (range : Span) : Checked (List Char) := do
  if range.stop < range.start then refuse (.invalidRange range)
  if (← get).size < range.stop then refuse (.invalidCharIndex range.stop)
  cut range

/-- The number of characters of a line that is left without the break characters at its end. -/
def lineLength (n : Nat) : Checked Nat := do
  let l ← line n
  return (l.rdropWhile isBreak).length

/-- Puts `s` in front of the character at `index`. -/
def insert (index : Nat) (s : List Char) : Checked Unit := do
  if (← get).size < index then refuse (.invalidCharIndex index)
  splice ⟨index, index⟩ s
  count

/-- Takes a range out of the text; answers what was taken. -/
def delete (range : Span) : Checked (List Char) := do
  let taken ← slice range
  splice range []
  count
  return taken

/-- Puts `s` in the place of a range: a deletion and an insertion. -/
def replace (range : Span) (s : List Char) : Checked (List Char) := do
  let taken ← delete range
  insert range.start s
  return taken

/-- The line and column of an offset. -/
def position (index : Nat) : Checked Position := do
  if (← get).size < index then refuse (.invalidCharIndex index)
  let n ← lineOf index
  let start ← startOfLine n
  let column ← sub index start
  return ⟨n, column⟩

/-- The offset of a line and a UTF-16 column. -/
def indexOfUtf16 (p : Position) : Checked Nat := do
  if (← get).lineCount ≤ p.line then return (← get).size
  let start ← startOfLine p.line
  let l ← lineAt p.line
  let length ← orZero (lineLength p.line)
  let width ← unitsBefore l length
  let column ← charOfUnit l (min p.column width)
  add start (min column length)

/-- The line and the UTF-16 column of an offset. -/
def utf16Position (index : Nat) : Checked Position := do
  let p ← position index
  let l ← lineAt p.line
  let column ← unitsBefore l p.column
  return ⟨p.line, column⟩

/-- Looks through consecutive pieces from `start` on for the one that contains `column`. `ending` is
a piece before them that ends there. -/
def findPiece (column : Nat) : (start : Nat) → (ending : Option Span) → List (List Char) →
    Checked (Option Span)
  | _, ending, [] => return ending
  | start, ending, w :: rest => do
    let stop ← add start w.length
    if start ≤ column ∧ column < stop then return some ⟨start, stop⟩
    findPiece column stop (if stop = column then some ⟨start, stop⟩ else ending) rest

/-- The word that an offset stands in. -/
def tokenAt (index : Nat) : Checked Span := do
  if (← get).size < index then refuse (.invalidCharIndex index)
  let n ← lineOf index
  let start ← startOfLine n
  let column ← sub index start
  let l ← lineAt n
  match ← findPiece column 0 none (words (l.rdropWhile isBreak)) with
  | some piece => return ⟨← add start piece.start, ← add start piece.stop⟩
  | none => return ⟨index, index⟩

/-! ### No access is outside -/

variable {b : TextBuffer} {L : List (List Char)} {l : List Char} {n k : Nat}

/-- A refusal leaves the buffer alone. -/
theorem run_refuse {α : Type} (e : BufferError) :
    (refuse e : Checked α).run b = .error (.refused e) b := rfl

/-- What a method answers is kept. -/
theorem run_orZero_of_ok {method : Checked Nat} {b' : TextBuffer} (h : method.run b = .ok n b') :
    (orZero method).run b = .ok n b' := by
  have hmethod : method b = .ok n b' := h
  simp only [orZero, EStateM.run, tryCatch, tryCatchThe, MonadExceptOf.tryCatch, EStateM.tryCatch,
    hmethod]

/-- A line that exists can be accessed. -/
theorem run_lineAt (hl : (lines b.text)[n]? = some l) : (lineAt n).run b = .ok l b := by
  simp only [lineAt, EStateM.run_bind, EStateM.run_get, hl, EStateM.run_pure]

/-- The start of a line that exists can be accessed. -/
theorem run_startOfLine (hl : (lines b.text)[n]? = some l) :
    (startOfLine n).run b = .ok (b.lineStart n) b := by
  have hn : n < b.lineCount := (List.getElem?_eq_some_iff.1 hl).1
  simp only [startOfLine, EStateM.run_bind, EStateM.run_get, run_access hn]

/-- The line of an offset in the text can be found. -/
theorem run_lineOf (h : IsColumn (lines b.text) n l k) :
    (lineOf (b.lineStart n + k)).run b = .ok n b := by
  have hinside : b.lineStart n + k ≤ b.size := TextBuffer.lineStart_add_le_size h.line h.le_length
  have hline : TextBuffer.locate (lines b.text) (b.lineStart n + k) = ⟨n, k⟩ :=
    TextBuffer.locate_startOf_add h
  simp only [lineOf, EStateM.run_bind, EStateM.run_get, run_access hinside, hline]

/-- How a method ends that does what is said, and to a buffer with the given text. -/
def ended {α : Type} (b : TextBuffer) :
    Except BufferError (α × TextBuffer) → EStateM.Result Stop TextBuffer α
  | .ok (a, b') => .ok a b'
  | .error e => .error (.refused e) b

/-- How a method ends that reads what is said. -/
def read {α : Type} (b : TextBuffer) (r : Except BufferError α) : EStateM.Result Stop TextBuffer α :=
  ended b (r.map (·, b))

/-- Reading a line has no fault. -/
theorem run_line (b : TextBuffer) (n : Nat) : (line n).run b = read b (b.line n) := by
  cases hl : (lines b.text)[n]? with
  | some l =>
    have hn : ¬ b.lineCount ≤ n := Nat.not_le.2 (List.getElem?_eq_some_iff.1 hl).1
    simp only [line, EStateM.run_bind, EStateM.run_get, if_neg hn, run_lineAt hl,
      TextBuffer.line_eq_ok_iff.2 hl]
    rfl
  | none =>
    have hn : b.lineCount ≤ n := List.getElem?_eq_none_iff.1 hl
    simp only [line, TextBuffer.line, hl, EStateM.run_bind, EStateM.run_get, if_pos hn, run_refuse]
    rfl

/-- Reading a range has no fault. -/
theorem run_slice (b : TextBuffer) (range : Span) :
    (slice range).run b = read b (b.slice range) := by
  by_cases hinverted : range.stop < range.start
  · simp only [slice, EStateM.run_bind, if_pos hinverted, run_refuse,
      b.slice_of_inverted hinverted]
    rfl
  · have hordered := Nat.not_lt.1 hinverted
    by_cases houtside : b.size < range.stop
    · simp only [slice, EStateM.run_bind, EStateM.run_get, if_neg hinverted, if_pos houtside,
        run_refuse, TextBuffer.slice_of_outside hordered houtside]
      rfl
    · have hinside : range.start ≤ range.stop ∧ range.stop ≤ b.size :=
        ⟨hordered, Nat.not_lt.1 houtside⟩
      simp only [slice, cut, EStateM.run_bind, EStateM.run_get, if_neg hinverted, if_neg houtside,
        run_access hinside, TextBuffer.slice]
      rfl

/-- Measuring a line has no fault. -/
theorem run_lineLength (b : TextBuffer) (n : Nat) :
    (lineLength n).run b = read b (b.lineLength n) := by
  cases hl : (lines b.text)[n]? with
  | some l =>
    have hcontent := (areLines_lines b.text).lineContent_eq_rdropWhile hl
    simp only [lineLength, EStateM.run_bind, run_line, TextBuffer.line_eq_ok_iff.2 hl,
      TextBuffer.lineLength_eq hl, hcontent]
    rfl
  | none =>
    simp only [lineLength, EStateM.run_bind, run_line, TextBuffer.line, TextBuffer.lineLength, hl]
    rfl

/-- Inserting has no fault. -/
theorem run_insert (b : TextBuffer) (index : Nat) (s : List Char) :
    (insert index s).run b = ended b ((b.insert index s).map ((), ·)) := by
  by_cases houtside : b.size < index
  · simp only [insert, EStateM.run_bind, EStateM.run_get, if_pos houtside, run_refuse,
      TextBuffer.insert_of_outside houtside]
    rfl
  · have hinside : index ≤ index ∧ index ≤ b.size := ⟨Nat.le_refl _, Nat.not_lt.1 houtside⟩
    simp only [insert, splice, count, EStateM.run_bind, EStateM.run_get, if_neg houtside,
      run_access hinside, EStateM.run_modify, TextBuffer.insert]
    rfl

/-- Deleting has no fault. -/
theorem run_delete (b : TextBuffer) (range : Span) :
    (delete range).run b = ended b (b.delete range) := by
  rcases spliced_or_refused b range [] with ⟨taken, text', h⟩ | ⟨e, h⟩
  · have hinside : range.start ≤ range.stop ∧ range.stop ≤ b.size := h.bounds
    have hslice : (slice range).run b = .ok taken b := by
      rw [run_slice, TextBuffer.slice_of_spliced h]
      rfl
    simp only [delete, splice, count, EStateM.run_bind, EStateM.run_get, hslice,
      run_access hinside, EStateM.run_set, EStateM.run_modify, EStateM.run_pure, h.text_eq,
      TextBuffer.delete_of_spliced h]
    rfl
  · have hslice : (slice range).run b = .error (.refused e) b := by
      rw [run_slice, h]
      rfl
    simp only [delete, EStateM.run_bind, hslice, TextBuffer.delete_of_slice_eq_error h]
    rfl

/-- Once the range is taken out, its start is still inside the text. -/
theorem run_replace (b : TextBuffer) (range : Span) (s : List Char) :
    (replace range s).run b = ended b (b.replace range s) := by
  rcases spliced_or_refused b range s with ⟨taken, text', h⟩ | ⟨e, h⟩
  · obtain ⟨rest, hdelete, hinsert⟩ := h.split
    have hdeleted : (delete range).run b = .ok taken ⟨rest, b.version + 1⟩ := by
      rw [run_delete, TextBuffer.delete_of_spliced hdelete]
      rfl
    have hinserted : (insert range.start s).run ⟨rest, b.version + 1⟩ =
        .ok () ⟨text', b.version + 2⟩ := by
      rw [run_insert, TextBuffer.insert_of_spliced hinsert]
      rfl
    simp only [replace, EStateM.run_bind, hdeleted, hinserted, EStateM.run_pure,
      TextBuffer.replace_of_spliced h]
    rfl
  · have hdeleted : (delete range).run b = .error (.refused e) b := by
      rw [run_delete, TextBuffer.delete_of_slice_eq_error h]
      rfl
    simp only [replace, EStateM.run_bind, hdeleted, TextBuffer.replace_of_slice_eq_error h]
    rfl

/-- **No offset of the text is before the start of its line.** -/
theorem run_position (b : TextBuffer) (index : Nat) :
    (position index).run b = read b (b.position index) := by
  by_cases houtside : b.size < index
  · simp only [position, EStateM.run_bind, EStateM.run_get, if_pos houtside, run_refuse,
      TextBuffer.position]
    rfl
  · obtain ⟨n, l, k, hcol, rfl⟩ := TextBuffer.exists_lineStart_add (Nat.not_lt.1 houtside)
    simp only [position, EStateM.run_bind, EStateM.run_get, if_neg houtside, run_lineOf hcol,
      run_startOfLine hcol.line, run_sub (Nat.le_add_right _ _), EStateM.run_pure,
      TextBuffer.position_of_isColumn hcol, Nat.add_sub_cancel_left]
    rfl

/-- Finding the column of an offset in 16-bit units has no fault. -/
theorem run_utf16Position (b : TextBuffer) (index : Nat) :
    (utf16Position index).run b = read b (b.utf16Position index) := by
  by_cases houtside : b.size < index
  · simp only [utf16Position, EStateM.run_bind, run_position, TextBuffer.utf16Position,
      TextBuffer.position, if_pos houtside]
    rfl
  · obtain ⟨n, l, k, hcol, rfl⟩ := TextBuffer.exists_lineStart_add (Nat.not_lt.1 houtside)
    have hposition : (position (b.lineStart n + k)).run b = .ok ⟨n, k⟩ b := by
      rw [run_position, TextBuffer.position_of_isColumn hcol]
      rfl
    simp only [utf16Position, EStateM.run_bind, hposition, run_lineAt hcol.line, unitsBefore,
      run_access hcol.le_length, EStateM.run_pure, TextBuffer.utf16Position_of_isColumn hcol]
    rfl

/-- The column that is looked up in a line is at most the width of its content, and the character
that is found is the one that is found in the content. -/
theorem charsWithin_min_units (column : Nat) (l : List Char) :
    min column (units (lineContent l)) ≤ units l ∧
      min (charsWithin (min column (units (lineContent l))) l) (lineContent l).length =
        charsWithin column (lineContent l) := by
  obtain ⟨ending, hline⟩ : lineContent l <+: l := List.takeWhile_prefix _
  have hunits : units l = units (lineContent l) + units ending := by rw [← units_append, hline]
  have hle := lineContent_length_le l
  -- in both, as many characters of the content are counted as fit into the column
  have hiff : ∀ k, k ≤ (lineContent l).length →
      (k ≤ charsWithin (min column (units (lineContent l))) l ↔
        k ≤ charsWithin column (lineContent l)) := by
    intro k hk
    have htake : units ((lineContent l).take k) ≤ units (lineContent l) := by
      conv_rhs => rw [← List.take_append_drop k (lineContent l), units_append]
      exact Nat.le_add_right _ _
    rw [le_charsWithin_iff (Nat.le_trans hk hle), le_charsWithin_iff hk, take_eq_take_lineContent hk]
    omega
  have hcount := charsWithin_le_length column (lineContent l)
  refine ⟨by omega, Nat.le_antisymm ?_ ?_⟩
  · exact (hiff _ (Nat.min_le_right _ _)).1 (Nat.min_le_left _ _)
  · exact Nat.le_min.2 ⟨(hiff _ hcount).2 (Nat.le_refl _), hcount⟩

/-- **A column is cut down to its line before it is looked up**, and a line that is not there is
never looked up. -/
theorem run_indexOfUtf16 (b : TextBuffer) (fits : b.size < 2 ^ 64) (p : Position) :
    (indexOfUtf16 p).run b = .ok (b.indexOfUtf16 p) b := by
  cases hl : (lines b.text)[p.line]? with
  | none =>
    have hn : b.lineCount ≤ p.line := List.getElem?_eq_none_iff.1 hl
    simp only [indexOfUtf16, EStateM.run_bind, EStateM.run_get, if_pos hn, EStateM.run_pure,
      TextBuffer.indexOfUtf16_of_lineCount_le hn]
  | some l =>
    have hn : ¬ b.lineCount ≤ p.line := Nat.not_le.2 (List.getElem?_eq_some_iff.1 hl).1
    have hlength : (orZero (lineLength p.line)).run b = .ok (lineContent l).length b := by
      have hanswered : (lineLength p.line).run b = .ok (lineContent l).length b := by
        rw [run_lineLength, TextBuffer.lineLength_eq hl]
        rfl
      exact run_orZero_of_ok hanswered
    have hcontent : (unitsBefore l (lineContent l).length).run b =
        .ok (units (lineContent l)) b := by
      rw [unitsBefore, run_access (lineContent_length_le l),
        take_eq_take_lineContent (Nat.le_refl _), List.take_length]
    obtain ⟨hwidth, hcolumn⟩ := charsWithin_min_units p.column l
    have hsum : b.lineStart p.line + charsWithin p.column (lineContent l) < 2 ^ 64 := by
      have hinside := TextBuffer.lineStart_add_le_size hl (lineContent_length_le l)
      have hcount := charsWithin_le_length p.column (lineContent l)
      omega
    simp only [indexOfUtf16, EStateM.run_bind, EStateM.run_get, if_neg hn, run_startOfLine hl,
      run_lineAt hl, hlength, hcontent, charOfUnit, run_access hwidth, hcolumn, run_add hsum,
      TextBuffer.indexOfUtf16_of_line hl]

/-- A piece is found as without checks, as long as the pieces end at an offset of 64 bits. -/
theorem run_findPiece {column start : Nat} {ending : Option Span} {ws : List (List Char)}
    (hstart : start ≤ column) (fits : start + ws.flatten.length < 2 ^ 64) :
    (findPiece column start ending ws).run b =
      .ok ((TextBuffer.pieceAt column start ws).or ending) b := by
  induction ws generalizing start ending with
  | nil => rfl
  | cons w ws ih =>
    rw [List.flatten_cons, List.length_append, ← Nat.add_assoc] at fits
    have hsum : start + w.length < 2 ^ 64 := by omega
    by_cases hlt : column < start + w.length
    · simp only [findPiece, EStateM.run_bind, run_add hsum, if_pos (And.intro hstart hlt),
        TextBuffer.pieceAt, if_pos hlt, EStateM.run_pure, Option.some_or]
    · have hnot : ¬ (start ≤ column ∧ column < start + w.length) := fun h => hlt h.2
      simp only [findPiece, EStateM.run_bind, run_add hsum, if_neg hnot,
        TextBuffer.pieceAt, if_neg hlt]
      rw [ih (Nat.not_lt.1 hlt) fits, Option.or_assoc]
      simp only [eq_comm (a := column)]
      by_cases heq : start + w.length = column
      · simp [heq]
      · simp [heq]

/-- What is found is one of the pieces. -/
theorem mem_of_pieceAt {column low : Nat} {ws : List (List Char)} {s : Span}
    (h : TextBuffer.pieceAt column low ws = some s) : s ∈ spansFrom low ws := by
  induction ws generalizing low with
  | nil => cases h
  | cons w ws ih =>
    rw [TextBuffer.pieceAt] at h
    split at h
    · exact Option.some.inj h ▸ List.mem_cons_self
    · rcases Option.or_eq_some_iff.1 h with h | ⟨-, h⟩
      · exact List.mem_cons_of_mem _ (ih h)
      · split at h
        · exact Option.some.inj h ▸ List.mem_cons_self
        · cases h

/-- Finding the word at an offset has no fault, if the text is one that memory can hold. -/
theorem run_tokenAt (b : TextBuffer) (fits : b.size < 2 ^ 64) (index : Nat) :
    (tokenAt index).run b = read b (b.tokenAt index) := by
  by_cases houtside : b.size < index
  · simp only [tokenAt, EStateM.run_bind, EStateM.run_get, if_pos houtside, run_refuse,
      TextBuffer.tokenAt_of_size_lt houtside]
    rfl
  · obtain ⟨n, l, k, hcol, rfl⟩ := TextBuffer.exists_lineStart_add (Nat.not_lt.1 houtside)
    have hcontent := (areLines_lines b.text).lineContent_eq_rdropWhile hcol.line
    have hend := TextBuffer.lineStart_add_le_size hcol.line (lineContent_length_le l)
    have hpieces : (findPiece k 0 none (words (lineContent l))).run b =
        .ok (TextBuffer.pieceAt k 0 (words (lineContent l))) b := by
      have hsum : 0 + (words (lineContent l)).flatten.length < 2 ^ 64 := by
        rw [words_flatten]
        omega
      rw [run_findPiece (Nat.zero_le k) hsum, Option.or_none]
    simp only [tokenAt, EStateM.run_bind, EStateM.run_get, if_neg houtside, run_lineOf hcol,
      run_startOfLine hcol.line, run_sub (Nat.le_add_right _ _), run_lineAt hcol.line,
      Nat.add_sub_cancel_left, ← hcontent, hpieces]
    have hmoved := TextBuffer.map_shift_pieceAt (b.lineStart n) k 0 (words (lineContent l))
    rw [Nat.add_zero] at hmoved
    rw [TextBuffer.tokenAt_eq hcol, ← hmoved]
    cases hpiece : TextBuffer.pieceAt k 0 (words (lineContent l)) with
    | none => rfl
    | some piece =>
      have hmem := mem_of_pieceAt hpiece
      have hbounds := (tiles_spansFrom (fun _ => ne_nil_of_mem_words) 0).bounds hmem
      rw [words_flatten] at hbounds
      obtain ⟨-, hordered, hstop⟩ := hbounds
      have hstartSum : b.lineStart n + piece.start < 2 ^ 64 := by omega
      have hstopSum : b.lineStart n + piece.stop < 2 ^ 64 := by omega
      simp only [EStateM.run_bind, run_add hstartSum, run_add hstopSum, EStateM.run_pure]
      rfl

end Checked

end AnnotationBridge.Text
