import AnnotationBridge.Proofs.Lines
import Mathlib.Data.Prod.Lex
import Mathlib.Order.Bounds.Basic

/-!
# Offsets for lines and UTF-16 columns

Any line and UTF-16 column, in the text or not, stands for an offset: the greatest one that is not
after it, where the offset inside a break `\r\n` does not count.

* `Text.le_charsWithin_iff`: `charsWithin` counts as many characters as fit into a column.
* `Text.Position.key`: positions in lexicographic order.
* `Text.TextBuffer.utf16Position_of_isColumn`, `Text.TextBuffer.indexOfUtf16_of_line`: both ways
  between offsets and positions, said of one line.
* `Text.TextBuffer.isGreatest_indexOfUtf16`: which offset a position stands for.
-/

namespace AnnotationBridge.Text

variable {cs l : List Char} {n k i column : Nat} {p q : Position} {b : TextBuffer}

/-! ### Columns of one line -/

/-- **As many characters are counted as fit into the column.** -/
theorem le_charsWithin_iff (hk : k ≤ cs.length) :
    k ≤ charsWithin column cs ↔ units (cs.take k) ≤ column := by
  induction cs generalizing k column with
  | nil =>
    obtain rfl : k = 0 := by simpa using hk
    simp
  | cons c cs ih =>
    cases k with
    | zero => simp
    | succ k =>
      rw [List.take_succ_cons, units_cons, charsWithin]
      have hk' : k ≤ cs.length := by simpa using hk
      split
      · rename_i hfits
        rw [Nat.add_le_add_iff_right, ih hk']
        omega
      · omega

/-- The characters that are counted fit into the column. -/
theorem units_take_charsWithin_le (column : Nat) (cs : List Char) :
    units (cs.take (charsWithin column cs)) ≤ column :=
  (le_charsWithin_iff (charsWithin_le_length column cs)).1 (Nat.le_refl _)

/-- A column past the end counts all characters. -/
theorem charsWithin_of_units_le (h : units cs ≤ column) : charsWithin column cs = cs.length := by
  apply Nat.le_antisymm (charsWithin_le_length column cs)
  rwa [le_charsWithin_iff (Nat.le_refl _), List.take_length]

/-- A column in a character counts the characters before it. -/
theorem charsWithin_of_lt_units (hk : k < cs.length) (hle : units (cs.take k) ≤ column)
    (hlt : column < units (cs.take (k + 1))) : charsWithin column cs = k := by
  have hge : k ≤ charsWithin column cs := (le_charsWithin_iff (Nat.le_of_lt hk)).2 hle
  have hnot : ¬ k + 1 ≤ charsWithin column cs := fun hnext =>
    Nat.not_le_of_lt hlt ((le_charsWithin_iff hk).1 hnext)
  omega

/-! ### The order of positions -/

/-- Positions in lexicographic order: by line, then by column. -/
def Position.key (p : Position) : ℕ ×ₗ ℕ :=
  toLex (p.line, p.column)

/-- Positions are ordered by line, and by column within a line. -/
theorem Position.key_le_key_iff :
    p.key ≤ q.key ↔ p.line < q.line ∨ p.line = q.line ∧ p.column ≤ q.column :=
  Prod.Lex.toLex_le_toLex

namespace TextBuffer

/-! ### Between offsets and positions -/

/-- Reading a line gives the line with that number. -/
theorem line_eq_ok_iff : b.line n = .ok l ↔ (lines b.text)[n]? = some l := by
  unfold line
  cases (lines b.text)[n]? <;> simp

/-- A text is as long as its lines together. -/
theorem size_eq (b : TextBuffer) : b.size = (lines b.text).flatten.length := by
  rw [lines_flatten, size]

/-- A line is inside the text. -/
theorem lineStart_add_le_size (hl : (lines b.text)[n]? = some l) (hk : k ≤ l.length) :
    b.lineStart n + k ≤ b.size := by
  have hnext : startOf (lines b.text) (n + 1) = b.lineStart n + l.length := startOf_succ hl
  have hsize := startOf_le_length (lines b.text) (n + 1)
  rw [size_eq]
  omega

/-- An offset of the text is a column of a line. -/
theorem exists_lineStart_add (hi : i ≤ b.size) :
    ∃ n l k, IsColumn (lines b.text) n l k ∧ i = b.lineStart n + k :=
  exists_isColumn (lines_ne_nil b.text) (by rwa [← size_eq])

/-- The position of a column of a line. -/
theorem position_of_isColumn (h : IsColumn (lines b.text) n l k) :
    b.position (b.lineStart n + k) = .ok ⟨n, k⟩ := by
  have hsize : ¬ b.size < b.lineStart n + k :=
    Nat.not_lt.2 (lineStart_add_le_size h.line h.le_length)
  rw [position, if_neg hsize]
  exact congrArg Except.ok (locate_startOf_add h)

/-- The UTF-16 column of an offset is what its line takes up to there. -/
theorem utf16Position_of_isColumn (h : IsColumn (lines b.text) n l k) :
    b.utf16Position (b.lineStart n + k) = .ok ⟨n, units (l.take k)⟩ := by
  rw [utf16Position, position_of_isColumn h]
  simp only [bind, Except.bind, line_eq_ok_iff.2 h.line]

/-- A position in a line stands for the last offset of its content that fits into the column. -/
theorem indexOfUtf16_of_line (hl : (lines b.text)[p.line]? = some l) :
    b.indexOfUtf16 p = b.lineStart p.line + charsWithin p.column (lineContent l) := by
  rw [indexOfUtf16, hl]

/-- A position after the last line stands for the end of the text. -/
theorem indexOfUtf16_of_lineCount_le (h : b.lineCount ≤ p.line) : b.indexOfUtf16 p = b.size := by
  rw [indexOfUtf16, List.getElem?_eq_none h]

/-- The offset for a position is a column of its line, in the content. -/
theorem isColumn_charsWithin (hl : (lines b.text)[n]? = some l) (column : Nat) :
    IsColumn (lines b.text) n l (charsWithin column (lineContent l)) :=
  (areLines_lines b.text).isColumn hl (charsWithin_le_length column (lineContent l))

/-- The offset for a position is in the line of the position, at a column that is not larger. -/
theorem utf16Position_indexOfUtf16 (hl : (lines b.text)[p.line]? = some l) :
    ∃ column, b.utf16Position (b.indexOfUtf16 p) = .ok ⟨p.line, column⟩ ∧ column ≤ p.column := by
  have hcol := isColumn_charsWithin hl p.column
  refine ⟨_, by rw [indexOfUtf16_of_line hl, utf16Position_of_isColumn hcol], ?_⟩
  rw [take_eq_take_lineContent (charsWithin_le_length p.column (lineContent l))]
  exact units_take_charsWithin_le p.column (lineContent l)

/-! ### The greatest offset -/

/-- The offsets that are not after a position: the text has them, they are not inside a break, and
their line and UTF-16 column are at most those of the position. -/
def offsetsUpTo (b : TextBuffer) (p : Position) : Set ℕ :=
  {i | i ≤ b.size ∧ ¬ InsideBreak b.text i ∧ ∃ q, b.utf16Position i = .ok q ∧ q.key ≤ p.key}

/-- An offset is inside a break exactly if it is one after the content of its line. -/
theorem insideBreak_iff (h : IsColumn (lines b.text) n l k) :
    InsideBreak b.text (b.lineStart n + k) ↔ k = (lineContent l).length + 1 := by
  have := (areLines_lines b.text).insideBreak_iff h
  rwa [lines_flatten] at this

/-- The offset for a position is not after it. -/
theorem indexOfUtf16_mem_offsetsUpTo (b : TextBuffer) (p : Position) :
    b.indexOfUtf16 p ∈ b.offsetsUpTo p := by
  cases hl : (lines b.text)[p.line]? with
  | none =>
    have hcount : b.lineCount ≤ p.line := List.getElem?_eq_none_iff.1 hl
    rw [indexOfUtf16_of_lineCount_le hcount]
    refine ⟨Nat.le_refl _, ?_, ?_⟩
    · rintro ⟨j, hj, -, hlf⟩
      rw [← hj, size, List.getElem?_eq_none (Nat.le_refl _)] at hlf
      cases hlf
    · obtain ⟨n, l, k, hcol, heq⟩ := exists_lineStart_add (Nat.le_refl b.size)
      rw [heq, utf16Position_of_isColumn hcol]
      refine ⟨_, rfl, Position.key_le_key_iff.2 (.inl ?_)⟩
      have hlt : n < b.lineCount := (List.getElem?_eq_some_iff.1 hcol.line).1
      exact Nat.lt_of_lt_of_le hlt hcount
  | some l =>
    have hcol := isColumn_charsWithin hl p.column
    obtain ⟨column, hpos, hle⟩ := utf16Position_indexOfUtf16 hl
    refine ⟨?_, ?_, _, hpos, Position.key_le_key_iff.2 (.inr ⟨rfl, hle⟩)⟩
    · rw [indexOfUtf16_of_line hl]
      exact lineStart_add_le_size hl hcol.le_length
    · rw [indexOfUtf16_of_line hl, insideBreak_iff hcol]
      have := charsWithin_le_length p.column (lineContent l)
      omega

/-- No offset that is not after a position is after the offset for it. -/
theorem le_indexOfUtf16 (hi : i ∈ b.offsetsUpTo p) : i ≤ b.indexOfUtf16 p := by
  obtain ⟨hsize, hinside, q, hq, hle⟩ := hi
  cases hl : (lines b.text)[p.line]? with
  | none =>
    rw [indexOfUtf16_of_lineCount_le (List.getElem?_eq_none_iff.1 hl)]
    exact hsize
  | some l =>
    rw [indexOfUtf16_of_line hl]
    obtain ⟨n, l', k, hcol, rfl⟩ := exists_lineStart_add hsize
    rw [utf16Position_of_isColumn hcol] at hq
    obtain rfl := Except.ok.inj hq
    rcases Position.key_le_key_iff.1 hle with hlt | ⟨hn, hunits⟩
    · -- an earlier line ends before the line of the position starts
      have hlater : b.lineStart n + l'.length ≤ b.lineStart p.line :=
        startOf_add_length_le hcol.line hlt
      have := hcol.le_length
      omega
    · -- in the line itself the column is in the content, for it is not inside the break
      obtain rfl : n = p.line := hn
      obtain rfl := Option.some.inj (hcol.line.symm.trans hl)
      rw [insideBreak_iff hcol] at hinside
      have hnext := (areLines_lines b.text).le_length_lineContent hcol
      have hk : k ≤ (lineContent l').length := by omega
      rw [take_eq_take_lineContent hk, ← le_charsWithin_iff hk] at hunits
      exact Nat.add_le_add_left hunits _

/-- **A position stands for the greatest offset that is not after it.** -/
theorem isGreatest_indexOfUtf16 (b : TextBuffer) (p : Position) :
    IsGreatest (b.offsetsUpTo p) (b.indexOfUtf16 p) :=
  ⟨b.indexOfUtf16_mem_offsetsUpTo p, fun _ hi => le_indexOfUtf16 hi⟩

/-- Later positions stand for later offsets. -/
theorem indexOfUtf16_mono (h : p.key ≤ q.key) : b.indexOfUtf16 p ≤ b.indexOfUtf16 q := by
  obtain ⟨hsize, hinside, r, hr, hle⟩ := b.indexOfUtf16_mem_offsetsUpTo p
  exact le_indexOfUtf16 ⟨hsize, hinside, r, hr, hle.trans h⟩

/-- **Which offset a line and a UTF-16 column stand for**: the greatest one in the text that is not
inside a break and whose own line and column are not after them. It is in the line, if the text has
that line: at the end of its content for a column past that, and else at the character to which the
column belongs. A line past the last stands for the end of the text. Later positions stand for later
offsets. -/
theorem indexOfUtf16_spec (b : TextBuffer) :
    (∀ p, IsGreatest {i | i ≤ b.size ∧ ¬ InsideBreak b.text i ∧
        ∃ q, b.utf16Position i = .ok q ∧ q.key ≤ p.key} (b.indexOfUtf16 p)) ∧
      (∀ n l column, b.line n = .ok l →
        (∃ column', b.utf16Position (b.indexOfUtf16 ⟨n, column⟩) = .ok ⟨n, column'⟩) ∧
        (units (lineContent l) ≤ column →
          b.indexOfUtf16 ⟨n, column⟩ = b.lineStart n + (lineContent l).length) ∧
        ∀ k, k < (lineContent l).length → units ((lineContent l).take k) ≤ column →
          column < units ((lineContent l).take (k + 1)) →
          b.indexOfUtf16 ⟨n, column⟩ = b.lineStart n + k) ∧
      (∀ p, b.lineCount ≤ p.line → b.indexOfUtf16 p = b.size) ∧
      ∀ p q, p.key ≤ q.key → b.indexOfUtf16 p ≤ b.indexOfUtf16 q := by
  refine ⟨b.isGreatest_indexOfUtf16, fun n l column hline => ?_,
    fun p => indexOfUtf16_of_lineCount_le, fun p q => indexOfUtf16_mono⟩
  have hl := line_eq_ok_iff.1 hline
  have hindex : b.indexOfUtf16 ⟨n, column⟩ =
      b.lineStart n + charsWithin column (lineContent l) := indexOfUtf16_of_line hl
  refine ⟨?_, fun hpast => ?_, fun k hk hle hlt => ?_⟩
  · obtain ⟨column', hpos, -⟩ := utf16Position_indexOfUtf16 (p := ⟨n, column⟩) hl
    exact ⟨column', hpos⟩
  · rw [hindex, charsWithin_of_units_le hpast]
  · rw [hindex, charsWithin_of_lt_units hk hle hlt]

namespace Sample

/-- A text of two lines, in the first of which a character takes two units. -/
def buffer : TextBuffer :=
  .ofString "a𝄞b\r\nxy"

end Sample

/-- A column between the two units of a character stands for the character, a column past the line
for the end of its content, and a line past the text for the end of the text. -/
theorem indexOfUtf16_spec_surrogate_pair :
    Sample.buffer.indexOfUtf16 ⟨0, 2⟩ = 1 ∧ Sample.buffer.indexOfUtf16 ⟨0, 9⟩ = 3 ∧
      Sample.buffer.indexOfUtf16 ⟨7, 0⟩ = 7 ∧
      Sample.buffer.indexOfUtf16 ⟨0, 9⟩ ≤ Sample.buffer.indexOfUtf16 ⟨1, 0⟩ := by
  have hline : Sample.buffer.line 0 = .ok ['a', '𝄞', 'b', '\r', '\n'] := rfl
  obtain ⟨-, inLine, pastText, mono⟩ := indexOfUtf16_spec Sample.buffer
  have hpair := (inLine 0 _ 2 hline).2.2 1 (by decide) (by decide) (by decide)
  have hpast := (inLine 0 _ 9 hline).2.1 (by decide)
  have hkey : (⟨0, 9⟩ : Position).key ≤ (⟨1, 0⟩ : Position).key :=
    Position.key_le_key_iff.2 (.inl Nat.zero_lt_one)
  exact ⟨hpair, hpast, pastText ⟨7, 0⟩ (by decide), mono _ _ hkey⟩

end TextBuffer

end AnnotationBridge.Text
