import AnnotationBridge.Marker
import AnnotationBridge.Proofs.Utf16
import Mathlib.Data.List.Forall2

/-!
# Spans of diagnostics

The two ends of a diagnostic are clamped to the text, and if nothing is left between them the word
at the start takes their place. Whatever the ends are, the marker has a span of the text.

* `Text.Span.Around`: a span that stands for an offset in a part of the text.
* `Text.TextBuffer.exists_pieceAt`, `Text.TextBuffer.exists_tokenAt`: among consecutive pieces that
  are not empty there is one at each column, so in a line there is a word at each offset.
* `StandsFor`: the offset that a position stands for.
* `Binds`, `binds_bindRange`: what the span of a diagnostic looks like.
* `MarkerStore.collect_replace_binds`: the markers of a publish have such spans and their texts.
-/

namespace AnnotationBridge

open Text

/-! ### Words around an offset -/

namespace Text

variable {b : TextBuffer} {l : List Char} {n k column low high index : Nat} {s : Span}

/-- A span that stands for an offset between two bounds: it lies between them, contains or touches
the offset, and is empty only if there is nothing between the bounds. -/
structure Span.Around (s : Span) (index low high : Nat) : Prop where
  low_le : low ≤ s.start
  start_le : s.start ≤ index
  le_stop : index ≤ s.stop
  stop_le : s.stop ≤ high
  extended : low < high → s.start < s.stop

/-- The place of a span and its bounds can be moved on together. -/
theorem Span.Around.shift (h : s.Around index low high) (m : Nat) :
    (s.shift m).Around (m + index) (m + low) (m + high) where
  low_le := Nat.add_le_add_left h.low_le m
  start_le := Nat.add_le_add_left h.start_le m
  le_stop := Nat.add_le_add_left h.le_stop m
  stop_le := Nat.add_le_add_left h.stop_le m
  extended hlt := Nat.add_lt_add_left (h.extended (Nat.lt_of_add_lt_add_left hlt)) m

namespace TextBuffer

/-- **Among consecutive pieces that are not empty there is one at each column.** -/
theorem exists_pieceAt {ws : List (List Char)} (hws : ws ≠ []) (hne : ∀ w ∈ ws, w ≠ [])
    (hlow : low ≤ column) (hhigh : column ≤ low + ws.flatten.length) :
    ∃ piece, pieceAt column low ws = some piece ∧
      piece.Around column low (low + ws.flatten.length) := by
  induction ws generalizing low with
  | nil => exact absurd rfl hws
  | cons w ws ih =>
    obtain ⟨hw, hrest⟩ := List.forall_mem_cons.1 hne
    have hpos : 0 < w.length := List.length_pos_iff.2 hw
    rw [List.flatten_cons, List.length_append] at hhigh ⊢
    rw [pieceAt]
    split
    · refine ⟨_, rfl, ?_⟩
      constructor <;> dsimp only <;> omega
    · rename_i hge
      cases ws with
      | nil =>
        -- only the end of the last piece is left
        rw [List.flatten_nil, List.length_nil] at hhigh ⊢
        refine ⟨⟨low, low + w.length⟩, ?_, ?_⟩
        · rw [pieceAt, Option.none_or, if_pos (by omega)]
        · constructor <;> dsimp only <;> omega
      | cons next later =>
        obtain ⟨piece, hpiece, haround⟩ := @ih (low + w.length) (List.cons_ne_nil _ _)
          hrest (by omega) (by omega)
        have hnext : 0 < next.length := List.length_pos_iff.2 (hrest next List.mem_cons_self)
        have hlength : (next :: later).flatten.length = next.length + later.flatten.length := by
          rw [List.flatten_cons, List.length_append]
        have hextended := haround.extended (by omega)
        obtain ⟨hlow', hstart, hstop, hhigh', -⟩ := haround
        refine ⟨piece, by rw [hpiece, Option.some_or], ?_⟩
        constructor <;> omega

/-- **In the content of a line there is a word at each offset**, also at its end; only on an empty
line it is empty. -/
theorem exists_tokenAt (hl : (lines b.text)[n]? = some l) (hk : k ≤ (lineContent l).length) :
    ∃ word, b.tokenAt (b.lineStart n + k) = .ok word ∧
      word.Around (b.lineStart n + k) (b.lineStart n)
        (b.lineStart n + (lineContent l).length) := by
  have hpos := position_of_isColumn ((areLines_lines b.text).isColumn hl hk)
  have hline := line_eq_ok_iff.2 hl
  have hlength : (words (lineContent l)).flatten.length = (lineContent l).length := by
    rw [words_flatten]
  by_cases hwords : words (lineContent l) = []
  · have hzero : (lineContent l).length = 0 := by
      rw [← hlength, hwords]
      rfl
    refine ⟨⟨b.lineStart n + k, b.lineStart n + k⟩, ?_, ?_⟩
    · simp only [tokenAt, hpos, hline, hwords, pieceAt, bind, Except.bind]
    · constructor <;> dsimp only <;> omega
  · obtain ⟨piece, hpiece, haround⟩ := exists_pieceAt hwords (fun _ => ne_nil_of_mem_words)
      (Nat.zero_le k) (by omega)
    have hshifted := haround.shift (b.lineStart n)
    rw [hlength, Nat.zero_add, Nat.add_zero] at hshifted
    refine ⟨piece.shift (b.lineStart n), ?_, hshifted⟩
    simp only [tokenAt, hpos, hline, hpiece, bind, Except.bind]

/-- The offset for a position is in the content of a line: the one that the position names, or the
last one if the text has no such line. -/
theorem exists_line_indexOfUtf16 (b : TextBuffer) (p : Position) :
    ∃ l k, (lines b.text)[min p.line (b.lineCount - 1)]? = some l ∧ k ≤ (lineContent l).length ∧
      b.indexOfUtf16 p = b.lineStart (min p.line (b.lineCount - 1)) + k := by
  cases hl : (lines b.text)[p.line]? with
  | some l =>
    have hlt : p.line < b.lineCount := (List.getElem?_eq_some_iff.1 hl).1
    rw [Nat.min_eq_left (Nat.le_sub_one_of_lt hlt)]
    exact ⟨l, _, hl, charsWithin_le_length p.column (lineContent l), indexOfUtf16_of_line hl⟩
  | none =>
    have hcount : b.lineCount ≤ p.line := List.getElem?_eq_none_iff.1 hl
    have hpos : 0 < b.lineCount := List.length_pos_iff.2 (lines_ne_nil b.text)
    obtain ⟨n, l, k, hcol, hsize⟩ := exists_lineStart_add (Nat.le_refl b.size)
    obtain ⟨-, hinside, -⟩ := b.indexOfUtf16_mem_offsetsUpTo p
    rw [indexOfUtf16_of_lineCount_le hcount, hsize, insideBreak_iff hcol] at hinside
    have hnext := (areLines_lines b.text).le_length_lineContent hcol
    -- the end of the text is in its last line, for it is not before the end of its line
    have hlast : n + 1 = b.lineCount := by
      rcases hcol.column with hlt | ⟨hlast, -⟩
      · have hle : b.lineStart n + l.length ≤ b.size :=
          lineStart_add_le_size hcol.line (Nat.le_refl _)
        omega
      · exact hlast
    obtain rfl : n = min p.line (b.lineCount - 1) := by omega
    exact ⟨l, k, hcol.line, by omega, (indexOfUtf16_of_lineCount_le hcount).trans hsize⟩

end TextBuffer

end Text

/-! ### What a diagnostic is bound to -/

/-- An offset of a text stands for a position: it is the one that the position is converted to,
which is the greatest one that is not after it. -/
structure StandsFor (b : TextBuffer) (p : Lsp.Position) (i : Nat) : Prop where
  index : b.indexOfUtf16 ⟨p.line.toNat, p.character.toNat⟩ = i
  greatest : IsGreatest (b.offsetsUpTo ⟨p.line.toNat, p.character.toNat⟩) i

/-- How a span of a text stands for a range, the ends of which stand at two offsets. It is a span of
the text. If the offset of the end is after that of the start, it is from the one to the other; else
it lies in the content of the line of the start, contains or touches the start, and is empty only if
that line is. The line of the start is the one that the range names, or the last one if the text has
no such line. -/
structure Binds (b : TextBuffer) (range : Lsp.Range) (start stop : Nat) (s : Span) : Prop where
  first : StandsFor b range.start start
  last : StandsFor b range.stop stop
  ordered : s.start ≤ s.stop
  inside : s.stop ≤ b.size
  extent : start < stop → s = ⟨start, stop⟩
  element : stop ≤ start → ∃ n column l, n = min range.start.line.toNat (b.lineCount - 1) ∧
    b.position start = .ok ⟨n, column⟩ ∧ b.line n = .ok l ∧
    s.Around start (b.lineStart n) (b.lineStart n + (lineContent l).length)

/-- The offset that a position is converted to stands for it. -/
theorem standsFor_offsetOf (d : Document) (p : Lsp.Position) :
    StandsFor d.buffer p (offsetOf d p) where
  index := rfl
  greatest := d.buffer.isGreatest_indexOfUtf16 _

/-- **The span of a diagnostic, whatever its range is.** -/
theorem binds_bindRange (d : Document) (range : Lsp.Range) :
    Binds d.buffer range (offsetOf d range.start) (offsetOf d range.stop)
      (bindRange tokenLocator d range) := by
  have hfirst := standsFor_offsetOf d range.start
  have hlast := standsFor_offsetOf d range.stop
  unfold bindRange
  dsimp only
  split
  · rename_i hlt
    exact
      { first := hfirst
        last := hlast
        ordered := Nat.le_of_lt hlt
        inside := hlast.greatest.1.1
        extent := fun _ => rfl
        element := fun hle => absurd hlt (Nat.not_lt.2 hle) }
  · rename_i hge
    obtain ⟨l, k, hl, hk, hstart⟩ := d.buffer.exists_line_indexOfUtf16
      ⟨range.start.line.toNat, range.start.character.toNat⟩
    dsimp only at hl hstart
    generalize hn : min range.start.line.toNat (d.buffer.lineCount - 1) = n at hl hstart
    obtain ⟨word, hword, haround⟩ := TextBuffer.exists_tokenAt hl hk
    have hoffset : offsetOf d range.start = d.buffer.lineStart n + k := hstart
    have hspan : tokenLocator d (offsetOf d range.start) = word := by
      rw [tokenLocator, hoffset, hword]
      rfl
    have hcol := (areLines_lines d.buffer.text).isColumn hl hk
    have hend : d.buffer.lineStart n + (lineContent l).length ≤ d.buffer.size :=
      TextBuffer.lineStart_add_le_size hl (lineContent_length_le l)
    rw [hspan]
    refine
      { first := hfirst
        last := hlast
        ordered := Nat.le_trans haround.start_le haround.le_stop
        inside := Nat.le_trans haround.stop_le hend
        extent := fun hlt => absurd hlt hge
        element := fun _ => ⟨n, k, l, hn.symm, ?_, TextBuffer.line_eq_ok_iff.2 hl, ?_⟩ }
    · rw [hoffset]
      exact TextBuffer.position_of_isColumn hcol
    · rw [hoffset]
      exact haround

/-- The text of a span that is ordered and inside the text. -/
theorem textIn_eq_ok {d : Document} {s : Span} (ordered : s.start ≤ s.stop)
    (inside : s.stop ≤ d.buffer.size) :
    d.textIn s = .ok ((d.buffer.text.drop s.start).take (s.stop - s.start)) := by
  rw [Document.textIn, TextBuffer.slice, if_neg (Nat.not_lt.2 ordered),
    if_neg (Nat.not_lt.2 inside)]
  rfl

/-- **The markers of a publish**: one for each diagnostic, in order, bound to a span of the text and
with the text of that span, whatever positions the diagnostic has. -/
theorem MarkerStore.collect_replace_binds (store : MarkerStore) (editor : EditorId)
    (server : String) (d : Document) (diagnostics : List Lsp.Diagnostic) :
    List.Forall₂ (fun g (m : Marker) => m.diagnostic = g ∧
        (∃ start stop, Binds d.buffer g.range start stop m.span) ∧
        m.text = String.ofList
          ((d.buffer.text.drop m.span.start).take (m.span.stop - m.span.start)))
      diagnostics
      ((store.replace tokenLocator editor server d diagnostics).collect editor server) := by
  rw [collect, batch?_replace, if_pos rfl]
  refine List.forall₂_map_right_iff.2 (List.forall₂_same.2 fun g _ => ?_)
  have hbinds := binds_bindRange d g.range
  refine ⟨rfl, ⟨_, _, hbinds⟩, ?_⟩
  show String.ofList ((d.textIn (bindRange tokenLocator d g.range)).toOption.getD []) = _
  rw [textIn_eq_ok hbinds.ordered hbinds.inside]
  rfl

namespace MarkerStore

namespace Sample

/-- A document of two lines, in the first of which a character takes two units. -/
def twoLines : Document :=
  .ofText ⟨1⟩ Uri.empty "a𝄞b\r\nxy zz"

/-- A diagnostic from one line and column to another. -/
def between (start stop : Lsp.Position) : Lsp.Diagnostic :=
  { range := ⟨start, stop⟩, message := "m" }

end Sample

/-- A diagnostic without extent on the second line, one that is inverted and starts past the text,
and one that starts in the middle of a character: the first two are bound in the second line, where
they start, and the third one from the character on. -/
theorem collect_replace_binds_second_line :
    ∃ m₁ m₂ m₃, (MarkerStore.empty.replace tokenLocator ⟨1⟩ "lsp4mp" Sample.twoLines
        [Sample.between ⟨1, 4⟩ ⟨1, 4⟩, Sample.between ⟨9, 0⟩ ⟨0, 1⟩,
          Sample.between ⟨0, 2⟩ ⟨1, 1⟩]).collect ⟨1⟩ "lsp4mp" = [m₁, m₂, m₃] ∧
      m₁.span.Around 9 5 10 ∧ m₂.span.Around 10 5 10 ∧ m₃.span = ⟨1, 6⟩ ∧
      m₃.text = "𝄞b\r\nx" := by
  have hall := collect_replace_binds .empty ⟨1⟩ "lsp4mp" Sample.twoLines
    [Sample.between ⟨1, 4⟩ ⟨1, 4⟩, Sample.between ⟨9, 0⟩ ⟨0, 1⟩, Sample.between ⟨0, 2⟩ ⟨1, 1⟩]
  -- what is bound to a range without extent in the second line
  have hline : ∀ {range : Lsp.Range} {start stop s}, stop ≤ start →
      min range.start.line.toNat 1 = 1 →
      Binds Sample.twoLines.buffer range start stop s → s.Around start 5 10 := by
    intro range start stop s hle hsecond hbinds
    obtain ⟨n, column, l, hn, -, hl, haround⟩ := hbinds.element hle
    obtain rfl : n = 1 := hn.trans hsecond
    obtain rfl : ['x', 'y', ' ', 'z', 'z'] = l := Except.ok.inj hl
    exact haround
  generalize MarkerStore.collect _ _ _ = markers at hall
  obtain _ | ⟨⟨-, ⟨start, stop, h₁⟩, -⟩, _ | ⟨⟨-, ⟨start', stop', h₂⟩, -⟩,
    _ | ⟨⟨-, ⟨start'', stop'', h₃⟩, htext⟩, _ | _⟩⟩⟩ := hall
  obtain rfl : 9 = start := h₁.first.index
  obtain rfl : 9 = stop := h₁.last.index
  obtain rfl : 10 = start' := h₂.first.index
  obtain rfl : 1 = stop' := h₂.last.index
  obtain rfl : 1 = start'' := h₃.first.index
  obtain rfl : 6 = stop'' := h₃.last.index
  have hspan := h₃.extent (by decide)
  refine ⟨_, _, _, rfl, hline (Nat.le_refl _) rfl h₁, hline (by decide) rfl h₂, hspan, ?_⟩
  rw [htext, hspan]
  rfl

end MarkerStore

end AnnotationBridge
