import AnnotationBridge.Proofs.Utf16
import Mathlib.Algebra.GroupWithZero.Nat

/-!
# Words and offsets

The words of a line are consecutive pieces of its content. An offset in the content belongs to the
one word that contains it, and the offset at the end of the content to the last word. Other offsets
have a word of their own, which is empty: those of a line without content, and those between the two
characters of a break `\r\n`.

* `Text.Tiles`: spans that follow each other without gaps. `Text.spansFrom`: where consecutive
  pieces stand.
* `Text.TextBuffer.pieceAt_of_mem`, `Text.TextBuffer.pieceAt_end`, `Text.TextBuffer.pieceAt_past`:
  which piece is found in a piece, at the end of the pieces, and past it.
* `Text.TextBuffer.wordSpans`: where the words of a line stand.
* `Text.TextBuffer.tokenAt_of_isColumn`: what the word of an offset may be.
* `Text.TextBuffer.tokenAt_partition`: the words of all offsets divide the contents of the lines.
* `Text.TextBuffer.tokenAt_extended_iff`: which offsets have a word that is not empty.
-/

namespace AnnotationBridge.Text

/-! ### Spans without gaps -/

/-- Spans that follow each other from the one bound to the other. None of them is empty. -/
inductive Tiles : Nat → List Span → Nat → Prop where
  | nil (n : Nat) : Tiles n [] n
  | cons {s : Span} {rest : List Span} {high : Nat} (extended : s.start < s.stop)
      (more : Tiles s.stop rest high) : Tiles s.start (s :: rest) high

namespace Tiles

variable {low high i : Nat} {spans : List Span} {s t : Span}

/-- The bounds of a tiling are ordered. -/
theorem le (h : Tiles low spans high) : low ≤ high := by
  induction h with
  | nil n => exact Nat.le_refl n
  | cons extended more ih => omega

/-- The spans lie between the bounds. -/
theorem bounds (h : Tiles low spans high) (hs : s ∈ spans) :
    low ≤ s.start ∧ s.start < s.stop ∧ s.stop ≤ high := by
  induction h with
  | nil n => cases hs
  | cons extended more ih =>
    have hle := more.le
    rcases List.mem_cons.1 hs with rfl | hs
    · exact ⟨Nat.le_refl _, extended, hle⟩
    · have := ih hs
      omega

/-- Two of the spans do not overlap. -/
theorem disjoint (h : Tiles low spans high) (hs : s ∈ spans) (ht : t ∈ spans) :
    s = t ∨ s.stop ≤ t.start ∨ t.stop ≤ s.start := by
  induction h with
  | nil n => cases hs
  | cons extended more ih =>
    rcases List.mem_cons.1 hs with hs | hs <;> rcases List.mem_cons.1 ht with ht | ht
    · exact .inl (hs.trans ht.symm)
    · exact .inr (.inl (hs ▸ (more.bounds ht).1))
    · exact .inr (.inr (ht ▸ (more.bounds hs).1))
    · exact ih hs ht

/-- Each offset between the bounds is in one of the spans. -/
theorem exists_mem (h : Tiles low spans high) (hlow : low ≤ i) (hhigh : i < high) :
    ∃ s ∈ spans, s.start ≤ i ∧ i < s.stop := by
  induction h with
  | nil n => omega
  | @cons s rest high extended more ih =>
    by_cases hi : i < s.stop
    · exact ⟨s, List.mem_cons_self, hlow, hi⟩
    · obtain ⟨t, ht, hin⟩ := ih (by omega) hhigh
      exact ⟨t, List.mem_cons_of_mem _ ht, hin⟩

/-- The last span ends at the upper bound. -/
theorem exists_getLast? (h : Tiles low spans high) (hlt : low < high) :
    ∃ s, spans.getLast? = some s ∧ s.stop = high := by
  induction h with
  | nil n => omega
  | @cons s rest high extended more ih =>
    by_cases hnext : s.stop < high
    · obtain ⟨t, ht, hstop⟩ := ih hnext
      exact ⟨t, by rw [List.getLast?_cons, ht]; rfl, hstop⟩
    · have hle := more.le
      cases rest with
      | nil => exact ⟨s, rfl, by omega⟩
      | cons t later =>
        have := more.bounds List.mem_cons_self
        omega

end Tiles

/-- Where consecutive pieces stand, the first one at `low`. -/
def spansFrom : (low : Nat) → List (List Char) → List Span
  | _, [] => []
  | low, w :: ws => ⟨low, low + w.length⟩ :: spansFrom (low + w.length) ws

/-- **Consecutive pieces that are not empty follow each other without gaps.** -/
theorem tiles_spansFrom {ws : List (List Char)} (hne : ∀ w ∈ ws, w ≠ []) (low : Nat) :
    Tiles low (spansFrom low ws) (low + ws.flatten.length) := by
  induction ws generalizing low with
  | nil => exact .nil low
  | cons w ws ih =>
    obtain ⟨hw, hrest⟩ := List.forall_mem_cons.1 hne
    have hpos : 0 < w.length := List.length_pos_iff.2 hw
    have more := ih hrest (low + w.length)
    rw [Nat.add_assoc, ← List.length_append, ← List.flatten_cons] at more
    exact Tiles.cons (s := ⟨low, low + w.length⟩) (by dsimp only; omega) more

namespace TextBuffer

variable {b : TextBuffer} {ws : List (List Char)} {l : List Char} {low column n m k i j : Nat}
  {s t u : Span}

/-! ### Which piece is found -/

/-- A column in a piece finds that piece. -/
theorem pieceAt_of_mem (hne : ∀ w ∈ ws, w ≠ []) (hs : s ∈ spansFrom low ws)
    (hstart : s.start ≤ column) (hstop : column < s.stop) : pieceAt column low ws = some s := by
  induction ws generalizing low with
  | nil => cases hs
  | cons w ws ih =>
    obtain ⟨-, hrest⟩ := List.forall_mem_cons.1 hne
    rw [pieceAt]
    rcases List.mem_cons.1 hs with rfl | hs
    · exact if_pos hstop
    · have hlow := ((tiles_spansFrom hrest (low + w.length)).bounds hs).1
      rw [if_neg (by omega), ih hrest hs, Option.some_or]

/-- The end of the pieces finds the last one. -/
theorem pieceAt_end (hne : ∀ w ∈ ws, w ≠ []) :
    pieceAt (low + ws.flatten.length) low ws = (spansFrom low ws).getLast? := by
  induction ws generalizing low with
  | nil => rfl
  | cons w ws ih =>
    obtain ⟨-, hrest⟩ := List.forall_mem_cons.1 hne
    have hend : low + (w :: ws).flatten.length = low + w.length + ws.flatten.length := by
      rw [List.flatten_cons, List.length_append, Nat.add_assoc]
    rw [hend, pieceAt, if_neg (by omega), ih hrest, spansFrom, List.getLast?_cons]
    cases ws with
    | nil => simp [spansFrom]
    | cons next later => simp [spansFrom, List.getLast?_cons]

/-- A column past the end of the pieces finds none. -/
theorem pieceAt_past (h : low + ws.flatten.length < column) : pieceAt column low ws = none := by
  induction ws generalizing low with
  | nil => rfl
  | cons w ws ih =>
    rw [List.flatten_cons, List.length_append] at h
    rw [pieceAt, if_neg (by omega), ih (by omega), if_neg (by omega), Option.none_or]

/-- The place of the pieces and the column can be moved on together. -/
theorem map_shift_pieceAt (m column low : Nat) (ws : List (List Char)) :
    (pieceAt column low ws).map (Span.shift m) = pieceAt (m + column) (m + low) ws := by
  induction ws generalizing low with
  | nil => rfl
  | cons w ws ih =>
    have hshift : Span.shift m ⟨low, low + w.length⟩ = ⟨m + low, m + low + w.length⟩ := by
      rw [Span.shift, Nat.add_assoc]
    rw [pieceAt, pieceAt, apply_ite (Option.map (Span.shift m)), Option.map_or, ih,
      apply_ite (Option.map (Span.shift m)), Option.map_some, Option.map_none, hshift,
      Nat.add_assoc m low]
    simp only [Nat.add_lt_add_iff_left, Nat.add_left_cancel_iff]

/-! ### The words of a line -/

/-- Where the words of a line stand. -/
def wordSpans (b : TextBuffer) (n : Nat) : List Span :=
  match (lines b.text)[n]? with
  | some l => spansFrom (b.lineStart n) (words (lineContent l))
  | none => []

/-- The spans of the words of a line are laid end to end from its start. -/
theorem wordSpans_eq (hl : (lines b.text)[n]? = some l) :
    b.wordSpans n = spansFrom (b.lineStart n) (words (lineContent l)) := by
  rw [wordSpans, hl]

/-- **The words of a line cover its content without gaps.** -/
theorem tiles_wordSpans (hl : (lines b.text)[n]? = some l) :
    Tiles (b.lineStart n) (b.wordSpans n) (b.lineStart n + (lineContent l).length) := by
  have hne : ∀ w ∈ words (lineContent l), w ≠ [] := fun _ => ne_nil_of_mem_words
  have h := tiles_spansFrom hne (b.lineStart n)
  rwa [words_flatten, ← wordSpans_eq hl] at h

/-- The word of an offset is found among the words of its line. -/
theorem tokenAt_eq (h : IsColumn (lines b.text) n l k) :
    b.tokenAt (b.lineStart n + k) =
      .ok ((pieceAt (b.lineStart n + k) (b.lineStart n) (words (lineContent l))).getD
        ⟨b.lineStart n + k, b.lineStart n + k⟩) := by
  have hmoved := map_shift_pieceAt (b.lineStart n) k 0 (words (lineContent l))
  rw [Nat.add_zero] at hmoved
  simp only [tokenAt, position_of_isColumn h, line_eq_ok_iff.2 h.line, bind, Except.bind, ← hmoved]
  cases pieceAt k 0 (words (lineContent l)) <;> rfl

/-- An offset in a word has that word. -/
theorem tokenAt_of_mem (hl : (lines b.text)[n]? = some l) (hs : s ∈ b.wordSpans n)
    (hstart : s.start ≤ i) (hstop : i < s.stop) : b.tokenAt i = .ok s := by
  obtain ⟨hlow, -, hhigh⟩ := (tiles_wordSpans hl).bounds hs
  obtain ⟨k, rfl⟩ := Nat.exists_eq_add_of_le (Nat.le_trans hlow hstart)
  rw [wordSpans_eq hl] at hs
  rw [tokenAt_eq ((areLines_lines b.text).isColumn hl (by omega)),
    pieceAt_of_mem (fun _ => ne_nil_of_mem_words) hs hstart hstop, Option.getD_some]

/-- The end of the content of a line has the last word, if there is one. -/
theorem tokenAt_end (hl : (lines b.text)[n]? = some l) :
    b.tokenAt (b.lineStart n + (lineContent l).length) =
      .ok ((b.wordSpans n).getLast?.getD
        ⟨b.lineStart n + (lineContent l).length, b.lineStart n + (lineContent l).length⟩) := by
  have hne : ∀ w ∈ words (lineContent l), w ≠ [] := fun _ => ne_nil_of_mem_words
  have hend : pieceAt (b.lineStart n + _) (b.lineStart n) _ = _ := pieceAt_end hne
  rw [words_flatten, ← wordSpans_eq hl] at hend
  rw [tokenAt_eq ((areLines_lines b.text).isColumn hl (Nat.le_refl _)), hend]

/-- An offset past the content of its line has an empty word. -/
theorem tokenAt_past (h : IsColumn (lines b.text) n l k) (hk : (lineContent l).length < k) :
    b.tokenAt (b.lineStart n + k) = .ok ⟨b.lineStart n + k, b.lineStart n + k⟩ := by
  rw [tokenAt_eq h, pieceAt_past (by rw [words_flatten]; omega), Option.getD_none]

/-- **What the word of an offset may be**: one of the words of its line, which contains or touches
it; or, past the content or if there is none, the empty span at the offset. -/
theorem tokenAt_of_isColumn (h : IsColumn (lines b.text) n l k) :
    ∃ t, b.tokenAt (b.lineStart n + k) = .ok t ∧
      (t ∈ b.wordSpans n ∧ k ≤ (lineContent l).length ∨
        t = ⟨b.lineStart n + k, b.lineStart n + k⟩ ∧ (lineContent l).length ≤ k ∧
          (lineContent l ≠ [] → (lineContent l).length < k)) := by
  have htiles := tiles_wordSpans h.line
  rcases Nat.lt_trichotomy k (lineContent l).length with hlt | rfl | hgt
  · obtain ⟨s, hs, hstart, hstop⟩ :=
      htiles.exists_mem (Nat.le_add_right _ k) (Nat.add_lt_add_left hlt _)
    exact ⟨s, tokenAt_of_mem h.line hs hstart hstop, .inl ⟨hs, Nat.le_of_lt hlt⟩⟩
  · rw [tokenAt_end h.line]
    refine ⟨_, rfl, ?_⟩
    by_cases hne : lineContent l = []
    · have hnone : b.wordSpans n = [] := by rw [wordSpans_eq h.line, hne, words_nil, spansFrom]
      rw [hnone]
      exact .inr ⟨rfl, Nat.le_refl _, fun hne' => absurd hne hne'⟩
    · have hpos := List.length_pos_iff.2 hne
      obtain ⟨s, hs, -⟩ := htiles.exists_getLast? (by omega)
      rw [hs, Option.getD_some]
      exact .inl ⟨List.mem_of_getLast? hs, Nat.le_refl _⟩
  · exact ⟨_, tokenAt_past h hgt, .inr ⟨rfl, Nat.le_of_lt hgt, fun _ => hgt⟩⟩

/-- The word of an offset lies in its line. -/
theorem bounds_of_tokenAt (h : IsColumn (lines b.text) n l k)
    (ht : b.tokenAt (b.lineStart n + k) = .ok t) :
    b.lineStart n ≤ t.start ∧ t.stop ≤ b.lineStart n + l.length := by
  obtain ⟨t', ht', hcases⟩ := tokenAt_of_isColumn h
  obtain rfl := Except.ok.inj (ht.symm.trans ht')
  have hcontent := lineContent_length_le l
  have hcolumn := h.le_length
  rcases hcases with ⟨hmem, -⟩ | ⟨rfl, -, -⟩
  · obtain ⟨hlow, -, hhigh⟩ := (tiles_wordSpans h.line).bounds hmem
    exact ⟨hlow, by omega⟩
  · exact ⟨Nat.le_add_right _ _, Nat.add_le_add_left hcolumn _⟩

/-- A word that is not empty is a word of the line of the offset. -/
theorem mem_wordSpans_of_tokenAt (h : IsColumn (lines b.text) n l k)
    (ht : b.tokenAt (b.lineStart n + k) = .ok t) (hne : t.start < t.stop) :
    t ∈ b.wordSpans n := by
  obtain ⟨t', ht', hcases⟩ := tokenAt_of_isColumn h
  obtain rfl := Except.ok.inj (ht.symm.trans ht')
  rcases hcases with ⟨hmem, -⟩ | ⟨rfl, -, -⟩
  · exact hmem
  · exact absurd hne (Nat.lt_irrefl _)

/-- Beyond the text there is no word. -/
theorem tokenAt_of_size_lt (hi : b.size < i) : b.tokenAt i = .error (.invalidCharIndex i) := by
  rw [tokenAt, position, if_pos hi]
  rfl

/-- An offset with a word is an offset of the text. -/
theorem le_size_of_tokenAt (ht : b.tokenAt i = .ok t) : i ≤ b.size := by
  refine Nat.le_of_not_lt fun hlt => ?_
  rw [tokenAt_of_size_lt hlt] at ht
  cases ht

/-! ### Words and lines -/

/-- Offsets of an earlier line have words that end before those of later lines. -/
theorem stop_le_start_of_lt {l' : List Char} {k' n' : Nat} (h : IsColumn (lines b.text) n l k)
    (h' : IsColumn (lines b.text) n' l' k') (ht : b.tokenAt (b.lineStart n + k) = .ok t)
    (hu : b.tokenAt (b.lineStart n' + k') = .ok u) (hlt : n < n') : t.stop ≤ u.start := by
  have hlater : b.lineStart n + l.length ≤ b.lineStart n' := startOf_add_length_le h.line hlt
  have hstop := (bounds_of_tokenAt h ht).2
  have hstart := (bounds_of_tokenAt h' hu).1
  omega

/-- **Two words are the same, or one ends before the other starts.** -/
theorem tokenAt_disjoint (ht : b.tokenAt i = .ok t) (hu : b.tokenAt j = .ok u) :
    t = u ∨ t.stop ≤ u.start ∨ u.stop ≤ t.start := by
  obtain ⟨n, l, k, hcol, rfl⟩ := exists_lineStart_add (le_size_of_tokenAt ht)
  obtain ⟨n', l', k', hcol', rfl⟩ := exists_lineStart_add (le_size_of_tokenAt hu)
  rcases Nat.lt_trichotomy n n' with hlt | rfl | hgt
  · exact .inr (.inl (stop_le_start_of_lt hcol hcol' ht hu hlt))
  · obtain rfl := Option.some.inj (hcol.line.symm.trans hcol'.line)
    have htiles := tiles_wordSpans hcol.line
    obtain ⟨t', ht', hcases⟩ := tokenAt_of_isColumn hcol
    obtain ⟨u', hu', hcases'⟩ := tokenAt_of_isColumn hcol'
    obtain rfl := Except.ok.inj (ht.symm.trans ht')
    obtain rfl := Except.ok.inj (hu.symm.trans hu')
    -- an empty word stands at the end of the content of the line or after it
    rcases hcases with ⟨hmem, -⟩ | ⟨rfl, hpast, -⟩ <;>
      rcases hcases' with ⟨hmem', -⟩ | ⟨rfl, hpast', -⟩
    · exact htiles.disjoint hmem hmem'
    · have := (htiles.bounds hmem).2.2
      exact .inr (.inl (by dsimp only; omega))
    · have := (htiles.bounds hmem').2.2
      exact .inr (.inr (by dsimp only; omega))
    · exact .inr (Nat.le_total _ _)
  · exact .inr (.inr (stop_le_start_of_lt hcol' hcol hu ht hgt))

/-- An offset in a word has that word. -/
theorem tokenAt_eq_of_inside (ht : b.tokenAt i = .ok t) (hstart : t.start ≤ j) (hstop : j < t.stop) :
    b.tokenAt j = .ok t := by
  obtain ⟨n, l, k, hcol, rfl⟩ := exists_lineStart_add (le_size_of_tokenAt ht)
  have hmem := mem_wordSpans_of_tokenAt hcol ht (Nat.lt_of_le_of_lt hstart hstop)
  exact tokenAt_of_mem hcol.line hmem hstart hstop

/-- A character in the content of a line is no break. -/
theorem getElem?_lineContent (hl : (lines b.text)[n]? = some l) (hk : k < (lineContent l).length) :
    ∃ c, b.text[b.lineStart n + k]? = some c ∧ isBreak c = false := by
  obtain ⟨ending, hline⟩ : lineContent l <+: l := List.takeWhile_prefix _
  have hparts : b.text = ((lines b.text).take n).flatten ++
      (lineContent l ++ (ending ++ ((lines b.text).drop (n + 1)).flatten)) := by
    conv_lhs => rw [← lines_flatten b.text, ← List.take_append_drop n (lines b.text)]
    rw [List.flatten_append, List.drop_eq_getElem_cons (List.getElem?_eq_some_iff.1 hl).1,
      (List.getElem?_eq_some_iff.1 hl).2, List.flatten_cons, ← List.append_assoc (lineContent l),
      hline]
  refine ⟨(lineContent l)[k], ?_, ?_⟩
  · rw [hparts, lineStart, List.getElem?_append_right (Nat.le_add_right _ _),
      Nat.add_sub_cancel_left, List.getElem?_append_left hk, List.getElem?_eq_getElem hk]
  · have hplain := List.all_eq_true.1 List.all_takeWhile _ (List.getElem_mem hk)
    simpa using hplain

/-- The words of a line are the words of its offsets that are not empty. -/
theorem mem_wordSpans_iff (hl : (lines b.text)[n]? = some l) :
    s ∈ b.wordSpans n ↔
      s.start < s.stop ∧ ∃ i p, b.position i = .ok p ∧ p.line = n ∧ b.tokenAt i = .ok s := by
  constructor
  · intro hs
    obtain ⟨hlow, hne, hhigh⟩ := (tiles_wordSpans hl).bounds hs
    obtain ⟨k, hk⟩ := Nat.exists_eq_add_of_le hlow
    have hcol := (areLines_lines b.text).isColumn (n := n) (k := k) hl (by omega)
    refine ⟨hne, s.start, ⟨n, k⟩, ?_, rfl, tokenAt_of_mem hl hs (Nat.le_refl _) hne⟩
    rw [hk]
    exact position_of_isColumn hcol
  · rintro ⟨hne, i, p, hp, rfl, ht⟩
    obtain ⟨n, l', k, hcol, rfl⟩ := exists_lineStart_add (le_size_of_tokenAt ht)
    obtain rfl := Except.ok.inj (hp.symm.trans (position_of_isColumn hcol))
    exact mem_wordSpans_of_tokenAt hcol ht hne

/-- **Words divide the contents of lines.** Exactly the offsets of a text have a word. Two words are
the same or do not overlap, and a word is that of each offset in it. Each offset in the content of a
line is in its own word; the words of the offsets of a line that are not empty cover its content,
one after the other and without gaps; and no word contains a character of a break. -/
theorem tokenAt_partition (b : TextBuffer) :
    (∀ i, (∃ t, b.tokenAt i = .ok t) ↔ i ≤ b.size) ∧
      (∀ i, b.size < i → b.tokenAt i = .error (.invalidCharIndex i)) ∧
      (∀ i j t u, b.tokenAt i = .ok t → b.tokenAt j = .ok u →
        t = u ∨ t.stop ≤ u.start ∨ u.stop ≤ t.start) ∧
      (∀ i j t, b.tokenAt i = .ok t → t.start ≤ j → j < t.stop → b.tokenAt j = .ok t) ∧
      (∀ n l k, b.line n = .ok l → k < (lineContent l).length →
        ∃ t, b.tokenAt (b.lineStart n + k) = .ok t ∧
          t.start ≤ b.lineStart n + k ∧ b.lineStart n + k < t.stop) ∧
      (∀ n l, b.line n = .ok l →
        ∃ spans, Tiles (b.lineStart n) spans (b.lineStart n + (lineContent l).length) ∧
          ∀ t, t ∈ spans ↔
            t.start < t.stop ∧ ∃ i p, b.position i = .ok p ∧ p.line = n ∧ b.tokenAt i = .ok t) ∧
      ∀ i j t, b.tokenAt i = .ok t → t.start ≤ j → j < t.stop →
        ∃ c, b.text[j]? = some c ∧ isBreak c = false := by
  refine ⟨fun i => ⟨fun ⟨t, ht⟩ => le_size_of_tokenAt ht, fun hi => ?_⟩,
    fun i => tokenAt_of_size_lt, fun i j t u => tokenAt_disjoint,
    fun i j t => tokenAt_eq_of_inside, fun n l k hl hk => ?_, fun n l hl => ?_,
    fun i j t ht hstart hstop => ?_⟩
  · obtain ⟨n, l, k, hcol, rfl⟩ := exists_lineStart_add hi
    obtain ⟨t, ht, -⟩ := tokenAt_of_isColumn hcol
    exact ⟨t, ht⟩
  · rw [line_eq_ok_iff] at hl
    obtain ⟨s, hs, hstart, hstop⟩ := (tiles_wordSpans hl).exists_mem
      (Nat.le_add_right _ k) (Nat.add_lt_add_left hk _)
    exact ⟨s, tokenAt_of_mem hl hs hstart hstop, hstart, hstop⟩
  · rw [line_eq_ok_iff] at hl
    exact ⟨b.wordSpans n, tiles_wordSpans hl, fun t => mem_wordSpans_iff hl⟩
  · obtain ⟨n, l, k, hcol, rfl⟩ := exists_lineStart_add (le_size_of_tokenAt ht)
    have hmem := mem_wordSpans_of_tokenAt hcol ht (Nat.lt_of_le_of_lt hstart hstop)
    obtain ⟨hlow, -, hhigh⟩ := (tiles_wordSpans hcol.line).bounds hmem
    obtain ⟨m, rfl⟩ := Nat.exists_eq_add_of_le (Nat.le_trans hlow hstart)
    exact getElem?_lineContent hcol.line (by omega)

/-- The words of the second line cover it, and the word at its second offset is also that of the
first. -/
theorem tokenAt_partition_second_line :
    (∃ spans, Tiles 3 spans 7 ∧ ∀ t, t ∈ spans ↔ t.start < t.stop ∧
      ∃ i p, (ofString "x\r\nab c").position i = .ok p ∧ p.line = 1 ∧
        (ofString "x\r\nab c").tokenAt i = .ok t) ∧
      (ofString "x\r\nab c").tokenAt 3 = .ok ⟨3, 5⟩ := by
  obtain ⟨-, -, -, hinside, -, hcover, -⟩ := tokenAt_partition (ofString "x\r\nab c")
  have hline : (ofString "x\r\nab c").line 1 = .ok "ab c".toList := by decide
  have hword : (ofString "x\r\nab c").tokenAt 4 = .ok ⟨3, 5⟩ := by decide +kernel
  exact ⟨hcover 1 _ hline, hinside 4 3 ⟨3, 5⟩ hword (by decide) (by decide)⟩

/-! ### Words that are empty -/

/-- **Which offsets have a word that is not empty**: those of a line that has content, unless they
are inside a break. At the end of the content and after it this is the last word of the content. The
word of each other offset is the empty span at the offset. -/
theorem tokenAt_extended_iff (b : TextBuffer) (i : Nat) (hi : i ≤ b.size) :
    ∃ p l t, b.position i = .ok p ∧ b.line p.line = .ok l ∧ b.tokenAt i = .ok t ∧
      (t.start < t.stop ↔ lineContent l ≠ [] ∧ ¬ InsideBreak b.text i) ∧
      (¬ t.start < t.stop → t = ⟨i, i⟩) ∧
      (lineContent l ≠ [] → ¬ InsideBreak b.text i → (lineContent l).length ≤ p.column →
        t.stop = b.lineStart p.line + (lineContent l).length ∧
          b.tokenAt (b.lineStart p.line + (lineContent l).length - 1) = .ok t) := by
  obtain ⟨n, l, k, hcol, rfl⟩ := exists_lineStart_add hi
  obtain ⟨t, ht, hcases⟩ := tokenAt_of_isColumn hcol
  have htiles := tiles_wordSpans hcol.line
  have hnext := (areLines_lines b.text).le_length_lineContent hcol
  refine ⟨⟨n, k⟩, l, t, position_of_isColumn hcol, line_eq_ok_iff.2 hcol.line, ht, ?_, ?_, ?_⟩
  · rw [insideBreak_iff hcol]
    rcases hcases with ⟨hmem, hle⟩ | ⟨rfl, -, hpast⟩
    · obtain ⟨hlow, hne, hhigh⟩ := htiles.bounds hmem
      refine iff_of_true hne ⟨fun hnil => ?_, by omega⟩
      rw [hnil, List.length_nil] at hhigh
      omega
    · refine iff_of_false (Nat.lt_irrefl _) fun ⟨hne, hinside⟩ => ?_
      have := hpast hne
      omega
  · intro hempty
    rcases hcases with ⟨hmem, -⟩ | ⟨rfl, -, -⟩
    · exact absurd (htiles.bounds hmem).2.1 hempty
    · rfl
  · intro hne hinside hend
    rw [insideBreak_iff hcol] at hinside
    obtain rfl : k = (lineContent l).length := by dsimp only at hend; omega
    have hpos := List.length_pos_iff.2 hne
    obtain ⟨s, hlast, hstop⟩ := htiles.exists_getLast? (by omega)
    have hword := tokenAt_end hcol.line
    rw [hlast, Option.getD_some] at hword
    obtain rfl := Except.ok.inj (ht.symm.trans hword)
    have hmem := List.mem_of_getLast? hlast
    obtain ⟨-, hextended, -⟩ := htiles.bounds hmem
    dsimp only
    exact ⟨hstop, tokenAt_of_mem hcol.line hmem (by omega) (by omega)⟩

/-- The end of the text has the word before it. -/
theorem tokenAt_extended_iff_last_line :
    ∃ t, (ofString "int x\r\ncount").tokenAt 12 = .ok t ∧
      (ofString "int x\r\ncount").tokenAt 11 = .ok t ∧ t.start < t.stop ∧ t.stop = 12 := by
  have hposition : (ofString "int x\r\ncount").position 12 = .ok ⟨1, 5⟩ := by decide
  have hline : (ofString "int x\r\ncount").line 1 = .ok "count".toList := by decide
  have houtside : ¬ InsideBreak (ofString "int x\r\ncount").text 12 := by
    rintro ⟨j, hj, -, hlf⟩
    rw [← hj] at hlf
    exact absurd hlf (by decide)
  obtain ⟨p, l, t, hp, hl, ht, hextended, -, hlast⟩ :=
    tokenAt_extended_iff (ofString "int x\r\ncount") 12 (by decide)
  obtain rfl := Except.ok.inj (hp.symm.trans hposition)
  obtain rfl := Except.ok.inj (hl.symm.trans hline)
  obtain ⟨hstop, hword⟩ := hlast (by decide) houtside (by decide)
  exact ⟨t, ht, hword, hextended.2 ⟨by decide, houtside⟩, hstop⟩

/-- Between the two characters of a break the word is empty, although the line has content. -/
theorem tokenAt_inside_break_empty :
    (ofString "a\r\n").position 2 = .ok ⟨0, 2⟩ ∧
      (ofString "a\r\n").line 0 = .ok ['a', '\r', '\n'] ∧
      lineContent ['a', '\r', '\n'] = ['a'] ∧
      (ofString "a\r\n").tokenAt 1 = .ok ⟨0, 1⟩ ∧
      (ofString "a\r\n").tokenAt 2 = .ok ⟨2, 2⟩ := by
  refine ⟨by decide, by decide, rfl, ?_, ?_⟩
  all_goals decide +kernel

end TextBuffer

end AnnotationBridge.Text
