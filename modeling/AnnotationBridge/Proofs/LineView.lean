import AnnotationBridge.Proofs.Utf16
import Mathlib.Algebra.GroupWithZero.Nat
import Mathlib.Data.List.DropRight

/-!
# A text as lines and as characters

A text can be read line by line or character by character. The two views agree: the lines are what
the breaks leave between them, and the position of an offset counts the lines before it and the
characters of its own line.

* `Text.breakCount`, `Text.length_lines`: there is one more line than there are breaks.
* `Text.AreLines.exists_ending`: a line is its content and its break.
* `Text.TextBuffer.lt_iff_isBefore`: the order of offsets is the order of their positions.
* `Text.TextBuffer.lines_agree`: all of it, for every text.
-/

namespace AnnotationBridge.Text

variable {cs content ending l l' : List Char} {L : List (List Char)} {n m k k' i j : Nat}
  {p q : Position} {b : TextBuffer}

/-! ### Counting breaks -/

/-- Whether a break ends with the character at an offset: it is a `\n`, or a `\r` without one after
it. -/
def endsBreak (cs : List Char) (i : Nat) : Bool :=
  cs[i]? = some '\n' || (cs[i]? = some '\r' && cs[i + 1]? ≠ some '\n')

/-- The number of breaks in a text. -/
def breakCount (cs : List Char) : Nat :=
  (List.range cs.length).countP (endsBreak cs)

/-- A break is counted where it ends. -/
theorem breakCount_cons (c : Char) (cs : List Char) :
    breakCount (c :: cs) = breakCount cs + if endsBreak (c :: cs) 0 then 1 else 0 := by
  have hlater : (endsBreak (c :: cs)) ∘ Nat.succ = endsBreak cs := by
    funext i
    simp [endsBreak]
  rw [breakCount, List.length_cons, List.range_succ_eq_map, List.countP_cons, List.countP_map, hlater,
    breakCount]

/-- **There is one more line than there are breaks.** -/
theorem length_lines (cs : List Char) : (lines cs).length = breakCount cs + 1 := by
  fun_induction lines cs with
  | case1 => rfl
  | case2 cs ih =>
    rw [List.length_cons, ih, breakCount_cons, breakCount_cons]
    simp [endsBreak]
  | case3 c cs hnot hc ih =>
    have hends : endsBreak (c :: cs) 0 = true := by
      rcases hc with rfl | rfl
      · simp [endsBreak]
      · -- a `\n` after the `\r` would be part of the same line
        cases cs with
        | nil => simp [endsBreak]
        | cons c' cs =>
          have hne : c' ≠ '\n' := fun heq => hnot cs rfl (by rw [heq])
          simp [endsBreak, hne]
    rw [List.length_cons, ih, breakCount_cons, if_pos hends]
  | case4 c cs _ _ h => exact absurd h (lines_ne_nil cs)
  | case5 c cs _ hc line rest h ih =>
    have hends : endsBreak (c :: cs) 0 = false := by
      obtain ⟨hlf, hcr⟩ := not_or.1 hc
      simp [endsBreak, hlf, hcr]
    rw [h] at ih
    rw [breakCount_cons, hends]
    simpa using ih

/-! ### The parts of a line -/

/-- **A line is its content and its break**, which the last line does not have. The break is the
whole break: no `\n` follows one that is `\r` alone. -/
theorem AreLines.exists_ending (h : AreLines L) (hl : L[n]? = some l) :
    ∃ ending, l = lineContent l ++ ending ∧ (∀ c ∈ lineContent l, isBreak c = false) ∧
      (n + 1 < L.length → ending ∈ breaks ∧
        (ending = ['\r'] → ∀ next, L[n + 1]? = some next → next.head? ≠ some '\n')) ∧
      (n + 1 = L.length → ending = []) := by
  induction h generalizing n with
  | @last content plain =>
    cases n with
    | zero =>
      obtain rfl := Option.some.inj hl
      rw [lineContent_of_plain plain]
      exact ⟨[], by simp, plain, by simp, fun _ => rfl⟩
    | succ n => simp at hl
  | @cons content ending rest plain ends whole more ih =>
    cases n with
    | zero =>
      obtain rfl := Option.some.inj hl
      rw [lineContent_append_ending plain ends]
      refine ⟨ending, rfl, plain, fun _ => ⟨ends, fun hcr next hnext hhead => ?_⟩, fun hlast => ?_⟩
      · apply whole hcr
        obtain ⟨tail, rfl⟩ := List.head?_eq_some_iff.1 hhead
        cases rest with
        | nil => simp at hnext
        | cons first later =>
          obtain rfl : first = '\n' :: tail := by simpa using hnext
          simp
      · exact absurd (List.length_eq_zero_iff.1 (Nat.succ.inj hlast).symm) more.ne_nil
    | succ n =>
      simpa using ih (n := n) (by simpa using hl)

/-- What is left of a line without the break characters at its end is its content. -/
theorem rdropWhile_isBreak (plain : ∀ c ∈ content, isBreak c = false)
    (ends : ∀ c ∈ ending, isBreak c = true) : (content ++ ending).rdropWhile isBreak = content := by
  induction ending using List.reverseRecOn with
  | nil =>
    rw [List.append_nil, List.rdropWhile_eq_self_iff]
    intro hne
    rw [plain _ (List.getLast_mem hne)]
    exact Bool.false_ne_true
  | append_singleton ending c ih =>
    have hc : isBreak c = true := ends c (by simp)
    rw [← List.append_assoc, List.rdropWhile_concat_pos isBreak _ c hc]
    exact ih fun c' hc' => ends c' (by simp [hc'])

/-- The break characters at the end of a line are its break. -/
theorem AreLines.lineContent_eq_rdropWhile (h : AreLines L) (hl : L[n]? = some l) :
    lineContent l = l.rdropWhile isBreak := by
  obtain ⟨ending, hline, plain, earlier, last⟩ := h.exists_ending hl
  have hn : n < L.length := (List.getElem?_eq_some_iff.1 hl).1
  have ends : ∀ c ∈ ending, isBreak c = true := by
    rcases Nat.lt_or_eq_of_le (Nat.succ_le_of_lt hn) with hlt | heq
    · have hmem := (earlier hlt).1
      simp only [breaks, List.mem_cons, List.not_mem_nil, or_false] at hmem
      rcases hmem with rfl | rfl | rfl <;> simp [isBreak]
    · simp [last heq]
  have hdropped := rdropWhile_isBreak plain ends
  rw [← hline] at hdropped
  exact hdropped.symm

/-! ### The order of positions -/

/-- Positions are ordered by line, and by column within a line. -/
theorem Position.isBefore_iff :
    p.isBefore q = true ↔ p.line < q.line ∨ p.line = q.line ∧ p.column < q.column := by
  simp [isBefore]

/-- A position is equal to itself. -/
theorem Position.order_self (p : Position) : p.order p = .eq := by
  simp [order]

/-- A position is greater if the other one is before it. -/
theorem Position.order_eq_gt_iff : p.order q = .gt ↔ q.isBefore p = true := by
  rw [isBefore_iff, eq_comm (a := q.line)]
  simp only [order, Ordering.then_eq_gt, Nat.compare_eq_gt, Nat.compare_eq_eq]

namespace TextBuffer

/-- What has a position is a column of the line of its position. -/
theorem exists_isColumn_of_position (h : b.position i = .ok p) :
    ∃ l, IsColumn (lines b.text) p.line l p.column ∧ b.lineStart p.line + p.column = i := by
  have hi : i ≤ b.size := by
    refine Nat.le_of_not_lt fun hlt => ?_
    rw [position, if_pos hlt] at h
    cases h
  obtain ⟨n, l, k, hcol, rfl⟩ := exists_lineStart_add hi
  obtain rfl := Except.ok.inj ((position_of_isColumn hcol).symm.trans h)
  exact ⟨l, hcol, rfl⟩

/-- **The order of offsets is the order of their positions.** -/
theorem lt_iff_isBefore (hp : b.position i = .ok p) (hq : b.position j = .ok q) :
    i < j ↔ p.isBefore q = true := by
  obtain ⟨l, hcol, rfl⟩ := exists_isColumn_of_position hp
  obtain ⟨l', hcol', rfl⟩ := exists_isColumn_of_position hq
  exact (hcol.lt_iff hcol').trans Position.isBefore_iff.symm

/-- Offsets compare as their positions do. -/
theorem compare_position (hp : b.position i = .ok p) (hq : b.position j = .ok q) :
    compare p q = compare i j := by
  rcases Nat.lt_trichotomy i j with hlt | rfl | hgt
  · rw [Nat.compare_eq_lt.2 hlt]
    exact (Position.order_eq_lt_iff p q).2 ((lt_iff_isBefore hp hq).1 hlt)
  · obtain rfl := Except.ok.inj (hp.symm.trans hq)
    rw [Nat.compare_eq_eq.2 rfl]
    exact p.order_self
  · rw [Nat.compare_eq_gt.2 hgt]
    exact Position.order_eq_gt_iff.2 ((lt_iff_isBefore hq hp).1 hgt)

/-- The length of a line is that of its content. -/
theorem lineLength_eq (hl : (lines b.text)[n]? = some l) :
    b.lineLength n = .ok (lineContent l).length := by
  rw [lineLength, line_eq_ok_iff.2 hl]
  rfl

/-- **The lines of a text and its characters agree.** There is one more line than there are breaks.
The lines, one after the other, are the text; each is its content, which no break is in and of which
the length is told, and one break, which the last line does not have. Each offset of the text is on
a line, at a column that together with the lengths of the earlier lines is the offset; and the order
of offsets is the order of their positions. -/
theorem lines_agree (b : TextBuffer) :
    b.lineCount = breakCount b.text + 1 ∧
      (∃ ls : List (List Char), ls.length = b.lineCount ∧ ls.flatten = b.text ∧
        (∀ n l, b.line n = .ok l ↔ ls[n]? = some l) ∧
        (∀ n l, ls[n]? = some l → ∃ content ending, l = content ++ ending ∧
          (∀ c ∈ content, c ≠ '\n' ∧ c ≠ '\r') ∧ content = l.rdropWhile isBreak ∧
          b.lineLength n = .ok content.length ∧
          (n + 1 < ls.length → ending ∈ breaks ∧
            (ending = ['\r'] → ∀ next, ls[n + 1]? = some next → next.head? ≠ some '\n')) ∧
          (n + 1 = ls.length → ending = [])) ∧
        ∀ i, i ≤ b.size → ∃ p, b.position i = .ok p ∧ p.line < b.lineCount ∧
          ((ls.take p.line).map List.length).sum + p.column = i) ∧
      ∀ i j p q, b.position i = .ok p → b.position j = .ok q →
        (i < j ↔ p.isBefore q = true) ∧ compare p q = compare i j := by
  have hlines := areLines_lines b.text
  refine ⟨length_lines b.text, ⟨lines b.text, rfl, lines_flatten b.text, fun n l => line_eq_ok_iff,
    ?_, ?_⟩, fun i j p q hp hq => ⟨lt_iff_isBefore hp hq, compare_position hp hq⟩⟩
  · intro n l hl
    obtain ⟨ending, hline, plain, earlier, last⟩ := hlines.exists_ending hl
    refine ⟨lineContent l, ending, hline, ?_, hlines.lineContent_eq_rdropWhile hl, lineLength_eq hl,
      earlier, last⟩
    intro c hc
    simpa [isBreak] using plain c hc
  · intro i hi
    obtain ⟨n, l, k, hcol, rfl⟩ := exists_lineStart_add hi
    refine ⟨⟨n, k⟩, position_of_isColumn hcol, (List.getElem?_eq_some_iff.1 hcol.line).1, ?_⟩
    rw [← List.length_flatten]
    rfl

/-- A `\r` before a `\r\n` is a break of its own. The line between them is empty, and the offset
inside the second break comes after the one in front of it. -/
theorem lines_agree_adjacent_breaks :
    (ofString "a\r\r\nb\n").lineCount = 4 ∧
      (∃ ending ∈ breaks, (ofString "a\r\r\nb\n").line 1 = .ok ending) ∧
      (ofString "a\r\r\nb\n").lineLength 1 = .ok 0 ∧
      ∃ p q, (ofString "a\r\r\nb\n").position 2 = .ok p ∧
        (ofString "a\r\r\nb\n").position 3 = .ok q ∧ p.isBefore q = true ∧ compare p q = .lt := by
  obtain ⟨hcount, ⟨ls, hlength, -, hlines, hparts, hposition⟩, horder⟩ :=
    lines_agree (ofString "a\r\r\nb\n")
  have hfour : (ofString "a\r\r\nb\n").lineCount = 4 := by
    rw [hcount]
    decide
  have hline : (ofString "a\r\r\nb\n").line 1 = .ok ['\r', '\n'] := rfl
  obtain ⟨content, ending, hsplit, plain, -, hlen, hbreak, -⟩ := hparts 1 _ ((hlines 1 _).1 hline)
  -- a content in front of the break would start with a break character
  obtain rfl : content = [] := by
    cases content with
    | nil => rfl
    | cons c cs =>
      obtain ⟨rfl, -⟩ : '\r' = c ∧ _ := by simpa using hsplit
      exact absurd rfl (plain '\r' List.mem_cons_self).2
  obtain rfl : ['\r', '\n'] = ending := hsplit
  obtain ⟨p, hp, -⟩ := hposition 2 (by decide)
  obtain ⟨q, hq, -⟩ := hposition 3 (by decide)
  obtain ⟨hbefore, hcompare⟩ := horder 2 3 p q hp hq
  exact ⟨hfour, ⟨_, (hbreak (by rw [hlength, hfour]; decide)).1, hline⟩, hlen, p, q, hp, hq,
    hbefore.1 (by decide), hcompare⟩

end TextBuffer

end AnnotationBridge.Text
