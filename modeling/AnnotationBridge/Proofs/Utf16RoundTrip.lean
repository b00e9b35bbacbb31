import AnnotationBridge.Proofs.Utf16

/-!
# From offsets to UTF-16 columns and back

The UTF-16 position of an offset counts the break of a line too, but the way back stops at the end
of the content. So an offset is found again from its position unless it is inside a break `\r\n`,
and what stands for a position is always found again.

* `Text.units_take_lt`, `Text.charsWithin_units_take`: a longer beginning of a line takes more
  units, and the units that it takes tell its length.
* `Text.TextBuffer.indexOfUtf16_of_isColumn`: the way there and back, said of one line.
* `Text.TextBuffer.utf16Position_lt`: later offsets have later positions.
* `Text.TextBuffer.utf16_round_trip`: all of it, over the offsets of a text and any positions.
-/

namespace AnnotationBridge.Text

variable {cs l : List Char} {n k i j : Nat} {p q : Position} {b : TextBuffer}

/-! ### Beginnings of a line -/

/-- **A longer beginning of a text takes more units.** -/
theorem units_take_lt (h : i < k) (hk : k ≤ cs.length) :
    units (cs.take i) < units (cs.take k) := by
  induction cs generalizing i k with
  | nil =>
    rw [List.length_nil] at hk
    omega
  | cons c cs ih =>
    cases k with
    | zero => omega
    | succ k =>
      cases i with
      | zero =>
        have hc := charUnits_pos c
        simp only [List.take_zero, units_nil, List.take_succ_cons, units_cons]
        omega
      | succ i =>
        have hlater := ih (Nat.lt_of_succ_lt_succ h) (Nat.le_of_succ_le_succ hk)
        simp only [List.take_succ_cons, units_cons]
        omega

/-- The units that a beginning takes tell its length. -/
theorem charsWithin_units_take (hk : k ≤ cs.length) :
    charsWithin (units (cs.take k)) cs = k := by
  apply Nat.le_antisymm
  · by_contra hlt
    have hnext : k + 1 ≤ charsWithin (units (cs.take k)) cs := Nat.not_le.1 hlt
    have hlen := charsWithin_le_length (units (cs.take k)) cs
    have hle := (le_charsWithin_iff (Nat.le_trans hnext hlen)).1 hnext
    have hgrows := units_take_lt (Nat.lt_add_one k) (Nat.le_trans hnext hlen)
    omega
  · exact (le_charsWithin_iff hk).2 (Nat.le_refl _)

/-! ### Positions of offsets -/

/-- A position is before another exactly if its line is, or its column in the same line. -/
theorem Position.key_lt_key_iff :
    p.key < q.key ↔ p.line < q.line ∨ p.line = q.line ∧ p.column < q.column :=
  Prod.Lex.toLex_lt_toLex

namespace TextBuffer

/-- **There and back in one line**: a column in the content is found again, and one in the break
leads to the end of the content. -/
theorem indexOfUtf16_of_isColumn (h : IsColumn (lines b.text) n l k) :
    b.indexOfUtf16 ⟨n, units (l.take k)⟩ = b.lineStart n + min k (lineContent l).length := by
  have hback : b.indexOfUtf16 ⟨n, units (l.take k)⟩ =
      b.lineStart n + charsWithin (units (l.take k)) (lineContent l) := indexOfUtf16_of_line h.line
  rw [hback]
  congr 1
  by_cases hk : k ≤ (lineContent l).length
  · rw [take_eq_take_lineContent hk, charsWithin_units_take hk, Nat.min_eq_left hk]
  · have hlt : (lineContent l).length < k := Nat.not_le.1 hk
    have hall : units (lineContent l) ≤ units (l.take k) := by
      have hcontent := take_eq_take_lineContent (l := l) (Nat.le_refl (lineContent l).length)
      rw [List.take_length] at hcontent
      rw [← hcontent]
      exact Nat.le_of_lt (units_take_lt hlt h.le_length)
    rw [charsWithin_of_units_le hall, Nat.min_eq_right (Nat.le_of_lt hlt)]

/-- An offset that is not inside a break is found again from its position. -/
theorem indexOfUtf16_of_not_insideBreak (hi : i ≤ b.size) (hinside : ¬ InsideBreak b.text i) :
    ∃ p, b.utf16Position i = .ok p ∧ b.indexOfUtf16 p = i := by
  obtain ⟨n, l, k, hcol, rfl⟩ := exists_lineStart_add hi
  refine ⟨_, utf16Position_of_isColumn hcol, ?_⟩
  have hnext := (areLines_lines b.text).le_length_lineContent hcol
  rw [insideBreak_iff hcol] at hinside
  rw [indexOfUtf16_of_isColumn hcol, Nat.min_eq_left (by omega)]

/-- An offset inside a break leads back to the `\r`. -/
theorem indexOfUtf16_of_insideBreak (hi : i + 1 ≤ b.size) (hinside : InsideBreak b.text (i + 1)) :
    ∃ p, b.utf16Position (i + 1) = .ok p ∧ b.indexOfUtf16 p = i := by
  obtain ⟨n, l, k, hcol, heq⟩ := exists_lineStart_add hi
  rw [heq] at hinside ⊢
  refine ⟨_, utf16Position_of_isColumn hcol, ?_⟩
  rw [insideBreak_iff hcol] at hinside
  rw [indexOfUtf16_of_isColumn hcol, Nat.min_eq_right (by omega)]
  omega

/-- **Later offsets have later positions.** -/
theorem utf16Position_lt (h : i < j) (hj : j ≤ b.size) :
    ∃ p q, b.utf16Position i = .ok p ∧ b.utf16Position j = .ok q ∧ p.key < q.key := by
  obtain ⟨n, l, k, hcol, rfl⟩ := exists_lineStart_add (Nat.le_trans (Nat.le_of_lt h) hj)
  obtain ⟨m, l', k', hcol', rfl⟩ := exists_lineStart_add hj
  refine ⟨_, _, utf16Position_of_isColumn hcol, utf16Position_of_isColumn hcol', ?_⟩
  rw [Position.key_lt_key_iff]
  rcases (hcol.lt_iff hcol').1 h with hlt | ⟨rfl, hk⟩
  · exact .inl hlt
  · obtain rfl := Option.some.inj (hcol.line.symm.trans hcol'.line)
    exact .inr ⟨rfl, units_take_lt hk hcol'.le_length⟩

/-- **Offsets and UTF-16 positions, there and back.** Later offsets have later positions. An offset
is found again from its position, but for the one between the `\r` and the `\n` of a break, which
leads back to the `\r`. The offset that stands for any line and column at all is found again. -/
theorem utf16_round_trip (b : TextBuffer) :
    (∀ i j, i < j → j ≤ b.size →
        ∃ p q, b.utf16Position i = .ok p ∧ b.utf16Position j = .ok q ∧ p.key < q.key) ∧
      (∀ i, i ≤ b.size → ¬ InsideBreak b.text i →
        ∃ p, b.utf16Position i = .ok p ∧ b.indexOfUtf16 p = i) ∧
      (∀ i, b.text[i]? = some '\r' → b.text[i + 1]? = some '\n' →
        ∃ p, b.utf16Position (i + 1) = .ok p ∧ b.indexOfUtf16 p = i) ∧
      ∀ p, ∃ q, b.utf16Position (b.indexOfUtf16 p) = .ok q ∧
        b.indexOfUtf16 q = b.indexOfUtf16 p := by
  refine ⟨fun i j => utf16Position_lt, fun i => indexOfUtf16_of_not_insideBreak, ?_, ?_⟩
  · intro i hcr hlf
    have hi : i + 1 < b.size := (List.getElem?_eq_some_iff.1 hlf).1
    exact indexOfUtf16_of_insideBreak (Nat.le_of_lt hi) ⟨i, rfl, hcr, hlf⟩
  · intro p
    obtain ⟨hsize, hinside, -⟩ := b.indexOfUtf16_mem_offsetsUpTo p
    exact indexOfUtf16_of_not_insideBreak hsize hinside

/-- In a text with a pair of units and a break of two characters, the offset of the character after
the pair is found again, and the one inside the break leads back to the `\r`. -/
theorem utf16_round_trip_surrogate_pair :
    (∃ p q, Sample.buffer.utf16Position 1 = .ok p ∧ Sample.buffer.utf16Position 2 = .ok q ∧
        p.key < q.key) ∧
      (∃ p, Sample.buffer.utf16Position 2 = .ok p ∧ Sample.buffer.indexOfUtf16 p = 2) ∧
      (∃ p, Sample.buffer.utf16Position 4 = .ok p ∧ Sample.buffer.indexOfUtf16 p = 3) ∧
      ∃ q, Sample.buffer.utf16Position (Sample.buffer.indexOfUtf16 ⟨0, 2⟩) = .ok q ∧
        Sample.buffer.indexOfUtf16 q = Sample.buffer.indexOfUtf16 ⟨0, 2⟩ := by
  obtain ⟨increasing, found, atBreak, again⟩ := utf16_round_trip Sample.buffer
  have hnot : ¬ InsideBreak Sample.buffer.text 2 := by
    rintro ⟨j, hj, hcr, -⟩
    obtain rfl : j = 1 := by omega
    exact absurd hcr (by decide)
  exact ⟨increasing 1 2 (by decide) (by decide), found 2 (by decide) hnot,
    atBreak 3 (by decide) (by decide), again ⟨0, 2⟩⟩

end TextBuffer

end AnnotationBridge.Text
