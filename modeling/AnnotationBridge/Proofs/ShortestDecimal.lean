import AnnotationBridge.Double.Shortest
import AnnotationBridge.Proofs.DoubleRounding

/-!
# The shortest decimal of a number

The shortest decimal of a number is zero, or has at most eighteen digits and is among the numbers
that are rounded to the number. Seventeen digits always suffice, so for a number above zero it is
not zero.

* `Decimal.Stands`: a decimal that is rounded to a number.
* `Magnitude.attempt?`: the decimal of a given number of digits.
* `Magnitude.shortest_cases`: what the shortest decimal is.
* `Magnitude.contains_nearest`: on a fine grid the nearest decimal is close enough.
* `Magnitude.stands_shortest`: the shortest decimal stands for the number.
-/

namespace AnnotationBridge

open Magnitude (decimalShift unitsPerOne Span)

/-- A decimal in units of its last decimal place that is looked at. -/
def Decimal.shifted (d : Decimal) : Nat :=
  d.digits * Nat.pow 10 (d.exponent + decimalShift).toNat

/-- A decimal above zero that is rounded to a number. -/
structure Decimal.Stands (d : Decimal) (x : Magnitude) : Prop where
  pos : 0 < d.digits
  digits_lt : d.digits < 2 * Nat.pow 10 17
  exponent_ge : -(decimalShift : Int) ≤ d.exponent
  within : x.span.contains (d.shifted * (4 * unitsPerOne)) = true

namespace Decimal

variable {d : Decimal} {x : Magnitude}

/-- Zeros at the end are taken off without changing the number. -/
theorem Stands.trim (h : d.Stands x) (fuel : Nat) : (d.trim fuel).Stands x := by
  induction fuel generalizing d with
  | zero => exact h
  | succ fuel ih =>
    rw [Decimal.trim]
    split
    · rename_i hzero
      refine ih ?_
      obtain ⟨hpos, hlt, hge, hwithin⟩ := h
      have hdigits : d.digits / 10 * 10 = d.digits := by omega
      have hpower : (d.exponent + 1 + decimalShift).toNat = (d.exponent + decimalShift).toNat + 1 := by
        omega
      have hshifted : (⟨d.digits / 10, d.exponent + 1⟩ : Decimal).shifted = d.shifted := by
        unfold shifted
        dsimp only
        rw [hpower]
        show d.digits / 10 * (Nat.pow 10 _ * 10) = _
        rw [Nat.mul_comm (Nat.pow 10 _) 10, ← Nat.mul_assoc, hdigits]
      refine ⟨?_, ?_, ?_, ?_⟩
      · dsimp only
        omega
      · dsimp only
        omega
      · dsimp only
        omega
      · exact hshifted ▸ hwithin
    · exact h

/-- There is nothing to take off zero. -/
theorem trim_zero (fuel : Nat) : Decimal.trim fuel ⟨0, 0⟩ = ⟨0, 0⟩ := by
  cases fuel with
  | zero => rfl
  | succ fuel => rfl

end Decimal

namespace Magnitude

variable {x : Magnitude} {n grid : Nat}

/-- Powers of ten are positive. -/
theorem pow_ten_pos (n : Nat) : 0 < Nat.pow 10 n :=
  Nat.pow_pos (by decide)

/-- A number has fewer than `10 ^ n` units if its whole part has `n` digits. -/
theorem lt_of_length_toDigits (value : Nat) {unit : Nat} (hunit : 0 < unit) :
    value < unit * Nat.pow 10 (Nat.toDigits 10 (value / unit)).length := by
  have hdigits : value / unit < Nat.pow 10 (Nat.toDigits 10 (value / unit)).length :=
    (Nat.length_toDigits_le_iff (by decide) Nat.length_toDigits_pos).1 (Nat.le_refl _)
  rw [Nat.mul_comm]
  exact (Nat.div_lt_iff_lt_mul hunit).1 hdigits

/-- The bounds of a span are ordered. -/
theorem span_low_le_high (x : Magnitude) : x.span.low ≤ x.span.high := by
  unfold span
  dsimp only
  omega

/-- What is contained in a span is between its bounds. -/
theorem span_contains_le (h : x.span.contains n = true) : x.span.low ≤ n ∧ n ≤ x.span.high := by
  have hle := x.span_low_le_high
  simp only [Span.contains, Bool.or_eq_true, Bool.and_eq_true, decide_eq_true_eq, beq_iff_eq] at h
  omega

/-- What is found on a grid is contained in the span. -/
theorem Span.contains_of_onGrid? {s : Span} (h : s.onGrid? grid = some n) :
    s.contains (n * grid) = true := by
  unfold Span.onGrid? at h
  have hfound := List.find?_some h
  exact hfound

/-- What is rounded to a number above zero is above zero, and less than twice the number. -/
theorem span_bounds (hx : x.significand ≠ 0) :
    0 < x.span.low ∧ x.span.high < 2 * x.span.value := by
  have hstep : 0 < Nat.pow 2 x.exponent * Nat.pow 10 decimalShift :=
    Nat.mul_pos (pow_two_pos _) (pow_ten_pos _)
  have hvalue : 4 * (Nat.pow 2 x.exponent * Nat.pow 10 decimalShift) ≤
      4 * x.significand * (Nat.pow 2 x.exponent * Nat.pow 10 decimalShift) :=
    Nat.mul_le_mul_right _ (by omega)
  unfold span
  dsimp only
  generalize Nat.pow 2 x.exponent * Nat.pow 10 decimalShift = step at hstep hvalue ⊢
  generalize 4 * x.significand * step = value at hvalue ⊢
  split <;> omega

/-- A multiple of a grid that is in the span of a number is a decimal that is rounded to it. -/
theorem stands_of_onGrid? (hx : x.significand ≠ 0) {places size : Nat}
    (hplaces : x.span.value < 4 * unitsPerOne * Nat.pow 10 places) (hsize : size ≤ 17)
    (h : x.span.onGrid? (4 * unitsPerOne * Nat.pow 10 (places - size)) = some n) :
    Decimal.Stands ⟨n, ((places - size : Nat) : Int) - decimalShift⟩ x := by
  obtain ⟨hlow, hhigh⟩ := span_bounds hx
  have hwithin := Span.contains_of_onGrid? h
  obtain ⟨hge, hbound⟩ := span_contains_le hwithin
  have hpower : Nat.pow 10 places ≤ Nat.pow 10 (places - size) * Nat.pow 10 17 := by
    calc Nat.pow 10 places ≤ Nat.pow 10 (places - size + 17) :=
          Nat.pow_le_pow_right (by decide) (by omega)
      _ = Nat.pow 10 (places - size) * Nat.pow 10 17 := Nat.pow_add 10 _ _
  have hexponent : (((places - size : Nat) : Int) - decimalShift + decimalShift).toNat =
      places - size := by omega
  refine ⟨?_, ?_, ?_, ?_⟩
  · refine Nat.pos_of_ne_zero fun hzero => ?_
    simp only at hzero
    rw [hzero, Nat.zero_mul] at hge
    omega
  · have hgrid : n * (4 * unitsPerOne * Nat.pow 10 (places - size)) <
        2 * Nat.pow 10 17 * (4 * unitsPerOne * Nat.pow 10 (places - size)) := by
      calc n * (4 * unitsPerOne * Nat.pow 10 (places - size))
          < 2 * (4 * unitsPerOne * Nat.pow 10 places) := by omega
        _ ≤ 2 * (4 * unitsPerOne * (Nat.pow 10 (places - size) * Nat.pow 10 17)) :=
          Nat.mul_le_mul_left _ (Nat.mul_le_mul_left _ hpower)
        _ = 2 * Nat.pow 10 17 * (4 * unitsPerOne * Nat.pow 10 (places - size)) := by ring
    exact Nat.lt_of_mul_lt_mul_right hgrid
  · dsimp only
    omega
  · have hshifted : n * (4 * unitsPerOne * Nat.pow 10 (places - size)) =
        Decimal.shifted ⟨n, ((places - size : Nat) : Int) - decimalShift⟩ * (4 * unitsPerOne) := by
      rw [Decimal.shifted, hexponent]
      ring
    exact hshifted ▸ hwithin

/-- The decimal of `n + 1` digits that is looked for. -/
def attempt? (x : Magnitude) (n : Nat) : Option Decimal :=
  let places := (Nat.toDigits 10 (x.span.value / (4 * unitsPerOne))).length
  (x.span.onGrid? (4 * unitsPerOne * Nat.pow 10 (places - (n + 1)))).map fun digits =>
    ⟨digits, ((places - (n + 1) : Nat) : Int) - decimalShift⟩

/-- The shortest decimal of a positive number is the first that is found with so many digits. -/
theorem shortest_eq (hx : x.significand ≠ 0) :
    x.shortest = (((List.range 17).findSome? x.attempt?).getD ⟨0, 0⟩).trim 17 :=
  if_neg hx

/-- The unit in which spans are measured is positive. -/
theorem unit_pos : 0 < 4 * unitsPerOne :=
  Nat.mul_pos (by decide) unitsPerOne_pos

/-- A decimal that is found stands for the number. -/
theorem stands_of_attempt? {d : Decimal} (hx : x.significand ≠ 0)
    (h : (List.range 17).findSome? x.attempt? = some d) : d.Stands x := by
  obtain ⟨size, hsize, hattempt⟩ := List.exists_of_findSome?_eq_some h
  unfold attempt? at hattempt
  dsimp only at hattempt
  obtain ⟨n, hn, rfl⟩ := Option.map_eq_some_iff.1 hattempt
  exact stands_of_onGrid? hx (lt_of_length_toDigits x.span.value unit_pos)
    (Nat.succ_le_of_lt (List.mem_range.1 hsize)) hn

/-- **The shortest decimal of a number** is zero, or is rounded to the number. -/
theorem shortest_cases (x : Magnitude) : x.shortest = ⟨0, 0⟩ ∨ x.shortest.Stands x := by
  by_cases hx : x.significand = 0
  · exact .inl (if_pos hx)
  · rw [shortest_eq hx]
    cases hfound : (List.range 17).findSome? x.attempt? with
    | none => exact .inl (Decimal.trim_zero 17)
    | some d => exact .inr ((stands_of_attempt? hx hfound).trim 17)

/-! ### Seventeen digits -/

/-- **On a fine grid the nearest decimal is close enough.** -/
theorem onGrid?_isSome {s : Span} (hgrid : 0 < grid) (hlow : 2 * s.low + grid < 2 * s.value)
    (hhigh : 2 * s.value + grid < 2 * s.high) : (s.onGrid? grid).isSome = true := by
  have hup := Double.roundDiv_le s.value grid
  have hdown := Double.le_roundDiv s.value hgrid
  have hcomm : 2 * grid * Double.roundDiv s.value grid = 2 * (Double.roundDiv s.value grid * grid) := by
    ring
  unfold Span.onGrid?
  dsimp only
  rw [List.find?_isSome]
  refine ⟨_, List.mem_cons_self, ?_⟩
  simp only [Span.contains, Bool.or_eq_true, Bool.and_eq_true, decide_eq_true_eq]
  left
  omega

/-- The grid of seventeen digits is fine. -/
theorem grid_lt {unit step value places k : Nat} (hk : 1 < k) (hstep : 0 < step) (hunit : unit ≤ step)
    (hplaces : 17 < places → unit * Nat.pow 10 (places - 1) ≤ value)
    (hvalue : value < k * step * Nat.pow 10 16) : unit * Nat.pow 10 (places - 17) < k * step := by
  by_cases hlong : 17 < places
  · have hpower : Nat.pow 10 (places - 1) = Nat.pow 10 (places - 17) * Nat.pow 10 16 := by
      rw [show places - 1 = places - 17 + 16 by omega]
      exact Nat.pow_add 10 _ _
    have hle := hplaces hlong
    rw [hpower, ← Nat.mul_assoc] at hle
    exact Nat.lt_of_mul_lt_mul_right (Nat.lt_of_le_of_lt hle hvalue)
  · rw [Nat.sub_eq_zero_of_le (Nat.le_of_not_lt hlong)]
    calc unit * Nat.pow 10 0 = unit := Nat.mul_one unit
      _ ≤ step := hunit
      _ < k * step := by
        have hmul := Nat.mul_le_mul_right step hk
        omega

/-- The span of a number reaches far enough for the grid of seventeen digits. -/
theorem span_wide (hx : x.Valid) (hsig : x.significand ≠ 0) {places : Nat}
    (hplaces : 17 < places → 4 * unitsPerOne * Nat.pow 10 (places - 1) ≤ x.span.value) :
    2 * x.span.low + 4 * unitsPerOne * Nat.pow 10 (places - 17) < 2 * x.span.value ∧
      2 * x.span.value + 4 * unitsPerOne * Nat.pow 10 (places - 17) < 2 * x.span.high := by
  have hunit : 4 * unitsPerOne ≤ Nat.pow 2 x.exponent * Nat.pow 10 decimalShift :=
    Nat.le_trans (by decide +kernel) (Nat.le_mul_of_pos_left (Nat.pow 10 decimalShift) (pow_two_pos _))
  have hstep : 0 < Nat.pow 2 x.exponent * Nat.pow 10 decimalShift :=
    Nat.mul_pos (pow_two_pos _) (pow_ten_pos _)
  have hconst : 4 * significandBound ≤ 4 * Nat.pow 10 16 := by decide
  have hconst' : 4 * (significandBound / 2) < 2 * Nat.pow 10 16 := by decide
  have hgrid {k : Nat} (hk : 1 < k) := grid_lt hk hstep hunit hplaces
  have hlt := hx.significand_lt
  unfold span at hgrid ⊢
  dsimp only at hgrid ⊢
  generalize Nat.pow 2 x.exponent * Nat.pow 10 decimalShift = step at hstep hgrid ⊢
  generalize 4 * unitsPerOne * Nat.pow 10 (places - 17) = grid at hgrid ⊢
  generalize Nat.pow 10 16 = power at hgrid hconst hconst'
  have hwide : grid < 4 * step := by
    refine hgrid (by decide) ?_
    calc 4 * x.significand * step < 4 * significandBound * step :=
          Nat.mul_lt_mul_of_pos_right (by omega) hstep
      _ ≤ 4 * power * step := Nat.mul_le_mul_right _ hconst
      _ = 4 * step * power := Nat.mul_right_comm _ _ _
  have hvalue : 4 * step ≤ 4 * x.significand * step := Nat.mul_le_mul_right _ (by omega)
  split
  · rename_i hnarrow
    have hsame : x.significand = significandBound / 2 := by
      simp only [Bool.and_eq_true, beq_iff_eq] at hnarrow
      exact hnarrow.1
    have hfine : grid < 2 * step := by
      refine hgrid (by decide) ?_
      rw [hsame]
      calc 4 * (significandBound / 2) * step < 2 * power * step :=
            Nat.mul_lt_mul_of_pos_right hconst' hstep
        _ = 2 * step * power := Nat.mul_right_comm _ _ _
    omega
  · omega

/-- A number has at least `10 ^ n` units if its whole part has more than `n` digits. -/
theorem le_of_length_toDigits {value unit places : Nat} (hunit : 0 < unit) (hplaces : 1 < places)
    (h : (Nat.toDigits 10 (value / unit)).length = places) :
    unit * Nat.pow 10 (places - 1) ≤ value := by
  have hdigits : ¬ value / unit < Nat.pow 10 (places - 1) := fun hlt => by
    have hle := (Nat.length_toDigits_le_iff (by decide) (Nat.sub_pos_of_lt hplaces)).2 hlt
    omega
  rw [Nat.mul_comm]
  exact (Nat.le_div_iff_mul_le hunit).1 (Nat.le_of_not_lt hdigits)

/-- Seventeen digits suffice. -/
theorem attempt?_isSome (hx : x.Valid) (hsig : x.significand ≠ 0) :
    (x.attempt? 16).isSome = true := by
  unfold attempt?
  dsimp only
  rw [Option.isSome_map]
  generalize hplaces : (Nat.toDigits 10 (x.span.value / (4 * unitsPerOne))).length = places
  obtain ⟨hlow, hhigh⟩ := span_wide hx hsig fun hlong =>
    le_of_length_toDigits unit_pos (Nat.lt_trans (by decide) hlong) hplaces
  exact onGrid?_isSome (Nat.mul_pos unit_pos (pow_ten_pos _)) hlow hhigh

/-- **The shortest decimal of a number above zero is rounded to the number.** -/
theorem stands_shortest (hx : x.Valid) (hsig : x.significand ≠ 0) : x.shortest.Stands x := by
  have hsome : ((List.range 17).findSome? x.attempt?).isSome = true :=
    List.findSome?_isSome_iff.2 ⟨16, by decide, attempt?_isSome hx hsig⟩
  obtain ⟨d, hd⟩ := Option.isSome_iff_exists.1 hsome
  rw [shortest_eq hsig, hd]
  exact (stands_of_attempt? hsig hd).trim 17

end Magnitude

end AnnotationBridge
