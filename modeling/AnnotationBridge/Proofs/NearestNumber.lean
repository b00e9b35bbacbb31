import AnnotationBridge.Proofs.ShortestDecimal

/-!
# The number nearest to a quotient

Rounding finds the number that a quotient is near to. The numbers next to a power of two need care:
below it they are half as far apart as above it, so a quotient that lies just below may have to be
rounded up with the smaller step.

* `Magnitude.Near`: a quotient that is off from a number by at most half a step.
* `Magnitude.ofRatio?_of_near`: it is rounded to the number.
* `Magnitude.near_of_contains`: what is in the span of a number is near to it.
* `Magnitude.ofNat?_exact`: natural numbers of 53 bits, also with zeros behind them, are not
  rounded.
-/

namespace AnnotationBridge.Magnitude

variable {num den exponent n : Nat} {x : Magnitude}

/-! ### The exponent -/

/-- If a significand has its leading bit at one exponent and is below the bound at another, the
first is not the greater one. -/
theorem lt_of_pow_two_lt {a b scaled : Nat} (hle : den * Nat.pow 2 a * Nat.pow 2 52 ≤ scaled)
    (hlt : scaled < den * Nat.pow 2 b * significandBound) : a < b + 1 := by
  have hpow : den * Nat.pow 2 (a + 52) < den * Nat.pow 2 (b + 1 + 52) := by
    calc den * Nat.pow 2 (a + 52) = den * Nat.pow 2 a * Nat.pow 2 52 := by
          rw [pow_two_add, Nat.mul_assoc]
      _ ≤ scaled := hle
      _ < den * Nat.pow 2 b * significandBound := hlt
      _ = den * Nat.pow 2 (b + 1 + 52) := by
        rw [pow_two_add, pow_two_add, significandBound_eq, Nat.mul_comm (Nat.pow 2 52), ← Nat.mul_assoc,
          ← Nat.mul_assoc, ← Nat.mul_assoc]
  by_contra hge
  have hle := Nat.mul_le_mul_left den (pow_two_le (show b + 1 + 52 ≤ a + 52 by omega))
  exact Nat.lt_irrefl _ (Nat.lt_of_lt_of_le hpow hle)

/-- A quotient has only one exponent. -/
theorem ratioExponent_eq {scaled : Nat} (hden : 0 < den)
    (hlt : scaled < den * Nat.pow 2 exponent * significandBound)
    (hle : exponent = 0 ∨ den * Nat.pow 2 exponent * Nat.pow 2 52 ≤ scaled) :
    ratioExponent scaled den = exponent := by
  refine Nat.le_antisymm ?_ ?_
  · by_cases hzero : ratioExponent scaled den = 0
    · rw [hzero]
      exact Nat.zero_le _
    · exact Nat.le_of_lt_succ (lt_of_pow_two_lt (le_of_ratioExponent scaled den hzero) hlt)
  · obtain rfl | hle := hle
    · exact Nat.zero_le _
    · exact Nat.le_of_lt_succ (lt_of_pow_two_lt hle (lt_of_ratioExponent scaled hden))

/-! ### Near quotients -/

/-- The quotient `scaled / den` is off from the units of a number by at most half a step, by less if
the significand is odd, and below a power of two by at most a quarter of a step. -/
structure Near (x : Magnitude) (scaled den : Nat) : Prop where
  low : 2 * (x.significand * (den * Nat.pow 2 x.exponent)) ≤
    2 * scaled + den * Nat.pow 2 x.exponent
  high : 2 * scaled ≤
    2 * (x.significand * (den * Nat.pow 2 x.exponent)) + den * Nat.pow 2 x.exponent
  odd : x.significand % 2 = 1 →
    2 * (x.significand * (den * Nat.pow 2 x.exponent)) < 2 * scaled + den * Nat.pow 2 x.exponent ∧
      2 * scaled < 2 * (x.significand * (den * Nat.pow 2 x.exponent)) + den * Nat.pow 2 x.exponent
  narrow : x.significand = Nat.pow 2 52 → x.exponent ≠ 0 →
    4 * (x.significand * (den * Nat.pow 2 x.exponent)) ≤ 4 * scaled + den * Nat.pow 2 x.exponent

/-- A number within the bounds is normalized already. -/
theorem normalized?_of_valid (hx : x.Valid) : normalized? x.significand x.exponent = some x := by
  unfold normalized?
  dsimp only
  rw [if_neg (Nat.ne_of_lt hx.significand_lt), if_pos hx.exponent_le]

/-- Below a power of two a quotient is rounded with the smaller step, and up to the power. -/
theorem ofRatio?_below_power (hden : 0 < den) (hexponent : exponent + 1 ≤ maxExponent)
    (hlt : num * unitsPerOne < den * Nat.pow 2 (exponent + 1) * Nat.pow 2 52)
    (hnarrow : 4 * (Nat.pow 2 52 * (den * Nat.pow 2 (exponent + 1))) ≤
      4 * (num * unitsPerOne) + den * Nat.pow 2 (exponent + 1)) :
    ofRatio? num den = some ⟨Nat.pow 2 52, exponent + 1⟩ := by
  have hhalf : den * Nat.pow 2 (exponent + 1) = den * Nat.pow 2 exponent * 2 := (Nat.mul_assoc _ _ _).symm
  have hpos : 0 < den * Nat.pow 2 exponent := Nat.mul_pos hden (pow_two_pos _)
  have hbits : 2 ≤ Nat.pow 2 52 := by decide
  rw [hhalf] at hlt hnarrow
  rw [ofRatio?_eq]
  have hratio : ratioExponent (num * unitsPerOne) den = exponent := by
    refine ratioExponent_eq hden ?_ (.inr ?_)
    · rw [significandBound_eq]
      calc num * unitsPerOne < den * Nat.pow 2 exponent * 2 * Nat.pow 2 52 := hlt
        _ = den * Nat.pow 2 exponent * (Nat.pow 2 52 * 2) := by
          rw [Nat.mul_assoc, Nat.mul_comm 2]
    · generalize den * Nat.pow 2 exponent = half at hnarrow hpos ⊢
      generalize Nat.pow 2 52 = bits at hnarrow hbits ⊢
      have hmul : half * 2 ≤ half * bits := Nat.mul_le_mul_left _ hbits
      have hcomm : bits * (half * 2) = half * bits * 2 := by
        rw [Nat.mul_comm, Nat.mul_right_comm]
      omega
  have hround : Double.roundDiv (num * unitsPerOne) (den * Nat.pow 2 exponent) = significandBound := by
    refine Double.roundDiv_eq hpos ?_ ?_ fun h => absurd h (by decide)
    all_goals
      rw [significandBound_eq]
      generalize den * Nat.pow 2 exponent = half at hlt hnarrow ⊢
      generalize Nat.pow 2 52 = bits at hlt hnarrow ⊢
      have hcomm : bits * 2 * half = half * 2 * bits := by
        rw [Nat.mul_assoc, Nat.mul_comm 2, Nat.mul_comm]
      have hcomm' : bits * (half * 2) = half * 2 * bits := Nat.mul_comm _ _
      omega
  rw [hratio, hround]
  unfold normalized?
  dsimp only
  rw [if_pos rfl, if_pos hexponent]
  rfl

/-- **A quotient that is near to a number is rounded to it.** -/
theorem ofRatio?_of_near (hx : x.Valid) (hden : 0 < den) (h : x.Near (num * unitsPerOne) den) :
    ofRatio? num den = some x := by
  -- A quotient below the power of two `x` has a smaller exponent than `x`.
  by_cases hlead : x.exponent = 0 ∨
      den * Nat.pow 2 x.exponent * Nat.pow 2 52 ≤ num * unitsPerOne
  · have hpos : 0 < den * Nat.pow 2 x.exponent := Nat.mul_pos hden (pow_two_pos _)
    have hratio : ratioExponent (num * unitsPerOne) den = x.exponent := by
      refine ratioExponent_eq hden ?_ hlead
      have hmul := Nat.mul_le_mul_right (den * Nat.pow 2 x.exponent) hx.significand_lt
      rw [Nat.succ_mul] at hmul
      have hhigh := h.high
      rw [Nat.mul_comm _ significandBound]
      omega
    rw [ofRatio?_eq, hratio, Double.roundDiv_eq hpos h.low h.high h.odd]
    exact normalized?_of_valid hx
  · obtain ⟨hexponent, hlt⟩ := not_or.1 hlead
    have hsig : x.significand = Nat.pow 2 52 := by
      refine Nat.le_antisymm ?_ (hx.leading.resolve_left hexponent)
      by_contra hgt
      have hmul := Nat.mul_le_mul_right (den * Nat.pow 2 x.exponent) (Nat.lt_of_not_le hgt)
      rw [Nat.succ_mul] at hmul
      have hlow := h.low
      have hcomm := Nat.mul_comm (den * Nat.pow 2 x.exponent) (Nat.pow 2 52)
      omega
    have hnarrow := h.narrow hsig hexponent
    obtain ⟨significand, exponent⟩ := x
    obtain ⟨exponent, rfl⟩ := Nat.exists_eq_succ_of_ne_zero hexponent
    obtain rfl := hsig
    exact ofRatio?_below_power hden hx.exponent_le (Nat.lt_of_not_le hlt) hnarrow

/-! ### Spans -/

section

variable {scaled power : Nat} (step : Nat) (hpower : 0 < power) (hden : 0 < den)
  (hn : n * den = 4 * scaled * power)

/-- A multiple of a step, in units of both sides. -/
theorem steps_mul (step a : Nat) : a * (step * power) * den = a * (den * step) * power := by
  ring

include hn

/-- A quotient with a multiple of a step, in units of both sides. -/
theorem add_steps_mul (b : Nat) :
    (n + b * (step * power)) * den = (4 * scaled + b * (den * step)) * power := by
  rw [Nat.add_mul, hn, steps_mul, ← Nat.add_mul]

include hpower hden

/-- Steps below a number of a span are steps below the quotient that it stands for. -/
theorem steps_le_iff (a b : Nat) : a * (step * power) ≤ n + b * (step * power) ↔
    a * (den * step) ≤ 4 * scaled + b * (den * step) := by
  rw [← Nat.mul_le_mul_right_iff hden, steps_mul, add_steps_mul step hn,
    Nat.mul_le_mul_right_iff hpower]

/-- Steps above a number of a span are steps above the quotient that it stands for. -/
theorem le_steps_iff (a b : Nat) : n + b * (step * power) ≤ a * (step * power) ↔
    4 * scaled + b * (den * step) ≤ a * (den * step) := by
  rw [← Nat.mul_le_mul_right_iff hden, steps_mul, add_steps_mul step hn,
    Nat.mul_le_mul_right_iff hpower]

end

/-- **What is in the span of a number is near to it.** -/
theorem near_of_contains {scaled : Nat} (hden : 0 < den) (h : x.span.contains n = true)
    (hn : n * den = 4 * scaled * Nat.pow 10 decimalShift) : x.Near scaled den := by
  have hbelow := steps_le_iff (Nat.pow 2 x.exponent) (pow_ten_pos decimalShift) hden hn
  have habove := le_steps_iff (Nat.pow 2 x.exponent) (pow_ten_pos decimalShift) hden hn
  unfold Span.contains span at h
  dsimp only at h
  simp only [Bool.or_eq_true, Bool.and_eq_true, decide_eq_true_eq, beq_iff_eq, bne_iff_ne] at h
  have hstep : 0 < Nat.pow 2 x.exponent * Nat.pow 10 decimalShift :=
    Nat.mul_pos (pow_two_pos _) (pow_ten_pos _)
  generalize Nat.pow 2 x.exponent * Nat.pow 10 decimalShift = step at hbelow habove hstep h
  have hlow := hbelow (4 * x.significand) 2
  have hhigh := habove (4 * x.significand + 2) 0
  have hlow' := habove (4 * x.significand) 2
  have hhigh' := hbelow (4 * x.significand + 2) 0
  have hnarrow := hbelow (4 * x.significand) 1
  refine ⟨?_, ?_, fun hodd => ?_, fun hpower hexponent => ?_⟩
  all_goals
    generalize den * Nat.pow 2 x.exponent = unit at *
    have hsteps : (4 * x.significand + 2) * step = 4 * x.significand * step + 2 * step :=
      Nat.add_mul _ _ _
    have hunits : (4 * x.significand + 2) * unit = 4 * (x.significand * unit) + 2 * unit := by
      rw [Nat.add_mul, Nat.mul_assoc]
    have hunit : 4 * x.significand * unit = 4 * (x.significand * unit) := Nat.mul_assoc _ _ _
  · split at h <;> omega
  · split at h <;> omega
  · split at h <;> omega
  · rw [if_pos ⟨hpower, hexponent⟩] at h
    omega

/-! ### Natural numbers -/

/-- A natural number of 53 bits with zeros behind them is not rounded. -/
theorem ofNat?_units {bits zeros : Nat} (hbits : bits < significandBound)
    (h : ofNat? (bits * Nat.pow 2 zeros) = some x) :
    x.units = bits * Nat.pow 2 zeros * unitsPerOne := by
  obtain ⟨-, hunits⟩ := ofRatio?_eq_some Nat.one_pos h
  unfold unitsPerOne at hunits ⊢
  generalize 1074 = k at hunits ⊢
  have hscaled : bits * Nat.pow 2 zeros * Nat.pow 2 k = bits * Nat.pow 2 (zeros + k) := by
    rw [pow_two_add, Nat.mul_assoc]
  rw [hscaled] at hunits ⊢
  generalize zeros + k = shift at hunits ⊢
  have hexponent : ratioExponent (bits * Nat.pow 2 shift) 1 ≤ shift := by
    by_cases hzero : ratioExponent (bits * Nat.pow 2 shift) 1 = 0
    · rw [hzero]
      exact Nat.zero_le _
    · refine Nat.le_of_lt_succ (lt_of_pow_two_lt (le_of_ratioExponent _ 1 hzero) ?_)
      rw [Nat.one_mul, Nat.mul_comm]
      exact Nat.mul_lt_mul_of_pos_left hbits (pow_two_pos _)
  generalize ratioExponent (bits * Nat.pow 2 shift) 1 = exponent at hunits hexponent
  obtain ⟨rest, rfl⟩ := Nat.exists_eq_add_of_le' hexponent
  have hsplit : bits * Nat.pow 2 (rest + exponent) = bits * Nat.pow 2 rest * Nat.pow 2 exponent := by
    rw [pow_two_add, Nat.mul_assoc]
  have hpos := pow_two_pos exponent
  have hround : Double.roundDiv (bits * Nat.pow 2 rest * Nat.pow 2 exponent) (Nat.pow 2 exponent) =
      bits * Nat.pow 2 rest :=
    Double.roundDiv_eq hpos (by omega) (by omega) (by omega)
  rw [hunits, Nat.one_mul, hsplit, hround]

/-- **A natural number of 53 bits is a number**, and so it is with some zeros behind them. -/
theorem ofNat?_exact {bits zeros : Nat} (hbits : bits < significandBound) (hzeros : zeros ≤ 22) :
    ∃ x, ofNat? (bits * Nat.pow 2 zeros) = some x ∧
      x.units = bits * Nat.pow 2 zeros * unitsPerOne := by
  have hlarge : significandBound * Nat.pow 2 22 * unitsPerOne ≤
      Nat.pow 2 maxExponent * Nat.pow 2 52 := by
    decide +kernel
  have hle : bits * Nat.pow 2 zeros ≤ significandBound * Nat.pow 2 22 :=
    Nat.mul_le_mul (Nat.le_of_lt hbits) (pow_two_le hzeros)
  obtain ⟨x, hx⟩ := Option.isSome_iff_exists.1
    (ofNat?_isSome (Nat.le_trans (Nat.mul_le_mul_right _ hle) hlarge))
  exact ⟨x, hx, ofNat?_units hbits hx⟩

end AnnotationBridge.Magnitude
