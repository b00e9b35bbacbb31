import AnnotationBridge.Double.Basic
import Mathlib.Tactic.Ring
import Mathlib.Tactic.ByContra

/-!
# Rounding of quotients

A quotient is rounded to a number of 53 significant bits, off by at most half of the last one. It is
rounded to a number at all unless it lies beyond the middle between the greatest number and the next
power of two.

* `Double.roundDiv_eq`: the integer that a quotient is rounded to.
* `Magnitude.Valid`: the bounds on what is rounded to. `Magnitude.ofRatio?_eq_some`.
* `Magnitude.ofRatio?_units`: how far a number is from the quotient that it stands for.
* `Magnitude.ofRatio?_isSome`: which quotients are not too large.
* `Magnitude.ofNat?_isSome`, `Magnitude.ofNat?_le`, `Magnitude.le_ofNat?`: natural numbers.
-/

namespace AnnotationBridge.Double

/-- A quotient is rounded to the integer that is off by at most one half, which is even if it is off
by just that. -/
theorem roundDiv_eq {num den q : Nat} (hden : 0 < den) (hlow : 2 * (q * den) ≤ 2 * num + den)
    (hhigh : 2 * num ≤ 2 * (q * den) + den)
    (hodd : q % 2 = 1 → 2 * (q * den) < 2 * num + den ∧ 2 * num < 2 * (q * den) + den) :
    roundDiv num den = q := by
  have exact := Nat.div_add_mod' num den
  have bound := Nat.mod_lt num hden
  unfold roundDiv
  dsimp only
  generalize num / den = k at exact ⊢
  generalize num % den = r at exact bound ⊢
  have hbelow : k ≤ q := by
    by_contra hlt
    have := Nat.mul_le_mul_right den (Nat.lt_of_not_le hlt)
    rw [Nat.succ_mul] at this
    omega
  have habove : q ≤ k + 1 := by
    by_contra hlt
    have := Nat.mul_le_mul_right den (Nat.lt_of_not_le hlt)
    rw [Nat.succ_mul, Nat.succ_mul] at this
    omega
  obtain rfl | rfl : q = k ∨ q = k + 1 := by omega
  · split
    · rfl
    · rw [if_neg (by omega)]
      omega
  · rw [Nat.add_one_mul k den] at hlow hhigh hodd
    rw [if_neg (by omega)]
    split
    · rfl
    · omega

end AnnotationBridge.Double

namespace AnnotationBridge.Magnitude

variable {num den significand exponent n : Nat} {x : Magnitude}

/-! ### Valid numbers -/

/-- A number with a significand of 53 bits and an exponent within the bounds. Only with the least
exponent the first bit may be zero. -/
structure Valid (x : Magnitude) : Prop where
  significand_lt : x.significand < significandBound
  exponent_le : x.exponent ≤ maxExponent
  leading : x.exponent = 0 ∨ Nat.pow 2 52 ≤ x.significand

/-- Powers of two are positive. -/
theorem pow_two_pos (n : Nat) : 0 < Nat.pow 2 n :=
  Nat.pow_pos (by decide)

/-- Powers of two are multiplied by adding the exponents. -/
theorem pow_two_add (m n : Nat) : Nat.pow 2 (m + n) = Nat.pow 2 m * Nat.pow 2 n :=
  Nat.pow_add 2 m n

/-- Powers of two grow with the exponent. -/
theorem pow_two_le {m n : Nat} (h : m ≤ n) : Nat.pow 2 m ≤ Nat.pow 2 n :=
  Nat.pow_le_pow_right (by decide) h

/-- A greater exponent makes at least a factor of two. -/
theorem pow_two_mul_two_le {m n : Nat} (h : m < n) : Nat.pow 2 m * 2 ≤ Nat.pow 2 n :=
  pow_two_le (Nat.succ_le_of_lt h)

/-- There are units in one. -/
theorem unitsPerOne_pos : 0 < unitsPerOne := by
  unfold unitsPerOne
  generalize 1074 = n
  exact pow_two_pos n

/-- A significand has 53 bits. -/
theorem significandBound_eq : significandBound = Nat.pow 2 52 * 2 := rfl

/-- Normalizing changes how a number is put, not which one it is. -/
theorem normalized?_eq_some (hsig : significand ≤ significandBound)
    (hlead : exponent = 0 ∨ Nat.pow 2 52 ≤ significand)
    (h : normalized? significand exponent = some x) :
    x.Valid ∧ x.units = significand * Nat.pow 2 exponent := by
  unfold normalized? at h
  dsimp only at h
  by_cases hfull : significand = significandBound
  · rw [if_pos hfull] at h
    split at h
    · rename_i hle
      cases h
      refine ⟨⟨?_, hle, .inr ?_⟩, ?_⟩
      · show significandBound / 2 < significandBound
        decide
      · show Nat.pow 2 52 ≤ significandBound / 2
        decide
      · rw [units, pow_two_add, hfull, Nat.mul_comm (Nat.pow 2 exponent), ← Nat.mul_assoc]
        rfl
    · cases h
  · rw [if_neg hfull] at h
    split at h
    · rename_i hle
      cases h
      exact ⟨⟨Nat.lt_of_le_of_ne hsig hfull, hle, hlead⟩, rfl⟩
    · cases h

/-! ### The exponent of a quotient -/

/-- The exponent for which a quotient has 53 bits before the point, or 0 if it has fewer. -/
def ratioExponent (scaled den : Nat) : Nat :=
  Nat.log2 (scaled / den) - 52

/-- A quotient is rounded at the exponent that fits it. -/
theorem ofRatio?_eq (num den : Nat) : ofRatio? num den =
    normalized? (Double.roundDiv (num * unitsPerOne)
      (den * Nat.pow 2 (ratioExponent (num * unitsPerOne) den)))
      (ratioExponent (num * unitsPerOne) den) := rfl

/-- At that exponent the significand is below its bound. -/
theorem lt_of_ratioExponent (scaled : Nat) (hden : 0 < den) :
    scaled < den * Nat.pow 2 (ratioExponent scaled den) * significandBound := by
  have hlog : scaled / den < Nat.pow 2 (Nat.log2 (scaled / den) + 1) := Nat.lt_log2_self
  have hpow : Nat.pow 2 (Nat.log2 (scaled / den) + 1) ≤
      Nat.pow 2 (ratioExponent scaled den) * significandBound := by
    show _ ≤ _ * Nat.pow 2 53
    rw [← pow_two_add]
    refine pow_two_le ?_
    unfold ratioExponent
    omega
  rw [Nat.mul_assoc, Nat.mul_comm]
  exact (Nat.div_lt_iff_lt_mul hden).1 (Nat.lt_of_lt_of_le hlog hpow)

/-- It has its leading bit, unless the exponent is the least one. -/
theorem le_of_ratioExponent (scaled den : Nat) (h : ratioExponent scaled den ≠ 0) :
    den * Nat.pow 2 (ratioExponent scaled den) * Nat.pow 2 52 ≤ scaled := by
  have hlog : Nat.log2 (scaled / den) = ratioExponent scaled den + 52 := by
    unfold ratioExponent at h ⊢
    omega
  have hne : scaled / den ≠ 0 := by
    intro hzero
    rw [hzero, Nat.log2_zero] at hlog
    omega
  have hself : Nat.pow 2 (Nat.log2 (scaled / den)) ≤ scaled / den := Nat.log2_self_le hne
  rw [hlog, pow_two_add] at hself
  calc den * Nat.pow 2 (ratioExponent scaled den) * Nat.pow 2 52
      = den * (Nat.pow 2 (ratioExponent scaled den) * Nat.pow 2 52) := Nat.mul_assoc _ _ _
    _ ≤ den * (scaled / den) := Nat.mul_le_mul_left _ hself
    _ ≤ scaled := Nat.mul_div_le _ _

/-! ### Rounding -/

/-- Rounding may reach the bound, but not exceed it. -/
theorem roundDiv_le_significandBound (scaled den : Nat) :
    Double.roundDiv scaled (den * Nat.pow 2 (ratioExponent scaled den)) ≤ significandBound := by
  cases Nat.eq_zero_or_pos den with
  | inl hzero =>
    rw [hzero, Nat.zero_mul, Double.roundDiv, Nat.div_zero]
    split
    · exact Nat.zero_le _
    · split
      · decide
      · decide
  | inr hden =>
    have hlt := lt_of_ratioExponent scaled hden
    have hle := Double.roundDiv_le scaled (den * Nat.pow 2 (ratioExponent scaled den))
    have hpos : 0 < den * Nat.pow 2 (ratioExponent scaled den) := Nat.mul_pos hden (pow_two_pos _)
    generalize den * Nat.pow 2 (ratioExponent scaled den) = step at hlt hle hpos ⊢
    by_contra hgt
    have hmul : 2 * step * (significandBound + 1) ≤ 2 * step * Double.roundDiv scaled step :=
      Nat.mul_le_mul_left _ (by omega)
    have hsplit : 2 * step * (significandBound + 1) = 2 * (step * significandBound) + 2 * step := by
      ring
    omega

/-- Only with the least exponent, a quotient is rounded to less than 53 bits. -/
theorem leading_roundDiv (scaled : Nat) (hden : 0 < den) : ratioExponent scaled den = 0 ∨
    Nat.pow 2 52 ≤ Double.roundDiv scaled (den * Nat.pow 2 (ratioExponent scaled den)) := by
  refine or_iff_not_imp_left.2 fun hexponent => ?_
  have hle := le_of_ratioExponent scaled den hexponent
  have hpos : 0 < den * Nat.pow 2 (ratioExponent scaled den) := Nat.mul_pos hden (pow_two_pos _)
  have hround := Double.le_roundDiv scaled hpos
  generalize den * Nat.pow 2 (ratioExponent scaled den) = step at hle hpos hround ⊢
  by_contra hlt
  have hmul : step * (Double.roundDiv scaled step + 1) ≤ step * Nat.pow 2 52 :=
    Nat.mul_le_mul_left _ (Nat.lt_of_not_le hlt)
  rw [Nat.mul_succ] at hmul
  rw [Nat.mul_assoc] at hround
  omega

/-- What a quotient is rounded to is within the bounds, and has the rounded value. -/
theorem ofRatio?_eq_some (hden : 0 < den) (h : ofRatio? num den = some x) :
    x.Valid ∧ x.units = Double.roundDiv (num * unitsPerOne)
      (den * Nat.pow 2 (ratioExponent (num * unitsPerOne) den)) *
        Nat.pow 2 (ratioExponent (num * unitsPerOne) den) := by
  rw [ofRatio?_eq] at h
  exact normalized?_eq_some (roundDiv_le_significandBound _ _) (leading_roundDiv _ hden) h

/-- **A number is within half a step of the quotient that it stands for**, and steps are small. -/
theorem ofRatio?_units (hden : 0 < den) (h : ofRatio? num den = some x) :
    ∃ step, (step = den ∨ step * Nat.pow 2 52 ≤ num * unitsPerOne) ∧
      2 * (den * x.units) ≤ 2 * (num * unitsPerOne) + step ∧
      2 * (num * unitsPerOne) ≤ 2 * (den * x.units) + step := by
  obtain ⟨-, hunits⟩ := ofRatio?_eq_some hden h
  generalize num * unitsPerOne = scaled at hunits ⊢
  have hupper := Double.roundDiv_le scaled (den * Nat.pow 2 (ratioExponent scaled den))
  have hlower := Double.le_roundDiv scaled
    (Nat.mul_pos hden (pow_two_pos (ratioExponent scaled den)))
  have hvalue : 2 * (den * x.units) = 2 * (den * Nat.pow 2 (ratioExponent scaled den)) *
      Double.roundDiv scaled (den * Nat.pow 2 (ratioExponent scaled den)) := by
    rw [hunits]
    ring
  rw [hvalue]
  refine ⟨den * Nat.pow 2 (ratioExponent scaled den), ?_, hupper, hlower⟩
  by_cases hzero : ratioExponent scaled den = 0
  · exact .inl (by rw [hzero]; exact Nat.mul_one den)
  · exact .inr (le_of_ratioExponent scaled den hzero)

/-- **A quotient is rounded to a number** if it lies below the middle between the greatest number
and the next power of two. -/
theorem ofRatio?_isSome (h : 2 * (num * unitsPerOne) + den * Nat.pow 2 maxExponent <
    2 * (den * Nat.pow 2 maxExponent * significandBound)) : (ofRatio? num den).isSome = true := by
  rw [ofRatio?_eq]
  generalize num * unitsPerOne = scaled at h ⊢
  have hsome {significand exponent : Nat} (hexponent : exponent ≤ maxExponent)
      (hsig : exponent = maxExponent → significand < significandBound) :
      (normalized? significand exponent).isSome = true := by
    unfold normalized?
    dsimp only
    by_cases hfull : significand = significandBound
    · rw [if_pos hfull]
      have hne : exponent ≠ maxExponent := fun heq => Nat.ne_of_lt (hsig heq) hfull
      rw [if_pos (show exponent + 1 ≤ maxExponent by omega)]
      rfl
    · rw [if_neg hfull, if_pos hexponent]
      rfl
  have hexponent : ratioExponent scaled den ≤ maxExponent := by
    by_contra hgt
    have hle := le_of_ratioExponent scaled den (by omega)
    have hnext := pow_two_mul_two_le (Nat.lt_of_not_le hgt)
    rw [significandBound_eq] at h
    generalize Nat.pow 2 maxExponent = top at h hnext
    generalize Nat.pow 2 52 = half at h hle
    have hscaled : den * top * (half * 2) ≤ scaled := by
      calc den * top * (half * 2) = den * (top * 2) * half := by ring
        _ ≤ den * Nat.pow 2 (ratioExponent scaled den) * half :=
          Nat.mul_le_mul_right _ (Nat.mul_le_mul_left _ hnext)
        _ ≤ scaled := hle
    omega
  refine hsome hexponent fun heq => ?_
  rw [heq]
  have hle := Double.roundDiv_le scaled (den * Nat.pow 2 maxExponent)
  generalize den * Nat.pow 2 maxExponent = step at h hle ⊢
  have hlt : 2 * step * Double.roundDiv scaled step < 2 * step * significandBound := by
    rw [Nat.mul_assoc 2 step significandBound]
    omega
  exact Nat.lt_of_mul_lt_mul_left hlt

/-! ### Natural numbers -/

/-- A natural number up to the greatest power of two in range is not too large. -/
theorem ofNat?_isSome (h : n * unitsPerOne ≤ Nat.pow 2 maxExponent * Nat.pow 2 52) :
    (ofNat? n).isSome = true := by
  refine ofRatio?_isSome ?_
  rw [significandBound_eq, Nat.one_mul]
  have hpos := pow_two_pos maxExponent
  generalize Nat.pow 2 maxExponent = top at h hpos ⊢
  have hhalf : top * 2 ≤ top * Nat.pow 2 52 := Nat.mul_le_mul_left _ (by decide)
  rw [← Nat.mul_assoc top]
  generalize top * Nat.pow 2 52 = half at h hhalf ⊢
  omega

/-- Rounding makes a natural number greater by a small part of it at most. -/
theorem ofNat?_le (h : ofNat? n = some x) :
    x.units * significandBound ≤ n * unitsPerOne * (significandBound + 1) := by
  obtain ⟨step, hstep, hupper, -⟩ := ofRatio?_units Nat.one_pos h
  rw [significandBound_eq]
  generalize n * unitsPerOne = exact at hstep hupper ⊢
  generalize Nat.pow 2 52 = half at hstep ⊢
  obtain rfl | hstep := hstep
  · calc x.units * (half * 2) ≤ exact * (half * 2) := Nat.mul_le_mul_right _ (by omega)
      _ ≤ exact * (half * 2 + 1) := Nat.mul_le_mul_left _ (Nat.le_succ _)
  · calc x.units * (half * 2) = 2 * (1 * x.units) * half := by ring
      _ ≤ (2 * exact + step) * half := Nat.mul_le_mul_right _ hupper
      _ = exact * (half * 2) + step * half := by ring
      _ ≤ exact * (half * 2) + exact := Nat.add_le_add_left hstep _
      _ = exact * (half * 2 + 1) := by ring

/-- A step that leaves room for a significand is no larger than the whole. -/
theorem le_of_step {step : Nat} (h : step * Nat.pow 2 52 ≤ n) : step ≤ n :=
  Nat.le_trans (Nat.le_mul_of_pos_right step (pow_two_pos 52)) h

/-- Rounding never halves a natural number. -/
theorem le_ofNat? (h : ofNat? n = some x) : n * unitsPerOne ≤ 2 * x.units := by
  obtain ⟨step, hstep, -, hlower⟩ := ofRatio?_units Nat.one_pos h
  generalize n * unitsPerOne = exact at hstep hlower ⊢
  obtain rfl | hstep := hstep
  · omega
  · have := le_of_step hstep
    omega

/-! ### Quotients of numbers -/

variable {y r : Magnitude}

/-- A quotient is not too large if the divisor is at least about one. -/
theorem div?_isSome (hx : x.units ≤ unitsPerOne * Nat.pow 2 66) (hy : unitsPerOne ≤ 2 * y.units) :
    (x.div? y).isSome = true := by
  refine ofRatio?_isSome ?_
  have hone := unitsPerOne_pos
  have htop : unitsPerOne * Nat.pow 2 67 ≤ Nat.pow 2 maxExponent := by decide +kernel
  have hpos := pow_two_pos maxExponent
  have hpower : Nat.pow 2 66 * 2 = Nat.pow 2 67 := by decide
  generalize Nat.pow 2 maxExponent = top at htop hpos ⊢
  have hscaled : x.units * unitsPerOne ≤ y.units * top := by
    calc x.units * unitsPerOne ≤ unitsPerOne * Nat.pow 2 66 * (2 * y.units) :=
          Nat.mul_le_mul hx hy
      _ = y.units * (unitsPerOne * (Nat.pow 2 66 * 2)) := by
        generalize unitsPerOne = one
        generalize Nat.pow 2 66 = power
        ring
      _ ≤ y.units * top := by
        rw [hpower]
        exact Nat.mul_le_mul_left _ htop
  have hprod : 0 < y.units * top := Nat.mul_pos (by omega) hpos
  generalize x.units * unitsPerOne = scaled at hscaled
  generalize y.units * top = bound at hscaled hprod ⊢
  have hlarge : bound * 2 ≤ bound * significandBound := Nat.mul_le_mul_left _ (by decide)
  omega

/-- Division by a number that is greater than four makes no number greater. -/
theorem div?_le (hy : 4 * unitsPerOne ≤ y.units) (h : x.div? y = some r) : r.units ≤ x.units := by
  have hone := unitsPerOne_pos
  obtain ⟨step, hstep, hupper, -⟩ := ofRatio?_units (by omega : 0 < y.units) h
  have hstep : step ≤ y.units + x.units * unitsPerOne := by
    obtain rfl | hstep := hstep
    · omega
    · have := le_of_step hstep
      omega
  have hscaled : 4 * (x.units * unitsPerOne) ≤ y.units * x.units := by
    calc 4 * (x.units * unitsPerOne) = 4 * unitsPerOne * x.units := by
          rw [Nat.mul_comm x.units, Nat.mul_assoc]
      _ ≤ y.units * x.units := Nat.mul_le_mul_right _ hy
  by_contra hlt
  have hnext : y.units * (x.units + 1) ≤ y.units * r.units := Nat.mul_le_mul_left _ (by omega)
  rw [Nat.mul_succ] at hnext
  generalize x.units * unitsPerOne = scaled at hupper hstep hscaled
  omega

end AnnotationBridge.Magnitude
