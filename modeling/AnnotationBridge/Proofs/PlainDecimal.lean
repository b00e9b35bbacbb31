import AnnotationBridge.Proofs.NearestNumber
import AnnotationBridge.Proofs.RereadNumber

/-!
# Plain decimals

A decimal with few digits is read with one rounding: its digits and its power of ten are numbers,
and so only their quotient has to be rounded. If the shortest decimal of a number is of this kind,
the number is read as itself.

* `Decimal.IsPlain`: at most fifteen digits, and at most twenty-two places behind the point.
* `Number.ofDecimal?_pointed`: a plain decimal is read as the number that it is rounded to.
* `Double.reread_eq_self`: a number with a plain shortest decimal is read as itself.
-/

namespace AnnotationBridge

open Magnitude (decimalShift unitsPerOne)

/-- A decimal of at most fifteen digits, the zeros before the point included, of which at most
twenty-two places are behind the point. -/
structure Decimal.IsPlain (d : Decimal) : Prop where
  digits_lt : d.digits * Nat.pow 10 d.exponent.toNat < Nat.pow 10 15
  exponent_ge : -22 ≤ d.exponent

/-- It can be decided whether a decimal is plain. -/
instance (d : Decimal) : Decidable d.IsPlain :=
  decidable_of_iff (d.digits * Nat.pow 10 d.exponent.toNat < Nat.pow 10 15 ∧ -22 ≤ d.exponent)
    ⟨fun h => ⟨h.1, h.2⟩, fun h => ⟨h.digits_lt, h.exponent_ge⟩⟩

namespace Number

variable {d : Decimal} {x : Magnitude}

/-- A whole number of at most fifteen digits is written out. -/
theorem length_add_exponent_le (hplain : d.IsPlain) (hpos : 0 < d.digits) (he : 0 ≤ d.exponent) :
    (Nat.toDigits 10 d.digits).length + d.exponent ≤ 16 := by
  have hlt := hplain.digits_lt
  have hexponent : d.exponent.toNat < 15 := by
    refine (Nat.pow_lt_pow_iff_right (by decide : 1 < 10)).1 (Nat.lt_of_le_of_lt ?_ hlt)
    exact Nat.le_mul_of_pos_left _ hpos
  have hsplit : Nat.pow 10 15 = Nat.pow 10 (15 - d.exponent.toNat) * Nat.pow 10 d.exponent.toNat := by
    rw [← pow_ten_add, Nat.sub_add_cancel (Nat.le_of_lt hexponent)]
  rw [hsplit] at hlt
  have hdigits := (Nat.length_toDigits_le_iff (by decide) (Nat.sub_pos_of_lt hexponent)).2
    (Nat.lt_of_mul_lt_mul_right hlt)
  omega

/-- A plain decimal is read as a quotient of two numbers. -/
theorem exists_pointed (hplain : d.IsPlain) (hpos : 0 < d.digits) :
    ∃ bits zeros places : Nat, bits < Magnitude.significandBound ∧ zeros ≤ 22 ∧
      0 < places ∧ places ≤ 22 ∧ pointed d = ⟨bits * Nat.pow 2 zeros, -(places : Int)⟩ ∧
      d.shifted * Nat.pow 10 places = bits * Nat.pow 2 zeros * Nat.pow 10 decimalShift := by
  have hlt := hplain.digits_lt
  have hge := hplain.exponent_ge
  unfold Decimal.shifted
  -- A whole number is read with one place, for the zero that is written behind the point.
  obtain he | he := Int.lt_or_le d.exponent 0
  · have hshift : 22 ≤ decimalShift := by decide
    refine ⟨d.digits, 0, (-d.exponent).toNat, ?_, by decide, by omega, by omega, ?_, ?_⟩
    · rw [Int.toNat_of_nonpos (Int.le_of_lt he)] at hlt
      have hbound : Nat.pow 10 15 < Magnitude.significandBound := by decide
      exact Nat.lt_trans (Nat.mul_one d.digits ▸ hlt) hbound
    · rw [pointed, if_neg fun h => Int.not_le.2 he h.1]
      obtain ⟨digits, exponent⟩ := d
      dsimp only at he ⊢
      congr 1
      · exact (Nat.mul_one _).symm
      · omega
    · rw [Nat.mul_assoc, ← pow_ten_add, show Nat.pow 2 0 = 1 from rfl, Nat.mul_one]
      congr 2
      omega
  · refine ⟨d.digits * Nat.pow 10 d.exponent.toNat * 5, 1, 1, ?_, by decide, by decide, by decide,
      ?_, ?_⟩
    · exact Nat.lt_trans (Nat.mul_lt_mul_of_pos_right hlt (by decide)) (by decide)
    · rw [pointed, if_pos ⟨he, length_add_exponent_le hplain hpos he⟩, pow_ten_add]
      exact congrArg (Decimal.mk · _) (by rw [Nat.mul_assoc, Nat.mul_assoc])
    · have hexponent : (d.exponent + decimalShift).toNat = d.exponent.toNat + decimalShift := by omega
      rw [hexponent, pow_ten_add]
      generalize Nat.pow 10 decimalShift = shift
      generalize Nat.pow 10 d.exponent.toNat = power
      rw [show Nat.pow 10 1 = 10 from rfl, show Nat.pow 2 1 = 2 from rfl]
      ring

/-- The powers of ten up to the twenty-second are numbers without rounding. -/
theorem power_exact {places : Nat} (h : places ≤ 22) :
    ∃ p, Magnitude.ofNat? (Nat.pow 10 places) = some p ∧
      p.units = Nat.pow 10 places * unitsPerOne := by
  have hten : Nat.pow 10 places = Nat.pow 5 places * Nat.pow 2 places := Nat.mul_pow 5 2 places
  have hfive : Nat.pow 5 places ≤ Nat.pow 5 22 := Nat.pow_le_pow_right (by decide) h
  rw [hten]
  exact Magnitude.ofNat?_exact (Nat.lt_of_le_of_lt hfive (by decide)) h

/-- **A plain decimal is read as the number that it is rounded to.** -/
theorem ofDecimal?_pointed (hx : x.Valid) (hd : d.Stands x) (hplain : d.IsPlain) :
    ofDecimal? (pointed d) = some x := by
  obtain ⟨bits, zeros, places, hbits, hzeros, hpositive, hplaces, hpointed, hshifted⟩ :=
    exists_pointed hplain hd.pos
  obtain ⟨a, ha, hunits⟩ := Magnitude.ofNat?_exact hbits hzeros
  obtain ⟨p, hp, hpower⟩ := power_exact hplaces
  have hmax : places ≤ maxPower := Nat.le_trans hplaces (by decide)
  have hexact : d.shifted * (4 * unitsPerOne) * p.units =
      4 * (a.units * unitsPerOne) * Nat.pow 10 decimalShift := by
    rw [hunits, hpower]
    generalize unitsPerOne = one
    calc d.shifted * (4 * one) * (Nat.pow 10 places * one)
        = 4 * one * one * (d.shifted * Nat.pow 10 places) := by ring
      _ = 4 * one * one * (bits * Nat.pow 2 zeros * Nat.pow 10 decimalShift) := by rw [hshifted]
      _ = 4 * (bits * Nat.pow 2 zeros * one * one) * Nat.pow 10 decimalShift := by ring
  have hden := power_units_pos hp
  rw [hpointed, ofDecimal?, ha, Option.bind_some, if_neg (by dsimp only; omega),
    show (-(-(places : Int))).toNat = places by omega, dividedByPower?, dif_pos hmax, hp,
    Option.bind_some]
  exact Magnitude.ofRatio?_of_near hx hden (Magnitude.near_of_contains hden hd.within hexact)

end Number

/-- **A number with a plain shortest decimal is read as itself.** -/
theorem Double.reread_eq_self {x : Double} (hx : x.magnitude.Valid)
    (hplain : x.magnitude.shortest.IsPlain) : x.reread = x := by
  obtain ⟨negative, x⟩ := x
  refine Number.reread_eq ?_
  show Number.ofDecimal? (Number.decimalLiteral negative x.shortest).decimal = some x
  by_cases hsig : x.significand = 0
  · have hexponent := hx.leading.resolve_right (by dsimp only; rw [hsig]; decide)
    obtain ⟨significand, exponent⟩ := x
    obtain rfl := hsig
    obtain rfl := hexponent
    cases negative <;> decide +kernel
  · have hstands := Magnitude.stands_shortest hx hsig
    rw [Number.decimal_decimalLiteral negative (Nat.lt_trans hstands.digits_lt (by decide))]
    exact Number.ofDecimal?_pointed hx hstands hplain

end AnnotationBridge
