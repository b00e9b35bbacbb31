/-!
# Double-precision numbers

A `Double` is a finite double-precision number: a sign and a `Magnitude`, which is a significand
below `2^53` times a power of two. Arithmetic rounds the exact result to the nearest number, and a
result in the middle between two goes to the one with the even significand.

* `Double.roundDiv`: a quotient rounded to an integer, off by at most one half (`roundDiv_le`,
  `le_roundDiv`).
* `Magnitude.ofRatio?`: the number nearest to a quotient, unless that is too large.
* `Magnitude.mul?`, `Magnitude.div?`: arithmetic.
-/

namespace AnnotationBridge.Double

/-- The quotient of two numbers rounded to the nearest integer; a half goes to the even one. -/
def roundDiv (num den : Nat) : Nat :=
  let q := num / den
  let r := num % den
  if 2 * r < den then q
  else if den < 2 * r then q + 1
  else q + q % 2

/-- Rounding goes up by at most one half. -/
theorem roundDiv_le (num den : Nat) : 2 * den * roundDiv num den ≤ 2 * num + den := by
  have exact := Nat.div_add_mod num den
  have parity : num / den % 2 = 0 ∨ num / den % 2 = 1 := by omega
  unfold roundDiv
  simp only
  split
  · rw [Nat.mul_assoc]; omega
  · split
    · rw [Nat.mul_add, Nat.mul_assoc]; omega
    · rcases parity with h | h <;> rw [h, Nat.mul_add, Nat.mul_assoc] <;> omega

/-- Rounding goes down by at most one half. -/
theorem le_roundDiv (num : Nat) {den : Nat} (h : 0 < den) :
    2 * num ≤ 2 * den * roundDiv num den + den := by
  have exact := Nat.div_add_mod num den
  have bound := Nat.mod_lt num h
  have parity : num / den % 2 = 0 ∨ num / den % 2 = 1 := by omega
  unfold roundDiv
  simp only
  split
  · rw [Nat.mul_assoc]; omega
  · split
    · rw [Nat.mul_add, Nat.mul_assoc]; omega
    · rcases parity with h | h <;> rw [h, Nat.mul_add, Nat.mul_assoc] <;> omega

end AnnotationBridge.Double

namespace AnnotationBridge

/-- A finite non-negative double-precision number: `significand * 2 ^ (exponent - 1074)`. A number
whose exponent is not 0 has a significand of at least `2^52`. -/
structure Magnitude where
  significand : Nat
  exponent : Nat
  deriving DecidableEq, Repr, Inhabited

namespace Magnitude

/-- The number of units in one; the unit is the least number above zero. -/
def unitsPerOne : Nat :=
  Nat.pow 2 1074

/-- The bound on significands. -/
def significandBound : Nat :=
  Nat.pow 2 53

/-- The largest exponent. -/
def maxExponent : Nat :=
  2045

/-- A number in units. -/
def units (x : Magnitude) : Nat :=
  x.significand * Nat.pow 2 x.exponent

/-- The number with a significand of at most `significandBound`; none if it is too large. -/
def normalized? (significand exponent : Nat) : Option Magnitude :=
  let x : Magnitude :=
    if significand = significandBound then ⟨significandBound / 2, exponent + 1⟩
    else ⟨significand, exponent⟩
  if x.exponent ≤ maxExponent then some x else none

/-- The number nearest to a quotient; none if it is too large. -/
def ofRatio? (num den : Nat) : Option Magnitude :=
  let scaled := num * unitsPerOne
  let exponent := Nat.log2 (scaled / den) - 52
  normalized? (Double.roundDiv scaled (den * Nat.pow 2 exponent)) exponent

/-- The number nearest to a natural number; none if it is too large. -/
def ofNat? (n : Nat) : Option Magnitude :=
  ofRatio? n 1

/-- The product of two numbers; none if it is too large. -/
def mul? (x y : Magnitude) : Option Magnitude :=
  ofRatio? (x.units * y.units) (unitsPerOne * unitsPerOne)

/-- The quotient of two numbers; none if it is too large. -/
def div? (x y : Magnitude) : Option Magnitude :=
  ofRatio? x.units y.units

end Magnitude

/-- A finite double-precision number. There is a zero of either sign. -/
structure Double where
  negative : Bool
  magnitude : Magnitude
  deriving DecidableEq, Repr, Inhabited

end AnnotationBridge
