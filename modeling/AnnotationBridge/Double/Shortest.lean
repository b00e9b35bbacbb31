import AnnotationBridge.Double.Basic

/-!
# Shortest decimals

The decimal with the fewest digits that lies nearer to a double-precision number than to any other;
of several the one nearest to the number.

* `Decimal`: digits times a power of ten.
* `Magnitude.shortest`: the shortest decimal of a number.
-/

namespace AnnotationBridge

/-- The number `digits * 10 ^ exponent`. -/
structure Decimal where
  digits : Nat
  exponent : Int
  deriving DecidableEq, Repr, Inhabited

/-- Takes zeros off the end of the digits, at most as many as `fuel` says. -/
def Decimal.trim : Nat → Decimal → Decimal
  | 0, d => d
  | fuel + 1, d =>
    if d.digits ≠ 0 ∧ d.digits % 10 = 0 then Decimal.trim fuel ⟨d.digits / 10, d.exponent + 1⟩
    else d

namespace Magnitude

/-- The number of decimal places that are looked at. They hold more than seventeen digits of the
least number above zero. -/
def decimalShift : Nat :=
  341

/-- The numbers that are rounded to a number, times `4 * unitsPerOne * 10 ^ decimalShift`: the
least, the number itself and the greatest. -/
structure Span where
  low : Nat
  value : Nat
  high : Nat
  /-- Whether `low` and `high` themselves are rounded to the number. -/
  closed : Bool

/-- The numbers that are rounded to a number. The gap below a power of two is half as wide as the
one above it. -/
def span (x : Magnitude) : Span :=
  let step := Nat.pow 2 x.exponent * Nat.pow 10 decimalShift
  let narrow := x.significand == significandBound / 2 && x.exponent != 0
  let value := 4 * x.significand * step
  { low := value - (if narrow then step else 2 * step)
    value := value
    high := value + 2 * step
    closed := x.significand % 2 == 0 }

/-- Whether a number is in a span. -/
def Span.contains (s : Span) (n : Nat) : Bool :=
  (s.low < n && n < s.high) || (s.closed && (n == s.low || n == s.high))

/-- The multiple of `grid` that is nearest to the value of a span, if it is in the span; of two the
even one. -/
def Span.onGrid? (s : Span) (grid : Nat) : Option Nat :=
  let below := s.value / grid
  let nearest := Double.roundDiv s.value grid
  let other := if nearest = below then below + 1 else below
  [nearest, other].find? fun n => s.contains (n * grid)

/-- The shortest decimal of a number. -/
def shortest (x : Magnitude) : Decimal :=
  let s := x.span
  let unit := 4 * unitsPerOne
  let places := (Nat.toDigits 10 (s.value / unit)).length
  let attempt (size : Nat) : Option Decimal :=
    (s.onGrid? (unit * Nat.pow 10 (places - size))).map fun digits =>
      ⟨digits, ((places - size : Nat) : Int) - decimalShift⟩
  if x.significand = 0 then ⟨0, 0⟩
  else (((List.range 17).findSome? fun n => attempt (n + 1)).getD ⟨0, 0⟩).trim 17

end Magnitude

end AnnotationBridge
