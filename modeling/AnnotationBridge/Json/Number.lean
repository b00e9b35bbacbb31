import AnnotationBridge.Double.Shortest
import AnnotationBridge.Json.Basic

/-!
# Numbers in JSON text

* `Number.ofLiteral?`: the number that a literal stands for.
* `Number.text`: the text of a number.
-/

namespace AnnotationBridge.Number

/-! ### Reading -/

/-- A literal taken apart: sign, digits before the point, digits after it, and exponent. -/
structure Literal where
  negative : Bool
  whole : List Char
  fraction : Option (List Char)
  exponent : Option Int
  deriving DecidableEq, Repr

/-- The value of decimal digits. -/
def ofDigits (digits : List Char) : Nat :=
  digits.foldl (fun n c => n * 10 + (c.toNat - 0x30)) 0

/-- The digits at the start of a text, and the rest. -/
def spanDigits (cs : List Char) : List Char × List Char :=
  (cs.takeWhile Char.isDigit, cs.dropWhile Char.isDigit)

/-- The exponent that makes up a whole text, if there is one. -/
def exponent? : List Char → Option (Option Int)
  | [] => some none
  | mark :: rest =>
    if mark = 'e' ∨ mark = 'E' then
      let (negative, digits) := match rest with
        | '-' :: digits => (true, digits)
        | '+' :: digits => (false, digits)
        | digits => (false, digits)
      if digits ≠ [] ∧ digits.all Char.isDigit then
        let n : Int := ofDigits digits
        some (some (if negative then -n else n))
      else none
    else none

/-- Takes a literal apart. The digits before the point have no leading zero. -/
def Literal.ofChars? (cs : List Char) : Option Literal := do
  let (negative, unsigned) := match cs with
    | '-' :: rest => (true, rest)
    | rest => (false, rest)
  let (whole, rest) := spanDigits unsigned
  if whole = [] ∨ (whole.head? = some '0' ∧ whole ≠ ['0']) then none
  else match rest with
    | '.' :: decimals =>
      let (fraction, rest) := spanDigits decimals
      if fraction = [] then none
      else (exponent? rest).map (⟨negative, whole, some fraction, ·⟩)
    | _ => (exponent? rest).map (⟨negative, whole, none, ·⟩)

/-- The bound on the significand that the digits of a literal make up. -/
def significandBound : Nat :=
  UInt64.size

/-- Appends digits to a number as long as it stays below the bound: the number, and how many digits
were left over. -/
def appendDigits (n : Nat) : List Char → Nat × Nat
  | [] => (n, 0)
  | c :: cs =>
    let next := n * 10 + (c.toNat - 0x30)
    if next < significandBound then appendDigits next cs else (n, (c :: cs).length)

/-- The decimal that counts for a literal: as many digits as fit are kept. Further digits before the
point only make it greater, and further ones behind the point do not count. -/
def Literal.decimal (l : Literal) : Decimal :=
  let fraction := l.fraction.getD []
  let (whole, tooMany) := appendDigits 0 l.whole
  let (digits, unread) := appendDigits whole fraction
  ⟨digits, l.exponent.getD 0 + tooMany - (fraction.length - unread : Nat)⟩

/-- The greatest power of ten that is a double-precision number has this exponent. -/
def maxPower : Nat :=
  308

/-- A number times `10 ^ n`; none if that is too large. -/
def timesPower? (x : Magnitude) (n : Nat) : Option Magnitude :=
  if n ≤ maxPower then (Magnitude.ofNat? (Nat.pow 10 n)).bind x.mul?
  else if x.significand = 0 then some x
  else none

/-- A number divided by `10 ^ n`, in steps of at most `10 ^ maxPower`. -/
def dividedByPower? (x : Magnitude) (n : Nat) : Option Magnitude :=
  if _h : n ≤ maxPower then (Magnitude.ofNat? (Nat.pow 10 n)).bind x.div?
  else if x.significand = 0 then some x
  else do
    let power ← Magnitude.ofNat? (Nat.pow 10 maxPower)
    dividedByPower? (← x.div? power) (n - maxPower)
termination_by n
decreasing_by
  have : maxPower = 308 := rfl
  omega

/-- The number that stands for a decimal: its digits are rounded, and then multiplied or divided by
its power of ten. This may be off by a unit in the last place. None if it is too large. -/
def ofDecimal? (d : Decimal) : Option Magnitude :=
  (Magnitude.ofNat? d.digits).bind fun x =>
    if 0 ≤ d.exponent then timesPower? x d.exponent.toNat else dividedByPower? x (-d.exponent).toNat

/-- The number that a literal stands for. The outer `none` tells that it is no literal, the inner
one that its magnitude is too large. -/
def ofLiteral? (cs : List Char) : Option (Option Number) := do
  let l ← Literal.ofChars? cs
  let n : Int := if l.negative then -(ofDigits l.whole : Int) else ofDigits l.whole
  if l.fraction.isNone ∧ l.exponent.isNone ∧ Int64.minValue.toInt ≤ n ∧ n < UInt64.size ∧
      cs ≠ ['-', '0'] then
    some (some (.integer n))
  else some ((ofDecimal? l.decimal).map fun x => .real ⟨l.negative, x⟩)

/-! ### Writing -/

/-- Digits with a point after the first `places` of them. -/
def withPoint (places : Nat) (digits : List Char) : List Char :=
  digits.take places ++ '.' :: digits.drop places

/-- The text of a decimal. It is written with a power of ten if its first digit stands more than
sixteen places before the point or more than five behind it. -/
def decimalText (d : Decimal) : List Char :=
  let digits := Nat.toDigits 10 d.digits
  let zeros (n : Nat) : List Char := List.replicate n '0'
  let places : Int := digits.length + d.exponent
  if 0 ≤ d.exponent ∧ places ≤ 16 then
    digits ++ zeros d.exponent.toNat ++ ['.', '0']
  else if 0 < places ∧ places ≤ 16 then withPoint places.toNat digits
  else if -5 < places ∧ places ≤ 0 then '0' :: '.' :: zeros (-places).toNat ++ digits
  else
    (if digits.length = 1 then digits else withPoint 1 digits) ++
      'e' :: (toString (places - 1)).toList

/-- The text of a number. -/
def text : Number → List Char
  | .integer n => (toString n).toList
  | .real x => (if x.negative then ['-'] else []) ++ decimalText x.magnitude.shortest

end AnnotationBridge.Number
