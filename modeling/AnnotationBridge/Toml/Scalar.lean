import AnnotationBridge.Json.Number
import AnnotationBridge.Toml.Value

/-!
# TOML scalars

The values that are written as one word: truth values, integers, floats, dates and times. A word is
a longest run of the characters that may occur in one of them.

* `integer?`, `isFloat`, `isDateTime`: the three kinds of numbers.
* `Value.ofWord?`: the value of a word.
-/

namespace AnnotationBridge.Toml

open AnnotationBridge.Number (ofDigits spanDigits)

/-! ### Digits -/

/-- The digits of a word in which single low lines may stand between digits. -/
def digitsOf? (isDigit : Char → Bool) : List Char → Option (List Char)
  | [] => none
  | [c] => if isDigit c then some [c] else none
  | c :: '_' :: rest => if isDigit c then (digitsOf? isDigit rest).map (c :: ·) else none
  | c :: rest => if isDigit c then (digitsOf? isDigit rest).map (c :: ·) else none

/-- The value of a digit of any base up to sixteen. -/
def digitValue (c : Char) : Nat :=
  if c.isDigit then c.toNat - 0x30
  else if 'a' ≤ c && c ≤ 'f' then c.toNat - 0x57
  else if 'A' ≤ c && c ≤ 'F' then c.toNat - 0x37
  else 16

/-- The value of a word of digits in a base. -/
def natural? (base : Nat) (word : List Char) : Option Nat :=
  (digitsOf? (digitValue · < base) word).map fun digits =>
    digits.foldl (fun n c => n * base + digitValue c) 0

/-- A sign at the start of a word, and the rest. -/
def splitSign : List Char → Bool × List Char
  | '-' :: rest => (true, rest)
  | '+' :: rest => (false, rest)
  | rest => (false, rest)

/-- The digits of a decimal integer, which has no leading zero. -/
def decimal? (word : List Char) : Option (List Char) :=
  match word with
  | '0' :: _ :: _ => none
  | _ => digitsOf? Char.isDigit word

/-- The value of an integer of 64 bits. -/
def integer? (word : List Char) : Option Int := do
  let n ← match word with
    | '0' :: 'x' :: digits => (natural? 16 digits).map Int.ofNat
    | '0' :: 'o' :: digits => (natural? 8 digits).map Int.ofNat
    | '0' :: 'b' :: digits => (natural? 2 digits).map Int.ofNat
    | _ =>
      let (negative, digits) := splitSign word
      (decimal? digits).map fun ds => if negative then -(ofDigits ds : Int) else ofDigits ds
  if Int64.minValue.toInt ≤ n ∧ n ≤ Int64.maxValue.toInt then some n else none

/-! ### Floats -/

/-- The exponent of a float, if there is one. -/
def exponent? : List Char → Option (Option Int)
  | [] => some none
  | mark :: rest =>
    if mark = 'e' ∨ mark = 'E' then
      let (negative, digits) := splitSign rest
      (digitsOf? Char.isDigit digits).map fun ds =>
        some (if negative then -(ofDigits ds : Int) else ofDigits ds)
    else none

/-- A float taken apart. It has a fraction or an exponent. -/
def float? (word : List Char) : Option Number.Literal := do
  let (negative, unsigned) := splitSign word
  let isWhole (c : Char) : Bool := c.isDigit || c == '_'
  let whole ← decimal? (unsigned.takeWhile isWhole)
  match unsigned.dropWhile isWhole with
  | [] => none
  | '.' :: rest =>
    let fraction ← digitsOf? Char.isDigit (rest.takeWhile isWhole)
    let exponent ← exponent? (rest.dropWhile isWhole)
    some ⟨negative, whole, some fraction, exponent⟩
  | rest => (exponent? rest).map (⟨negative, whole, none, ·⟩)

/-- The least magnitude that a double-precision number cannot round to. -/
def doubleLimit : Nat :=
  Nat.pow 2 1024 - Nat.pow 2 970

/-- Whether the magnitude of a float is too large for a double-precision number. -/
def isTooLarge (l : Number.Literal) : Bool :=
  let fraction := l.fraction.getD []
  let digits := ofDigits (l.whole ++ fraction)
  let scale : Int := l.exponent.getD 0 - fraction.length
  if digits = 0 then false
  else
    let size : Int := (l.whole ++ fraction).length + scale
    if size < 300 then false
    else if scale < 0 then doubleLimit * Nat.pow 10 scale.natAbs ≤ digits
    else if 400 < scale then true
    else doubleLimit ≤ digits * Nat.pow 10 scale.natAbs

/-- Whether a word is a float. A positive one must not be too large. -/
def isFloat (word : List Char) : Bool :=
  let (_, unsigned) := splitSign word
  unsigned == "inf".toList || unsigned == "nan".toList ||
    match float? word with
    | some l => l.negative || !isTooLarge l
    | none => false

/-! ### Dates and times -/

/-- The number of exactly `count` digits at the start of a text, and the rest. -/
def fixedDigits? (count : Nat) (cs : List Char) : Option (Nat × List Char) :=
  let digits := cs.take count
  if digits.length = count ∧ digits.all Char.isDigit then some (ofDigits digits, cs.drop count)
  else none

/-- The days of a month. -/
def daysIn (year month : Nat) : Nat :=
  if month = 2 then
    if year % 4 = 0 ∧ (year % 100 ≠ 0 ∨ year % 400 = 0) then 29 else 28
  else if month = 4 ∨ month = 6 ∨ month = 9 ∨ month = 11 then 30
  else 31

/-- The rest after a character. -/
def after? (c : Char) : List Char → Option (List Char)
  | [] => none
  | d :: rest => if c = d then some rest else none

/-- The rest after a date. -/
def skipDate? (cs : List Char) : Option (List Char) := do
  let (year, cs) ← fixedDigits? 4 cs
  let (month, cs) ← fixedDigits? 2 (← after? '-' cs)
  let (day, cs) ← fixedDigits? 2 (← after? '-' cs)
  if 1 ≤ month ∧ month ≤ 12 ∧ 1 ≤ day ∧ day ≤ daysIn year month then some cs else none

/-- The rest after an hour and a minute. -/
def skipMinutes? (cs : List Char) : Option (List Char) := do
  let (hour, cs) ← fixedDigits? 2 cs
  let (minute, cs) ← fixedDigits? 2 (← after? ':' cs)
  if hour ≤ 23 ∧ minute ≤ 59 then some cs else none

/-- The rest after a time of day. -/
def skipTime? (cs : List Char) : Option (List Char) := do
  let cs ← skipMinutes? cs
  let (second, cs) ← fixedDigits? 2 (← after? ':' cs)
  if 60 < second then none
  else match cs with
    | '.' :: rest =>
      let (fraction, rest) := spanDigits rest
      if fraction = [] then none else some rest
    | _ => some cs

/-- Whether a text is the offset of a time from universal time, or nothing. -/
def isOffset : List Char → Bool
  | [] => true
  | ['Z'] | ['z'] => true
  | sign :: rest => (sign == '+' || sign == '-') && skipMinutes? rest == some []

/-- Whether a word is a date, a time, or both with a mark between them. -/
def isDateTime (word : List Char) : Bool :=
  match skipDate? word with
  | some [] => true
  | some (mark :: rest) =>
    (mark == 'T' || mark == 't' || mark == ' ') && ((skipTime? rest).map isOffset).getD false
  | none => skipTime? word == some []

/-! ### Words -/

/-- The characters of words. -/
def isWordChar (c : Char) : Bool :=
  c.isAlphanum || c == '+' || c == '-' || c == '.' || c == ':' || c == '_'

/-- The value of a word. -/
def Value.ofWord? (word : List Char) : Option Value :=
  if word = "true".toList then some (.boolean true)
  else if word = "false".toList then some (.boolean false)
  else if isDateTime word then some .datetime
  else if isFloat word then some .float
  else (integer? word).map .integer

/-- The word at the start of a text, and the rest. A blank between a date and a digit joins the date
and the time after it. -/
def splitWord (cs : List Char) : List Char × List Char :=
  let word := cs.takeWhile isWordChar
  match skipDate? word, cs.dropWhile isWordChar with
  | some [], ' ' :: d :: rest =>
    if d.isDigit then
      (word ++ ' ' :: (d :: rest).takeWhile isWordChar, (d :: rest).dropWhile isWordChar)
    else (word, ' ' :: d :: rest)
  | _, rest => (word, rest)

end AnnotationBridge.Toml
