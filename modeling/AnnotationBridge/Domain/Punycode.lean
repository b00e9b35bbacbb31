/-!
# Punycode

Punycode writes a text in ASCII: first its ASCII characters, then a hyphen if there are any, then
for each other character a number that tells where it goes and by how much its code point exceeds
the one before. A number has digits in base 36, the lowest first, and ends with a digit below a
threshold that depends on its place and on the numbers before.

* `Punycode.number?`: the number at the start of a text. It takes away at least one character
  (`length_number?_lt`).
* `Punycode.decode?`: the text that is written.
-/

namespace AnnotationBridge.Domain.Punycode

/-- The number of digits. -/
def base : Nat := 36

/-- The bound on all numbers. -/
def bound : Nat :=
  UInt32.size

/-- The value of a digit. -/
def digit? (c : Char) : Option Nat :=
  if 'a' ≤ c && c ≤ 'z' then some (c.toNat - 0x61)
  else if 'A' ≤ c && c ≤ 'Z' then some (c.toNat - 0x41)
  else if '0' ≤ c && c ≤ '9' then some (c.toNat - 0x30 + 26)
  else none

/-- The threshold for the digit at place `k`, where places count in steps of `base`. -/
def threshold (k bias : Nat) : Nat :=
  if k ≤ bias then 1 else min (k - bias) 26

/-- Reads the digits of a number from place `k` on, where a digit counts `weight` times: the number,
added to `n`, and the rest. -/
def digits? (bias k weight n : Nat) : List Char → Option (Nat × List Char)
  | [] => none
  | c :: rest => do
    let d ← digit? c
    let n := n + d * weight
    if bound ≤ n then none
    else
      let t := threshold k bias
      if d < t then some (n, rest)
      else
        let weight := weight * (base - t)
        if bound ≤ weight then none
        else digits? bias (k + base) weight n rest

/-- Reads a number, added to `n`. -/
def number? (bias n : Nat) (cs : List Char) : Option (Nat × List Char) :=
  digits? bias base 1 n cs

/-- Reading digits leaves less of the text. -/
theorem length_digits?_lt {bias k weight n : Nat} {cs : List Char} {r : Nat × List Char}
    (h : digits? bias k weight n cs = some r) : r.2.length < cs.length := by
  induction cs generalizing k weight n with
  | nil => simp [digits?] at h
  | cons c rest ih =>
    rw [digits?] at h
    cases hd : digit? c with
    | none => simp [hd] at h
    | some d =>
      simp only [hd, Option.bind_eq_bind, Option.bind_some] at h
      split at h
      · simp at h
      · split at h
        · cases h
          exact Nat.lt_succ_self _
        · split at h
          · simp at h
          · exact Nat.lt_succ_of_lt (ih h)

/-- Reading a number leaves less of the text. -/
theorem length_number?_lt {bias n : Nat} {cs : List Char} {r : Nat × List Char}
    (h : number? bias n cs = some r) : r.2.length < cs.length :=
  length_digits?_lt h

/-- Brings a number below a limit by divisions: what is left, and how much the bias grows. -/
def shrink (delta : Nat) : Nat × Nat :=
  if 455 < delta then
    let (left, bias) := shrink (delta / 35)
    (left, bias + base)
  else (delta, 0)
termination_by delta
decreasing_by exact Nat.div_lt_self (by omega) (by omega)

/-- The bias after a number. `count` is the number of characters so far. -/
def adapt (delta count : Nat) (first : Bool) : Nat :=
  let delta := if first then delta / 700 else delta / 2
  let (left, bias) := shrink (delta + delta / count)
  bias + base * left / (left + 38)

/-- The character of a code point. -/
def char? (n : Nat) : Option Char :=
  if n.isValidChar then some (Char.ofNat n) else none

/-- Inserts the characters that the numbers of a text tell. `place` is where the last one went. -/
def insertAll (codePoint place bias : Nat) (done : List Char) (cs : List Char) :
    Option (List Char) :=
  match cs with
  | [] => some done
  | c :: rest =>
    match _h : number? bias place (c :: rest) with
    | none => none
    | some (n, left) =>
      let count := done.length + 1
      let codePoint := codePoint + n / count
      match char? codePoint with
      | none => none
      | some new =>
        insertAll codePoint (n % count + 1) (adapt (n - place) count (place == 0))
          (done.take (n % count) ++ new :: done.drop (n % count)) left
termination_by cs.length
decreasing_by exact length_number?_lt ‹_›

/-- The parts of a text before and after its last hyphen; without one, or with one at the start, all
of it is the second part. -/
def splitLastHyphen (cs : List Char) : List Char × List Char :=
  let tail := (cs.reverse.takeWhile (· ≠ '-')).reverse
  let head := (cs.reverse.dropWhile (· ≠ '-')).tail.reverse
  if head = [] then ([], cs) else (head, tail)

/-- The text that is written. -/
def decode? (cs : List Char) : Option (List Char) :=
  let (ascii, numbers) := splitLastHyphen cs
  insertAll 0x80 0 72 ascii numbers

end AnnotationBridge.Domain.Punycode
