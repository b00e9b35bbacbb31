/-!
# Columns in UTF-16 units

A character takes one unit, or two if its code point is above `0xFFFF`.

* `units`: the units that a text takes.
* `charsWithin`: how many characters of a text start at or before a column, the last one excluded if
  it ends after it.
-/

namespace AnnotationBridge.Text

/-- The UTF-16 units of one character. -/
def charUnits (c : Char) : Nat :=
  if c.toNat < 0x10000 then 1 else 2

/-- Every character takes a unit. -/
theorem charUnits_pos (c : Char) : 0 < charUnits c := by
  unfold charUnits; split <;> omega

/-- The UTF-16 units of a text. -/
def units : List Char → Nat
  | [] => 0
  | c :: cs => charUnits c + units cs

/-- No character takes no units. -/
@[simp] theorem units_nil : units [] = 0 := rfl

/-- The units of a character come to those of the others. -/
@[simp] theorem units_cons (c : Char) (cs : List Char) :
    units (c :: cs) = charUnits c + units cs := rfl

/-- The units of two texts are added. -/
theorem units_append (cs ds : List Char) : units (cs ++ ds) = units cs + units ds := by
  induction cs with
  | nil => simp
  | cons c cs ih => simp [ih, Nat.add_assoc]

/-- The number of whole characters in the first `column` units of a text. A column between the two
units of a character counts the characters before it. -/
def charsWithin (column : Nat) : List Char → Nat
  | [] => 0
  | c :: cs => if charUnits c ≤ column then charsWithin (column - charUnits c) cs + 1 else 0

/-- There is nothing to count in an empty text. -/
@[simp] theorem charsWithin_nil (column : Nat) : charsWithin column [] = 0 := rfl

/-- No more characters are counted than there are. -/
theorem charsWithin_le_length (column : Nat) (cs : List Char) :
    charsWithin column cs ≤ cs.length := by
  induction cs generalizing column with
  | nil => simp
  | cons c cs ih =>
    unfold charsWithin
    split
    · simpa using ih _
    · simp

end AnnotationBridge.Text
