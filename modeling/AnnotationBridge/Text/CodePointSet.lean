/-!
# Sets of code points

A `CodePointSet` lists, in increasing order, the code points at which membership changes: the first
opens a range, the second is the first point after it, and so on.

* `CodePointSet.contains`: membership of a code point.
* `CodePointSet.mem`: membership of a character.
-/

namespace AnnotationBridge.Text

/-- A set of code points, given by the points at which membership changes. -/
structure CodePointSet where
  flips : List Nat

namespace CodePointSet

/-- Whether an odd number of the ascending points `flips` are at most `c`. -/
def flipped (c : Nat) : List Nat → Bool
  | [] => false
  | p :: rest => if c < p then false else !flipped c rest

/-- Without a point nothing is in the set. -/
@[simp] theorem flipped_nil (c : Nat) : flipped c [] = false := rfl

/-- A code point before the first point is not in the set. -/
theorem flipped_cons_of_lt {c p : Nat} (h : c < p) (rest : List Nat) :
    flipped c (p :: rest) = false := by
  simp [flipped, h]

/-- Each point that is passed changes sides. -/
theorem flipped_cons_of_le {c p : Nat} (h : p ≤ c) (rest : List Nat) :
    flipped c (p :: rest) = !flipped c rest := by
  simp [flipped, Nat.not_lt.2 h]

/-- Whether the code point `c` is in the set. -/
def contains (s : CodePointSet) (c : Nat) : Bool :=
  flipped c s.flips

/-- Whether the character `c` is in the set. -/
def mem (s : CodePointSet) (c : Char) : Bool :=
  s.contains c.toNat

/-- A set of one range holds exactly the points of that range. -/
theorem contains_range (lo hi c : Nat) :
    (CodePointSet.mk [lo, hi]).contains c = (decide (lo ≤ c) && decide (c < hi)) := by
  by_cases h₁ : c < lo
  · have : ¬ lo ≤ c := by omega
    simp [contains, flipped, h₁, this]
  · by_cases h₂ : c < hi
    · simp [contains, flipped, h₁, h₂, Nat.not_lt.1 h₁]
    · simp [contains, flipped, h₁, h₂]

end CodePointSet

end AnnotationBridge.Text
