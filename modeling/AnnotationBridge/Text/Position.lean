/-!
# Positions and spans

* `Position`: a line and a column, both counted from zero, the column in characters. Positions are
  ordered as they stand in a text.
* `Position.shown`: the one-based form that is printed.
* `Span`: a range of character offsets, the end excluded.
-/

namespace AnnotationBridge.Text

/-- A line and a column in characters, both counted from zero. -/
structure Position where
  line : Nat
  column : Nat
  deriving DecidableEq, Repr, Inhabited

namespace Position

/-- Whether `p` stands before `q`. -/
def isBefore (p q : Position) : Bool :=
  p.line < q.line || (p.line == q.line && p.column < q.column)

/-- The order of positions in a text: by line, then by column. -/
def order (p q : Position) : Ordering :=
  (compare p.line q.line).then (compare p.column q.column)

/-- Positions are compared in lexicographic order. -/
instance : Ord Position := ⟨order⟩

/-- The later of two positions; the second if they are equal. -/
def latest (p q : Position) : Position :=
  if q.isBefore p then p else q

/-- The position one line further down in the same column. -/
def below (p : Position) : Position :=
  { p with line := p.line + 1 }

/-- The form shown to a reader: line and column counted from one. -/
def shown (p : Position) : String :=
  toString (p.line + 1) ++ ":" ++ toString (p.column + 1)

/-- A position is less than another exactly if it is before it. -/
theorem order_eq_lt_iff (p q : Position) : order p q = .lt ↔ p.isBefore q = true := by
  simp only [order, isBefore, Ordering.then_eq_lt, Nat.compare_eq_lt, Nat.compare_eq_eq,
    Bool.or_eq_true, Bool.and_eq_true, decide_eq_true_eq, beq_iff_eq]

end Position

/-- A range of character offsets, the end excluded. It may be inverted. -/
structure Span where
  start : Nat
  stop : Nat
  deriving DecidableEq, Repr, Inhabited

namespace Span

/-- The range moved `n` characters on. -/
def shift (n : Nat) (s : Span) : Span :=
  ⟨n + s.start, n + s.stop⟩

end Span

end AnnotationBridge.Text
