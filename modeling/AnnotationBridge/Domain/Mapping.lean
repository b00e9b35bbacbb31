import AnnotationBridge.Domain.Mapping.Table
import AnnotationBridge.Text.Case
import AnnotationBridge.Text.Composition

/-!
# Characters of domain names

Before a domain name is looked at, each of its characters is kept, dropped, or replaced by others:
capitals by small letters, and variants such as wide, bold or circled letters by plain ones. Some
characters have no place in a domain name.

* `Mapping.isKept`: the characters that stay as they are.
* `Mapping.ofChar?`: what stands for a character.
* `Mapping.ofText?`: what stands for a text, in composed form.
-/

namespace AnnotationBridge.Domain.Mapping

open Table (Row Shift)

/-- Whether a character stays as it is. -/
def isKept (c : Char) : Bool :=
  Table.keptBasic.mem c || Table.keptBeyond.mem c

/-- What the rows, which ascend, give for a code point. -/
def lookup? {α : Type} (n : Nat) : List (Row α) → Option α
  | [] => none
  | row :: rows =>
    if n < row.first then none
    else row.forms[n - row.first]?.or (lookup? n rows)

/-- What the shifts give for a code point. -/
def shifted? (n : Nat) (shifts : List Shift) : Option Nat :=
  (shifts.find? fun s => s.first ≤ n && n ≤ s.last && (n - s.first) % s.stride == 0).map
    fun s => ((n : Int) + s.offset).toNat

/-- The small form of a code point that has one. -/
def small? (n : Nat) : Option Nat :=
  let small := Text.lowerCodePoint n Text.Case.Table.lowerRuns
  if small = n then none else some small

/-- The one code point that replaces another. -/
def replacement? (n : Nat) : Option Nat :=
  (shifted? n Table.shifts).or
    ((lookup? n Table.ideographs).or ((lookup? n Table.replacements).or (small? n)))

/-- What stands for a character in a domain name. -/
def ofChar? (c : Char) : Option (List Char) :=
  if isKept c then some [c]
  else if Table.dropped.mem c then some []
  else
    ((lookup? c.toNat Table.expansions).or ((replacement? c.toNat).map ([·]))).map
      (·.map Char.ofNat)

/-- What stands for a text in a domain name, in composed form. -/
def ofText? (cs : List Char) : Option (List Char) :=
  (cs.mapM ofChar?).map fun parts => Text.compose parts.flatten

end AnnotationBridge.Domain.Mapping
