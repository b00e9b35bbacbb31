import AnnotationBridge.Domain.Label.Table
import AnnotationBridge.Domain.Mapping
import AnnotationBridge.Domain.Punycode

/-!
# Labels of domain names

A label is the part of a domain name between two full stops. A label in ASCII that starts with
`xn--` stands for the text that the rest of it writes in Punycode.

* `Label.isSound`: what holds for each label by itself.
* `Label.ofMapped?`: the label that a text stands for, with its characters as `Mapping` leaves them.
* `Label.isDirected`: what holds for each label of a domain name with right-to-left letters.
-/

namespace AnnotationBridge.Domain

/-- A label. -/
abbrev Label := List Char

namespace Label

/-- Whether a label is in ASCII. -/
def isAscii (l : Label) : Bool :=
  l.all (·.toNat < 0x80)

/-! ### Joiners -/

/-- Whether the first character that joining does not pass over is among some letters. -/
def meets (letters : Text.CodePointSet) (cs : List Char) : Bool :=
  ((cs.dropWhile Table.transparent.mem).head?.map letters.mem).getD false

/-- Whether a joiner may stand between two texts, of which the first is given last character first:
behind a virama or, if it keeps letters apart, between letters that would join. -/
def allowsJoiner (keepsApart : Bool) (before after : List Char) : Bool :=
  (before.head?.map fun c => Text.combiningClass c == Text.viramaClass).getD false ||
    (keepsApart && meets Table.joiningLeft before && meets Table.joiningRight after)

/-- Whether all joiners in a text are in place. `before` stands before it, last character first. -/
def joinersInPlace (before : List Char) : List Char → Bool
  | [] => true
  | c :: cs =>
    (if c = '\u200C' then allowsJoiner true before cs
      else if c = '\u200D' then allowsJoiner false before cs
      else true) && joinersInPlace (c :: before) cs

/-! ### Single labels -/

/-- The greatest number of characters of a label that is not in ASCII. -/
def maxLength : Nat :=
  1000

/-- The greatest number of characters that Punycode may have in a label. -/
def maxPunycodeLength : Nat :=
  2000

/-- Whether a label is sound: it does not start with a mark, its joiners are in place, and it is not
too long. -/
def isSound (l : Label) : Bool :=
  !(l.head?.map Table.marks.mem).getD false && joinersInPlace [] l &&
    (l.isAscii || l.length ≤ maxLength)

/-- The label that is written in Punycode. It is not in ASCII, and all its characters are ones that
stay as they are, in composed form. -/
def ofPunycode? (cs : List Char) : Option Label := do
  let l ← if cs.length ≤ maxPunycodeLength then Punycode.decode? cs else none
  if !isAscii l && l.all (fun c => Mapping.isKept c && c != '.') && Text.compose l == l then some l
  else none

/-- A text with its Punycode, if it is in that, read. -/
def spelledOut? : List Char → Option Label
  | 'x' :: 'n' :: '-' :: '-' :: rest => if isAscii rest then ofPunycode? rest else none
  | cs => some cs

/-- The label that a text stands for. -/
def ofMapped? (cs : List Char) : Option Label :=
  (spelledOut? cs).filter isSound

/-! ### Direction -/

/-- How a character takes part in the direction of a text. -/
inductive Direction where
  | leftToRight
  | rightToLeft
  | arabicNumber
  | europeanNumber
  | neutral
  | nonspacing
  deriving DecidableEq, Repr

/-- The direction of a character. -/
def Direction.ofChar (c : Char) : Direction :=
  if Table.nonspacing.mem c then .nonspacing
  else if Table.rightToLeft.mem c then .rightToLeft
  else if Table.arabicNumbers.mem c then .arabicNumber
  else if Table.europeanNumbers.mem c then .europeanNumber
  else if Table.neutrals.mem c then .neutral
  else .leftToRight

/-- The directions of a label without the marks at its end. -/
def directions (l : Label) : List Direction :=
  ((l.map Direction.ofChar).reverse.dropWhile (· == .nonspacing)).reverse

/-- Whether a label has right-to-left letters or Arabic digits. -/
def runsRightToLeft (l : Label) : Bool :=
  l.any fun c => Direction.ofChar c == .rightToLeft || Direction.ofChar c == .arabicNumber

/-- Whether a label keeps to one direction: a left-to-right one has no right-to-left letters or
Arabic digits and ends with a letter or digit; a right-to-left one has no left-to-right letters,
ends with a letter or digit, and has digits of one kind. -/
def isDirected (l : Label) : Bool :=
  let ds := l.directions
  match ds.head? with
  | none => true
  | some .leftToRight =>
    ds.all (fun d => d != .rightToLeft && d != .arabicNumber) &&
      (ds.getLast? == some .leftToRight || ds.getLast? == some .europeanNumber)
  | some .rightToLeft =>
    !ds.contains .leftToRight && !(ds.contains .arabicNumber && ds.contains .europeanNumber) &&
      ds.getLast? != some .neutral
  | some _ => false

end Label

end AnnotationBridge.Domain
