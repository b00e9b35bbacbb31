import AnnotationBridge.Text.Composition.Table

/-!
# Composed text

Text in composed form: the marks of a letter stand in the order of their combining classes, and a
letter and a mark are one character where there is one for both. Characters that no composition
brings about stay as they are.

* `decompose`: a text with its composed characters taken apart.
* `orderMarks`: a text with its marks in order.
* `compose`: the composed form of a text.
-/

namespace AnnotationBridge.Text

/-! ### Classes and pairs -/

/-- The combining class of the code point `n` among the runs. -/
def classAmong (n : Nat) : List Composition.Table.ClassRun → Nat
  | [] => 0
  | run :: rest =>
    if n < run.first then 0
    else if n ≤ run.last then run.combiningClass
    else classAmong n rest

/-- The combining class of a character. It is 0 for all but some marks. -/
def combiningClass (c : Char) : Nat :=
  classAmong c.toNat Composition.Table.classes

/-- The combining class of a virama, which takes the vowel off a letter. -/
def viramaClass : Nat :=
  9

/-! ### Syllables of Hangul -/

namespace Hangul

/-- The first syllable. -/
def base : Nat := 0xAC00

/-- The first leading consonant. -/
def leadBase : Nat := 0x1100

/-- The first vowel. -/
def vowelBase : Nat := 0x1161

/-- The code point before the first trailing consonant. -/
def tailBase : Nat := 0x11A7

/-- The number of leading consonants. -/
def leadCount : Nat := 19

/-- The number of vowels. -/
def vowelCount : Nat := 21

/-- The number of trailing consonants, and one for none. -/
def tailCount : Nat := 28

/-- The number of syllables. -/
def count : Nat :=
  leadCount * vowelCount * tailCount

/-- Takes a syllable apart: a syllable without a trailing consonant and that consonant, or a leading
consonant and a vowel. -/
def split? (n : Nat) : Option (Nat × Nat) :=
  let index := n - base
  if n < base ∨ count ≤ index then none
  else if index % tailCount ≠ 0 then
    some (n - index % tailCount, tailBase + index % tailCount)
  else
    some (leadBase + index / tailCount / vowelCount, vowelBase + index / tailCount % vowelCount)

/-- Puts a syllable together. -/
def join? (first second : Nat) : Option Nat :=
  if leadBase ≤ first ∧ first < leadBase + leadCount ∧ vowelBase ≤ second ∧
      second < vowelBase + vowelCount then
    some (base + ((first - leadBase) * vowelCount + (second - vowelBase)) * tailCount)
  else if base ≤ first ∧ first < base + count ∧ (first - base) % tailCount = 0 ∧
      tailBase < second ∧ second < tailBase + tailCount then
    some (first + (second - tailBase))
  else none

end Hangul

/-- The two characters that a composed character stands for. -/
def splitPair? (c : Char) : Option (Char × Char) :=
  let fromTable := (Composition.Table.composites.find? (·.whole == c.toNat)).map fun p =>
    (p.first, p.second)
  ((Hangul.split? c.toNat).or fromTable).map fun (first, second) =>
    (Char.ofNat first, Char.ofNat second)

/-- The character that stands for two. -/
def joinPair? (first second : Char) : Option Char :=
  let fromTable := (Composition.Table.composites.find? fun p =>
    p.first == first.toNat && p.second == second.toNat).map (·.whole)
  ((Hangul.join? first.toNat second.toNat).or fromTable).map Char.ofNat

/-! ### Composition -/

/-- How often a character can be taken apart. -/
def maxSplits : Nat :=
  4

/-- Takes a character apart, at most `n` times. -/
def decomposeChar : Nat → Char → List Char
  | 0, c => [c]
  | n + 1, c =>
    match splitPair? c with
    | some (first, second) => decomposeChar n first ++ [second]
    | none => [c]

/-- A text with its composed characters taken apart. -/
def decompose (cs : List Char) : List Char :=
  cs.flatMap (decomposeChar maxSplits)

/-- Puts a mark after all marks whose class is not greater. -/
def insertMark (c : Char) : List Char → List Char
  | [] => [c]
  | mark :: marks =>
    if combiningClass c < combiningClass mark then c :: mark :: marks
    else mark :: insertMark c marks

/-- Puts the marks of a text in order. `marks` are the ones that stand before it, in order. -/
def orderMarksAfter (marks : List Char) : List Char → List Char
  | [] => marks
  | c :: cs =>
    if combiningClass c = 0 then marks ++ c :: orderMarksAfter [] cs
    else orderMarksAfter (insertMark c marks) cs

/-- A text with the marks of each letter in order of their classes; those of one class stay in
order. -/
def orderMarks (cs : List Char) : List Char :=
  orderMarksAfter [] cs

/-- Whether the marks since the last letter, last first, let a character through to that letter. -/
def reachesLetter (marks : List Char) (c : Char) : Bool :=
  match marks with
  | [] => true
  | mark :: _ => combiningClass mark < combiningClass c

/-- Joins the characters of a text with the letter before it. `marks` stand between, last first. -/
def joinAfter (letter : Char) (marks : List Char) : List Char → List Char
  | [] => letter :: marks.reverse
  | c :: cs =>
    match if reachesLetter marks c then joinPair? letter c else none with
    | some whole => joinAfter whole marks cs
    | none =>
      if combiningClass c = 0 then letter :: (marks.reverse ++ joinAfter c [] cs)
      else joinAfter letter (c :: marks) cs

/-- Joins letters with their marks. Marks at the start have no letter. -/
def joinMarks : List Char → List Char
  | [] => []
  | c :: cs => if combiningClass c = 0 then joinAfter c [] cs else c :: joinMarks cs

/-- The composed form of a text. -/
def compose (cs : List Char) : List Char :=
  joinMarks (orderMarks (decompose cs))

/-- There is nothing to compose in an empty text. -/
@[simp] theorem compose_nil : compose [] = [] := rfl

end AnnotationBridge.Text
