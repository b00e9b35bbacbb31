import AnnotationBridge.Text.Word.Table

/-!
# Word-break classes

Each character belongs to one `WordClass`, the class that the word-boundary rules look at.

* `WordClass.ofChar`: the class of a character.
* `WordClass.isTransparent`: the classes that attach to whatever stands before them.
* `isPictograph`: whether a character is an emoji or may become one.
-/

namespace AnnotationBridge.Text

/-- The classes of characters that the word-boundary rules tell apart. -/
inductive WordClass where
  | carriageReturn
  | lineFeed
  | newline
  | joiner
  | extend
  | format
  | regional
  | katakana
  | hebrew
  | letter
  | numeric
  | connector
  | singleQuote
  | doubleQuote
  | midLetter
  | midNumber
  | midBoth
  | space
  | other
  deriving DecidableEq, Repr

namespace WordClass

/-- The class of an ASCII character. -/
def ofAscii (c : Char) : WordClass :=
  if c.isAlpha then .letter
  else if c.isDigit then .numeric
  else match c with
    | '\r' => .carriageReturn
    | '\n' => .lineFeed
    | '\x0b' | '\x0c' => .newline
    | ' ' => .space
    | '_' => .connector
    | '\'' => .singleQuote
    | '"' => .doubleQuote
    | ':' => .midLetter
    | '.' => .midBoth
    | ',' | ';' => .midNumber
    | _ => .other

/-- The class of a code point beyond ASCII. -/
def ofWide (n : Nat) : WordClass :=
  if n = 0x85 || n = 0x2028 || n = 0x2029 then .newline
  else if n = 0x200D then .joiner
  else if n = 0x1680 || (0x2000 ≤ n && n ≤ 0x2006) || (0x2008 ≤ n && n ≤ 0x200A) || n = 0x205F
      || n = 0x3000 then .space
  else if n = 0x202F || n = 0x203F || n = 0x2040 || n = 0x2054 || n = 0xFE33 || n = 0xFE34
      || (0xFE4D ≤ n && n ≤ 0xFE4F) || n = 0xFF3F then .connector
  else if n = 0xB7 || n = 0x387 || n = 0x55F || n = 0x5F4 || n = 0x2027 || n = 0xFE13 || n = 0xFE55
      || n = 0xFF1A then .midLetter
  else if n = 0x2018 || n = 0x2019 || n = 0x2024 || n = 0xFE52 || n = 0xFF07 || n = 0xFF0E then
    .midBoth
  else if n = 0x37E || n = 0x589 || n = 0x60C || n = 0x60D || n = 0x66C || n = 0x7F8 || n = 0x2044
      || n = 0xFE50 || n = 0xFE54 || n = 0xFF0C || n = 0xFF1B then .midNumber
  else if 0x1F1E6 ≤ n && n ≤ 0x1F1FF then .regional
  else if Word.Table.letters.contains n then .letter
  else if Word.Table.extenders.contains n then .extend
  else if Word.Table.numerics.contains n then .numeric
  else if Word.Table.formats.contains n then .format
  else if Word.Table.hebrewLetters.contains n then .hebrew
  else if Word.Table.katakana.contains n then .katakana
  else .other

/-- The class of a character. -/
def ofChar (c : Char) : WordClass :=
  if c.toNat < 0x80 then ofAscii c else ofWide c.toNat

/-- Marks, format controls and joiners attach to the character before them. -/
def isTransparent : WordClass → Bool
  | .extend | .format | .joiner => true
  | _ => false

end WordClass

/-- Whether a character is an emoji or is reserved to become one. -/
def isPictograph (c : Char) : Bool :=
  Word.Table.pictographs.mem c

end AnnotationBridge.Text
