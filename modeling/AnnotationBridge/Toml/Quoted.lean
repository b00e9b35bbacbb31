import AnnotationBridge.Json.Token

/-!
# Quoted text in TOML

Four forms of strings: basic ones with escapes in quotation marks, literal ones in apostrophes, and
either over several lines between three marks.

* `basic?`, `literal?`: the rest of a string of one line after its opening mark.
* `basicLines?`, `literalLines?`: the rest of a string of several lines.
-/

namespace AnnotationBridge.Toml

/-- What a reader answers: a value and the text after it. -/
abbrev Rest (α : Type) := Option (α × List Char)

/-- One more character in front of a text that has been read, if there is such a character. -/
def Rest.cons (c : Option Char) (r : Rest (List Char)) : Rest (List Char) :=
  c.bind fun c => r.map fun (text, rest) => (c :: text, rest)

/-- Characters that may stand in quoted text and comments: no control character but the tab. -/
def isPrintable (c : Char) : Bool :=
  c == '\t' || (0x20 ≤ c.toNat && c.toNat != 0x7F)

/-- The character of a one-letter escape. -/
def shortEscape? : Char → Option Char
  | 'b' => some '\x08'
  | 't' => some '\t'
  | 'n' => some '\n'
  | 'f' => some '\x0c'
  | 'r' => some '\r'
  | '"' => some '"'
  | '\\' => some '\\'
  | _ => none

/-- The character with a code point, if it is one. -/
def charOfCode? (n : Nat) : Option Char :=
  if n.isValidChar then some (Char.ofNat n) else none

/-- The character of a code point in four hexadecimal digits. -/
def shortCode? (a b c d : Char) : Option Char :=
  (Json.hexQuad? a b c d).bind charOfCode?

/-- The character of a code point in eight hexadecimal digits. -/
def longCode? (a b c d e f g h : Char) : Option Char :=
  (Json.hexQuad? a b c d).bind fun high =>
    (Json.hexQuad? e f g h).bind fun low => charOfCode? (high * 0x10000 + low)

/-- The rest of a basic string. -/
def basic? : List Char → Rest (List Char)
  | [] => none
  | '\\' :: 'u' :: a :: b :: c :: d :: rest =>
    Rest.cons (shortCode? a b c d) (basic? rest)
  | '\\' :: 'U' :: a :: b :: c :: d :: e :: f :: g :: h :: rest =>
    Rest.cons (longCode? a b c d e f g h) (basic? rest)
  | '\\' :: e :: rest => Rest.cons (shortEscape? e) (basic? rest)
  | c :: rest =>
    if c = '"' then some ([], rest)
    else if c = '\\' ∨ !isPrintable c then none
    else Rest.cons (some c) (basic? rest)

/-- The rest of a literal string. -/
def literal? : List Char → Rest (List Char)
  | [] => none
  | c :: rest =>
    if c = '\'' then some ([], rest)
    else if isPrintable c then Rest.cons (some c) (literal? rest)
    else none

/-- Where a reader stands in a basic string of several lines. -/
inductive LineState where
  /-- In the text. -/
  | text
  /-- After a backslash: only blanks may come before the end of the line. -/
  | beforeBreak
  /-- After the end of a line that was joined: blanks and ends of lines are passed over. -/
  | afterBreak
  deriving DecidableEq, Repr

/-- The rest of a basic string of several lines. -/
def basicLines? (state : LineState) : List Char → Rest (List Char)
  | [] => none
  | '\r' :: '\n' :: rest =>
    if state = .text then Rest.cons (some '\n') (basicLines? .text rest) else basicLines? .afterBreak rest
  | '"' :: '"' :: '"' :: '"' :: '"' :: rest =>
    if state = .beforeBreak then none else some (['"', '"'], rest)
  | '"' :: '"' :: '"' :: '"' :: rest => if state = .beforeBreak then none else some (['"'], rest)
  | '"' :: '"' :: '"' :: rest => if state = .beforeBreak then none else some ([], rest)
  | '\\' :: 'u' :: a :: b :: c :: d :: rest =>
    if state = .beforeBreak then none
    else Rest.cons (shortCode? a b c d) (basicLines? .text rest)
  | '\\' :: 'U' :: a :: b :: c :: d :: e :: f :: g :: h :: rest =>
    if state = .beforeBreak then none
    else Rest.cons (longCode? a b c d e f g h) (basicLines? .text rest)
  | '\\' :: e :: rest =>
    if state = .beforeBreak then none
    else match shortEscape? e with
      | some ch => Rest.cons (some ch) (basicLines? .text rest)
      | none => basicLines? .beforeBreak (e :: rest)
  | c :: rest =>
    if c = '\n' then
      if state = .text then Rest.cons (some '\n') (basicLines? .text rest) else basicLines? .afterBreak rest
    else if state ≠ .text ∧ (c = ' ' ∨ c = '\t') then basicLines? state rest
    else if state = .beforeBreak ∨ c = '\\' ∨ !isPrintable c then none
    else Rest.cons (some c) (basicLines? .text rest)

/-- The rest of a literal string of several lines. -/
def literalLines? : List Char → Rest (List Char)
  | [] => none
  | '\r' :: '\n' :: rest => Rest.cons (some '\n') (literalLines? rest)
  | '\'' :: '\'' :: '\'' :: '\'' :: '\'' :: rest => some (['\'', '\''], rest)
  | '\'' :: '\'' :: '\'' :: '\'' :: rest => some (['\''], rest)
  | '\'' :: '\'' :: '\'' :: rest => some ([], rest)
  | c :: rest =>
    if c = '\n' ∨ isPrintable c then Rest.cons (some c) (literalLines? rest) else none

/-- A text without the end of a line at its start. -/
def dropBreak : List Char → List Char
  | '\n' :: rest => rest
  | '\r' :: '\n' :: rest => rest
  | rest => rest

/-- The string at the start of a text, of any of the four forms. -/
def quoted? : List Char → Rest (List Char)
  | '"' :: '"' :: '"' :: rest => basicLines? .text (dropBreak rest)
  | '\'' :: '\'' :: '\'' :: rest => literalLines? (dropBreak rest)
  | '"' :: rest => basic? rest
  | '\'' :: rest => literal? rest
  | _ => none

end AnnotationBridge.Toml
