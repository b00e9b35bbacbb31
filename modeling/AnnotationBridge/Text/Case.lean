import AnnotationBridge.Text.Case.Table

/-!
# Lower case

`lowercase` maps a text to lower case by the full mapping of Unicode: each capital to its small
form, a capital sigma at the end of a word to the final form, and a dotted capital I to two
characters.

* `lowercase`: the lower-case text.
* `lowerChar`: one character by itself.
-/

namespace AnnotationBridge.Text

/-- The small form of the code point `n` among the runs. -/
def lowerCodePoint (n : Nat) : List Case.Table.Run → Nat
  | [] => n
  | run :: rest =>
    if n < run.first then n
    else if n ≤ run.last ∧ (n - run.first) % run.stride = 0 then (n + run.offset).toNat
    else lowerCodePoint n rest

/-- The small form of a character that is not a sigma. -/
def lowerChar (c : Char) : List Char :=
  if c = 'İ' then ['i', '\u0307']
  else if c.toNat < 0x80 then [c.toLower]
  else [Char.ofNat (lowerCodePoint c.toNat Case.Table.lowerRuns)]

/-- Whether the first character that case does not ignore has case. -/
def meetsCased (cs : List Char) : Bool :=
  match cs.dropWhile Case.Table.caseIgnorable.mem with
  | [] => false
  | c :: _ => Case.Table.cased.mem c

/-- The lower-case text of `cs` after the characters `before`, last first. -/
def lowercaseAfter (before : List Char) : List Char → List Char
  | [] => []
  | c :: cs =>
    (if c = 'Σ' then [if meetsCased before && !meetsCased cs then 'ς' else 'σ'] else lowerChar c)
      ++ lowercaseAfter (c :: before) cs

/-- The lower-case text. -/
def lowercase (cs : List Char) : List Char :=
  lowercaseAfter [] cs

/-- An empty text has no letter to change. -/
@[simp] theorem lowercase_nil : lowercase [] = [] := rfl

end AnnotationBridge.Text
