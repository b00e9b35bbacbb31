import AnnotationBridge.Json.Number

/-!
# Tokens of JSON text

* `Token.ofText?`: the tokens of a text; blanks between them are dropped.
* `stringBody`: the rest of a string after its opening quotation mark.
-/

namespace AnnotationBridge.Json

/-- A token of JSON text. A number or a string without a value is one that may only be passed
over. -/
inductive Token where
  | openArray
  | closeArray
  | openObject
  | closeObject
  | comma
  | colon
  | null
  | bool (value : Bool)
  | number (value : Option Number)
  | string (value : Option String)
  deriving DecidableEq, Repr

/-! ### Strings -/

/-- The value of four hexadecimal digits. -/
def hexQuad? (a b c d : Char) : Option Nat := do
  let digit (x : Char) : Option Nat :=
    if '0' ≤ x && x ≤ '9' then some (x.toNat - 0x30)
    else if 'a' ≤ x && x ≤ 'f' then some (x.toNat - 0x57)
    else if 'A' ≤ x && x ≤ 'F' then some (x.toNat - 0x37)
    else none
  some (((← digit a) * 16 + (← digit b)) * 256 + ((← digit c) * 16 + (← digit d)))

/-- The character of a one-letter escape. -/
def shortEscape? : Char → Option Char
  | '"' => some '"'
  | '\\' => some '\\'
  | '/' => some '/'
  | 'b' => some '\x08'
  | 'f' => some '\x0c'
  | 'n' => some '\n'
  | 'r' => some '\r'
  | 't' => some '\t'
  | _ => none

/-- Whether a UTF-16 unit is the first half of a pair. -/
def isHighHalf (u : Nat) : Bool :=
  0xD800 ≤ u && u < 0xDC00

/-- Whether a UTF-16 unit is the second half of a pair. -/
def isLowHalf (u : Nat) : Bool :=
  0xDC00 ≤ u && u < 0xE000

/-- What is known of a string and the text after it: the characters, unless it has no value. -/
abbrev StringRest := Option (Option (List Char) × List Char)

/-- The string with one more character in front, or without a value if there is none. -/
def StringRest.cons (c : Option Char) (r : StringRest) : StringRest :=
  r.map fun (text, rest) => (c.bind fun c => text.map (c :: ·), rest)

/-- The rest of a string after its opening mark, and the text after its closing mark. `high` is the
first half of a pair that has just been read. -/
def stringBody (high : Option Nat) : List Char → StringRest
  | [] => none
  | '\\' :: 'u' :: a :: b :: c :: d :: rest =>
    match hexQuad? a b c d, high with
    | none, _ => none
    | some u, none =>
      if isHighHalf u then stringBody (some u) rest
      else StringRest.cons (if isLowHalf u then none else some (Char.ofNat u)) (stringBody none rest)
    | some u, some h =>
      if isLowHalf u then
        StringRest.cons (some (Char.ofNat (0x10000 + (h - 0xD800) * 0x400 + (u - 0xDC00))))
          (stringBody none rest)
      else StringRest.cons none (stringBody none rest)
  | '\\' :: e :: rest =>
    match shortEscape? e with
    | none => none
    | some c => StringRest.cons (if high.isSome then none else some c) (stringBody none rest)
  | c :: rest =>
    if c = '"' then some (if high.isSome then none else some [], rest)
    else if c = '\\' ∨ c.toNat < 0x20 then none
    else StringRest.cons (if high.isSome then none else some c) (stringBody none rest)

/-- A character more does not change what is left of the text. -/
theorem StringRest.rest_of_cons {c : Option Char} {r : StringRest} {text : Option (List Char)}
    {rest : List Char} (h : StringRest.cons c r = some (text, rest)) :
    ∃ text', r = some (text', rest) := by
  unfold StringRest.cons at h
  cases r with
  | none => cases h
  | some p =>
    simp only [Option.map_some, Option.some.injEq, Prod.mk.injEq] at h
    exact ⟨p.1, by rw [← h.2]⟩

/-- A string ends after its start. -/
theorem stringBody_length_lt {high : Option Nat} {cs : List Char} {text : Option (List Char)}
    {rest : List Char} (h : stringBody high cs = some (text, rest)) : rest.length < cs.length := by
  fun_induction stringBody high cs generalizing text rest with
  | case1 => cases h
  | case2 => cases h
  | case3 _ _ _ _ _ _ _ _ ih => have := ih h; simp; omega
  | case4 _ _ _ _ _ _ _ _ ih =>
    obtain ⟨_, h⟩ := StringRest.rest_of_cons h
    have := ih h; simp; omega
  | case5 _ _ _ _ _ _ _ _ _ ih =>
    obtain ⟨_, h⟩ := StringRest.rest_of_cons h
    have := ih h; simp; omega
  | case6 _ _ _ _ _ _ _ _ _ ih =>
    obtain ⟨_, h⟩ := StringRest.rest_of_cons h
    have := ih h; simp; omega
  | case7 => cases h
  | case8 _ _ _ _ _ _ ih =>
    obtain ⟨_, h⟩ := StringRest.rest_of_cons h
    have := ih h; simp; omega
  | case9 => cases h; simp
  | case10 => cases h
  | case11 _ _ _ _ _ _ _ ih =>
    obtain ⟨_, h⟩ := StringRest.rest_of_cons h
    have := ih h; simp; omega

/-! ### Tokens -/

/-- Blanks between tokens. -/
def isBlank (c : Char) : Bool :=
  c == ' ' || c == '\n' || c == '\t' || c == '\r'

/-- Characters of numbers. -/
def isNumberChar (c : Char) : Bool :=
  c.isDigit || c == '-' || c == '+' || c == '.' || c == 'e' || c == 'E'

/-- The token of a single character. -/
def Token.ofMark? : Char → Option Token
  | '[' => some .openArray
  | ']' => some .closeArray
  | '\x7b' => some .openObject
  | '\x7d' => some .closeObject
  | ',' => some .comma
  | ':' => some .colon
  | _ => none

/-- The keyword at the start of a text, and the rest. -/
def keyword? : List Char → Option (Token × List Char)
  | 't' :: 'r' :: 'u' :: 'e' :: rest => some (.bool true, rest)
  | 'f' :: 'a' :: 'l' :: 's' :: 'e' :: rest => some (.bool false, rest)
  | 'n' :: 'u' :: 'l' :: 'l' :: rest => some (.null, rest)
  | _ => none

/-- Reading a keyword leaves less of the text. -/
theorem keyword?_length_lt {cs rest : List Char} {t : Token} (h : keyword? cs = some (t, rest)) :
    rest.length < cs.length := by
  unfold keyword? at h
  split at h <;> cases h <;> simp <;> omega

/-- The first token of a text that does not begin with a blank, and the rest. -/
def Token.first? : List Char → Option (Token × List Char)
  | [] => none
  | c :: cs =>
    match Token.ofMark? c with
    | some t => some (t, cs)
    | none =>
      if c = '"' then (stringBody none cs).map fun (text, rest) =>
        (.string (text.map String.ofList), rest)
      else if c = '-' ∨ c.isDigit then
        (Number.ofLiteral? (c :: cs.takeWhile isNumberChar)).map fun n =>
          (.number n, cs.dropWhile isNumberChar)
      else keyword? (c :: cs)

/-- Reading a token leaves less of the text. -/
theorem Token.first?_length_lt {cs rest : List Char} {t : Token}
    (h : Token.first? cs = some (t, rest)) : rest.length < cs.length := by
  cases cs with
  | nil => cases h
  | cons c cs =>
    rw [Token.first?] at h
    split at h
    · cases h; simp
    · split at h
      · obtain ⟨⟨text, rest'⟩, hs, h⟩ := Option.map_eq_some_iff.1 h
        cases h
        have := stringBody_length_lt hs
        simp; omega
      · split at h
        · obtain ⟨n, _, h⟩ := Option.map_eq_some_iff.1 h
          cases h
          have := (List.dropWhile_suffix isNumberChar (l := cs)).length_le
          simp; omega
        · exact keyword?_length_lt h

/-- The tokens of a text. -/
def Token.ofChars? (cs : List Char) : Option (List Token) :=
  match cs with
  | [] => some []
  | c :: rest =>
    if isBlank c then Token.ofChars? rest
    else match h : Token.first? (c :: rest) with
      | none => none
      | some (t, after) =>
        have : after.length < (c :: rest).length := Token.first?_length_lt h
        (Token.ofChars? after).map (t :: ·)
  termination_by cs.length
  decreasing_by
    · exact Nat.lt_succ_self _
    · assumption

end AnnotationBridge.Json
