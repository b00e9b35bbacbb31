import AnnotationBridge.Json.Text
import AnnotationBridge.Proofs.JsonValues

/-!
# Tokens of a value

The text of a value consists of its tokens, and each is read as it was written, whatever follows.
Only a number must not be followed by another character of a number.

* `Json.tokens`: the tokens of a value.
* `Json.Fits.ofChars?_toText`: they are the tokens that are read from its text.
-/

namespace AnnotationBridge.Json

variable {t : Token} {n : Nat} {c : Char} {cs rest : List Char} {j : Json}

/-! ### Tokens of a value -/

mutual

/-- The tokens of a value. What has no value is written as `null`. -/
def tokens : Json → List Token
  | .null | .unusable => [.null]
  | .bool b => [.bool b]
  | .number n => [.number (some n)]
  | .string s => [.string (some s)]
  | .array items => .openArray :: (itemTokens items ++ [.closeArray])
  | .object fields => .openObject :: (fieldTokens fields ++ [.closeObject])

/-- The tokens of the items of an array. -/
def itemTokens : List Json → List Token
  | [] => []
  | [item] => tokens item
  | item :: next :: items => tokens item ++ .comma :: itemTokens (next :: items)

/-- The tokens of the fields of an object. -/
def fieldTokens : List (String × Json) → List Token
  | [] => []
  | [(name, value)] => .string (some name) :: .colon :: tokens value
  | (name, value) :: next :: fields =>
    .string (some name) :: .colon :: (tokens value ++ .comma :: fieldTokens (next :: fields))

end

/-! ### One token -/

/-- A text in which no character of a number comes first. -/
def NoNumberFirst (cs : List Char) : Prop :=
  ∀ c rest, cs = c :: rest → isNumberChar c = false

/-- A text that starts with such a character does not go on a number. -/
theorem noNumberFirst_cons (h : isNumberChar c = false) : NoNumberFirst (c :: cs) := by
  rintro _ _ ⟨⟩
  exact h

/-- A text starts with the characters of a token. -/
theorem ofChars?_of_first? (hblank : isBlank c = false)
    (h : Token.first? (c :: cs) = some (t, rest)) :
    Token.ofChars? (c :: cs) = (Token.ofChars? rest).map (t :: ·) := by
  rw [Token.ofChars?, hblank]
  simp only [Bool.false_eq_true, if_false]
  split
  · rename_i hnone
    rw [hnone] at h
    cases h
  · rename_i t' after hsome
    rw [hsome] at h
    cases h
    rfl

/-- A mark is a token of its own. -/
theorem ofChars?_mark (h : Token.ofMark? c = some t) (hblank : isBlank c = false) :
    Token.ofChars? (c :: rest) = (Token.ofChars? rest).map (t :: ·) := by
  refine ofChars?_of_first? hblank ?_
  rw [Token.first?, h]

/-- A comma is a mark. -/
theorem ofChars?_comma : Token.ofChars? (',' :: rest) = (Token.ofChars? rest).map (.comma :: ·) :=
  ofChars?_mark rfl rfl

/-! ### Strings -/

/-- The code points of control characters are read from their escapes. -/
theorem hexQuad?_unicodeEscape : ∀ n < 0x20, ∃ a b c d, unicodeEscape n = ['\\', 'u', a, b, c, d] ∧
    hexQuad? a b c d = some n := by
  intro n hn
  refine ⟨_, _, _, _, rfl, ?_⟩
  revert n
  decide

/-- A character that is written with an escape is read as that character. -/
theorem stringBody_escapeChar (c : Char) (rest : List Char) :
    stringBody none (escapeChar c ++ rest) = StringRest.cons (some c) (stringBody none rest) := by
  unfold escapeChar
  split
  case h_8 hquote hslash _ _ _ _ _ =>
    rw [imp_false] at hquote hslash
    split
    · rename_i hlow
      obtain ⟨a, b, d, e, hescape, hcode⟩ := hexQuad?_unicodeEscape c.toNat hlow
      have hhigh : isHighHalf c.toNat = false := by
        simp [isHighHalf]
        omega
      have hlower : isLowHalf c.toNat = false := by
        simp [isLowHalf]
        omega
      rw [hescape]
      show stringBody none ('\\' :: 'u' :: a :: b :: d :: e :: rest) = _
      simp [stringBody, hcode, hhigh, hlower]
    · rename_i hplain
      show stringBody none (c :: rest) = _
      rw [stringBody]
      · simp [hquote, hslash, hplain]
      all_goals
        intros
        simp_all
  all_goals simp [stringBody, shortEscape?]

/-- **A string is read as it was written.** -/
theorem stringBody_quoted (text rest : List Char) :
    stringBody none (text.flatMap escapeChar ++ '"' :: rest) = some (some text, rest) := by
  induction text with
  | nil => simp [stringBody]
  | cons c text ih =>
    rw [List.flatMap_cons, List.append_assoc, stringBody_escapeChar, ih]
    rfl

/-- A string in quotation marks is one token. -/
theorem ofChars?_quoted (s : String) :
    Token.ofChars? (quoted s ++ rest) = (Token.ofChars? rest).map (.string (some s) :: ·) := by
  refine ofChars?_of_first? rfl ?_
  show Token.first? ('"' :: ((s.toList.flatMap escapeChar ++ ['"']) ++ rest)) = _
  rw [List.append_assoc]
  show (stringBody none (s.toList.flatMap escapeChar ++ '"' :: rest)).map _ = _
  rw [stringBody_quoted]
  show some (Token.string (some (String.ofList s.toList)), rest) = _
  rw [String.ofList_toList]

/-! ### Numbers -/

/-- Digits are characters of numbers. -/
theorem isNumberChar_of_isDigit (h : c.isDigit = true) : isNumberChar c = true := by
  simp [isNumberChar, h]

/-- The text of an integer has characters of numbers only. -/
theorem isNumberChar_of_mem_toString {k : Int} (h : c ∈ (toString k).toList) :
    isNumberChar c = true := by
  rw [Number.toList_toString] at h
  obtain hsign | hdigit := List.mem_append.1 h
  · split at hsign
    · rw [List.mem_singleton.1 hsign]
      rfl
    · cases hsign
  · exact isNumberChar_of_isDigit (Number.isDigit_of_mem_toDigits hdigit)

/-- A literal consists of characters of numbers. -/
theorem isNumberChar_of_mem_chars {l : Number.Literal} (hl : l.Proper) (h : c ∈ l.chars) :
    isNumberChar c = true := by
  obtain ⟨negative, whole, fraction, exponent⟩ := l
  rw [Number.Literal.chars, List.mem_append, List.mem_append, List.mem_append] at h
  obtain hsign | hwhole | hfraction | hexponent := h
  · cases negative with
    | true =>
      rw [List.mem_singleton.1 hsign]
      rfl
    | false => cases hsign
  · exact isNumberChar_of_isDigit (hl.whole c hwhole)
  · cases fraction with
    | none => cases hfraction
    | some ds =>
      obtain rfl | hdigit := List.mem_cons.1 hfraction
      · rfl
      · exact isNumberChar_of_isDigit ((hl.fraction ds rfl).2 c hdigit)
  · cases exponent with
    | none => cases hexponent
    | some k =>
      obtain rfl | hdigit := List.mem_cons.1 hexponent
      · rfl
      · exact isNumberChar_of_mem_toString hdigit

/-- A literal begins with a sign or a digit. -/
theorem exists_chars_eq_cons {l : Number.Literal} (hl : l.Proper) :
    ∃ c cs, l.chars = c :: cs ∧ (c = '-' ∨ c.isDigit = true) := by
  obtain ⟨negative, whole, fraction, exponent⟩ := l
  obtain ⟨c, cs, hcs⟩ := List.exists_cons_of_ne_nil hl.nonempty
  cases negative with
  | true => exact ⟨'-', _, rfl, .inl rfl⟩
  | false =>
    have hdigit : c.isDigit = true := hl.whole c (by rw [hcs]; exact List.mem_cons_self)
    refine ⟨c, cs ++ (Number.Literal.fractionChars fraction ++ Number.Literal.exponentChars exponent),
      ?_, .inr hdigit⟩
    rw [Number.Literal.chars, hcs]
    rfl

/-- A sign or a digit is no blank, no mark and no quotation mark. -/
theorem plain_of_number (h : c = '-' ∨ c.isDigit = true) :
    isBlank c = false ∧ Token.ofMark? c = none ∧ c ≠ '"' := by
  refine ⟨?_, ?_, ?_⟩
  · cases hb : isBlank c with
    | false => rfl
    | true =>
      simp only [isBlank, Bool.or_eq_true, beq_iff_eq] at hb
      rcases hb with ((rfl | rfl) | rfl) | rfl <;> revert h <;> decide
  · unfold Token.ofMark?
    split <;> first | rfl | (revert h; decide)
  · rintro rfl
    revert h
    decide

/-- **A number is read as it was written**, unless further characters of a number follow. -/
theorem ofChars?_number {k : Number} (hk : k.Legible) (hrest : NoNumberFirst rest) :
    Token.ofChars? (k.text ++ rest) =
      (Token.ofChars? rest).map (.number (some (k.mapReal Double.reread)) :: ·) := by
  have hchars := fun c => isNumberChar_of_mem_chars (c := c) k.proper_literal
  obtain ⟨c, cs, hcs, hfirst⟩ := exists_chars_eq_cons k.proper_literal
  rw [← Number.text_eq_chars] at hchars hcs
  obtain ⟨hblank, hmark, hquote⟩ := plain_of_number hfirst
  have hspan : (cs ++ rest).takeWhile isNumberChar = cs ∧
      (cs ++ rest).dropWhile isNumberChar = rest := by
    have hall : ∀ c ∈ cs, isNumberChar c = true := fun c hc =>
      hchars c (hcs ▸ List.mem_cons_of_mem _ hc)
    rw [List.takeWhile_append_of_pos hall, List.dropWhile_append_of_pos hall]
    cases rest with
    | nil => simp
    | cons d rest => simp [hrest d rest rfl]
  rw [hcs, List.cons_append]
  refine ofChars?_of_first? hblank ?_
  rw [Token.first?, hmark]
  simp only
  rw [if_neg hquote, if_pos hfirst, hspan.1, hspan.2, ← hcs, hk, Option.map_some]

/-! ### Values -/

/-- The tokens of a value are read from its text, up to what becomes of its numbers. -/
def ReadsBack (j : Json) : Prop :=
  ∀ rest, NoNumberFirst rest → Token.ofChars? (j.chars ++ rest) =
    (Token.ofChars? rest).map ((j.mapReals Double.reread).tokens ++ ·)

/-- The items of an array are read as their tokens. -/
theorem ofChars?_itemChars {items : List Json} (h : ∀ j ∈ items, j.ReadsBack)
    (hrest : NoNumberFirst rest) : Token.ofChars? (itemChars items ++ rest) =
      (Token.ofChars? rest).map (itemTokens (items.map (mapReals Double.reread)) ++ ·) := by
  induction items with
  | nil => simp [itemChars, itemTokens]
  | cons item items ih =>
    have hitem := h item List.mem_cons_self
    have ih := ih fun j hj => h j (List.mem_cons_of_mem _ hj)
    cases items with
    | nil =>
      rw [itemChars, List.append_nil, hitem rest hrest]
      rfl
    | cons next items =>
      rw [itemChars]
      simp only [List.append_assoc, List.cons_append]
      rw [hitem _ (noNumberFirst_cons rfl), ofChars?_comma, ih]
      simp only [Option.map_map, List.map_cons, itemTokens, List.append_assoc, List.cons_append]
      rfl

/-- The fields of an object are read as their tokens. -/
theorem ofChars?_fieldChars {fields : List (String × Json)} (h : ∀ e ∈ fields, e.2.ReadsBack)
    (hrest : NoNumberFirst rest) : Token.ofChars? (fieldChars fields ++ rest) =
      (Token.ofChars? rest).map
        (fieldTokens (fields.map fun e => (e.1, e.2.mapReals Double.reread)) ++ ·) := by
  induction fields with
  | nil => simp [fieldChars, fieldTokens]
  | cons field fields ih =>
    obtain ⟨name, value⟩ := field
    have hvalue := h _ List.mem_cons_self
    have ih := ih fun e he => h e (List.mem_cons_of_mem _ he)
    cases fields with
    | nil =>
      rw [fieldChars, List.append_nil]
      simp only [List.append_assoc, List.cons_append]
      rw [ofChars?_quoted, ofChars?_mark rfl rfl, hvalue rest hrest]
      simp only [Option.map_map]
      rfl
    | cons next fields =>
      rw [fieldChars]
      simp only [List.append_assoc, List.cons_append]
      rw [ofChars?_quoted, ofChars?_mark rfl rfl, hvalue _ (noNumberFirst_cons rfl), ofChars?_comma,
        ih]
      simp only [Option.map_map, List.map_cons, fieldTokens, List.append_assoc, List.cons_append]
      rfl

/-- **The tokens of a value are read from its text**, up to what becomes of its numbers. -/
theorem Fits.readsBack (h : Fits n j) : j.ReadsBack := by
  induction h with
  | null => exact fun rest _ => ofChars?_of_first? rfl rfl
  | unusable => exact fun rest _ => ofChars?_of_first? rfl rfl
  | bool b =>
    cases b with
    | true => exact fun rest _ => ofChars?_of_first? rfl rfl
    | false => exact fun rest _ => ofChars?_of_first? rfl rfl
  | number hk => exact fun rest hrest => ofChars?_number hk.legible hrest
  | string s => exact fun rest _ => ofChars?_quoted s
  | @array n items _ ih =>
    intro rest _
    rw [chars, mapReals_array, tokens]
    simp only [List.append_assoc, List.cons_append]
    rw [ofChars?_mark rfl rfl, ofChars?_itemChars ih (noNumberFirst_cons rfl), List.nil_append,
      ofChars?_mark rfl rfl]
    simp only [Option.map_map]
    rfl
  | @object n fields _ ih =>
    intro rest _
    rw [chars, mapReals_object, tokens]
    simp only [List.append_assoc, List.cons_append]
    rw [ofChars?_mark rfl rfl, ofChars?_fieldChars ih (noNumberFirst_cons rfl), List.nil_append,
      ofChars?_mark rfl rfl]
    simp only [Option.map_map]
    rfl

/-- The tokens of a text that is the text of a value. -/
theorem Fits.ofChars?_toText (h : Fits n j) :
    Token.ofChars? j.toText.toList = some (j.mapReals Double.reread).tokens := by
  have hread := h.readsBack [] (by rintro _ _ ⟨⟩)
  rw [List.append_nil, Token.ofChars?, Option.map_some, List.append_nil] at hread
  rw [toText, String.toList_ofList, hread]

end AnnotationBridge.Json
