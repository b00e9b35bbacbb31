import AnnotationBridge.Proofs.DecimalDigits
import AnnotationBridge.Proofs.ShortestDecimal

/-!
# Texts of numbers

The text of a number is a literal, and the reader takes it apart as it was put together.

* `Number.Literal.chars`: a literal as it is written. `Number.Literal.ofChars?_chars`: it is taken
  apart into the same parts.
* `Number.literal`: the parts of the text of a number. `Number.text_eq_chars`: that is its text.
* `Double.reread`: the number that the text of a number with a fraction or an exponent is read as.
* `Number.Legible`: a number whose text is read. `Number.legible_integer`, `Number.legible_real`.
-/

namespace AnnotationBridge.Number

variable {digits rest : List Char} {l : Literal} {n : Int}

/-! ### Digits at the start of a text -/

/-- A text in which no digit comes first. -/
def NoDigitFirst (cs : List Char) : Prop :=
  ∀ c rest, cs = c :: rest → c.isDigit = false

/-- Digits are taken off as far as they go. -/
theorem spanDigits_append (hdigits : ∀ c ∈ digits, c.isDigit = true) (hrest : NoDigitFirst rest) :
    spanDigits (digits ++ rest) = (digits, rest) := by
  have hstop : rest.takeWhile Char.isDigit = [] ∧ rest.dropWhile Char.isDigit = rest := by
    cases rest with
    | nil => exact ⟨rfl, rfl⟩
    | cons c cs =>
      have hc : ¬ c.isDigit = true := by simp [hrest c cs rfl]
      exact ⟨List.takeWhile_cons_of_neg hc, List.dropWhile_cons_of_neg hc⟩
  rw [spanDigits, List.takeWhile_append_of_pos hdigits, List.dropWhile_append_of_pos hdigits,
    hstop.1, hstop.2, List.append_nil]

/-- The text of an integer: a sign and the digits of its magnitude. -/
theorem toList_toString (n : Int) :
    (toString n).toList = (if n < 0 then ['-'] else []) ++ Nat.toDigits 10 n.natAbs := by
  cases n with
  | ofNat n =>
    show (Nat.repr n).toList = _
    simp [Nat.repr_eq_ofList_toDigits]
  | negSucc n =>
    show ("-" ++ Nat.repr (n + 1)).toList = _
    simp [Nat.repr_eq_ofList_toDigits]

/-! ### Literals -/

namespace Literal

/-- The exponent of a literal, if there is one. -/
def exponentChars (exponent : Option Int) : List Char :=
  exponent.elim [] fun n => 'e' :: (toString n).toList

/-- The digits behind the point, if there is one. -/
def fractionChars (fraction : Option (List Char)) : List Char :=
  fraction.elim [] ('.' :: ·)

/-- The text of a literal. -/
def chars (l : Literal) : List Char :=
  (if l.negative then ['-'] else []) ++
    (l.whole ++ (fractionChars l.fraction ++ exponentChars l.exponent))

/-- The parts are digits, without a leading zero before the point. -/
structure Proper (l : Literal) : Prop where
  whole : ∀ c ∈ l.whole, c.isDigit = true
  nonempty : l.whole ≠ []
  leading : l.whole = ['0'] ∨ l.whole.head? ≠ some '0'
  fraction : ∀ ds, l.fraction = some ds → ds ≠ [] ∧ ∀ c ∈ ds, c.isDigit = true

/-- An exponent without a sign is read as the number that its digits make up. -/
theorem exponent?_digits (hne : digits ≠ []) (hdigits : ∀ c ∈ digits, c.isDigit = true) :
    exponent? ('e' :: digits) = some (some (ofDigits digits : Int)) := by
  have hguard : digits ≠ [] ∧ digits.all Char.isDigit = true := ⟨hne, List.all_eq_true.2 hdigits⟩
  have hsign {c : Char} (hc : c.isDigit = false) (rest : List Char) : digits ≠ c :: rest := by
    rintro rfl
    exact Bool.noConfusion (hc.symm.trans (hdigits c List.mem_cons_self))
  unfold exponent?
  dsimp only
  rw [if_pos (.inl rfl)]
  split
  · exact absurd rfl (hsign (by decide) _)
  · exact absurd rfl (hsign (by decide) _)
  · exact if_pos hguard

/-- An exponent with a sign is read as the negative of that number. -/
theorem exponent?_minus (hne : digits ≠ []) (hdigits : ∀ c ∈ digits, c.isDigit = true) :
    exponent? ('e' :: '-' :: digits) = some (some (-(ofDigits digits : Int))) := by
  have hguard : digits ≠ [] ∧ digits.all Char.isDigit = true := ⟨hne, List.all_eq_true.2 hdigits⟩
  unfold exponent?
  dsimp only
  rw [if_pos (.inl rfl)]
  exact if_pos hguard

/-- The exponent is read as it was written. -/
theorem exponent?_exponentChars (exponent : Option Int) :
    exponent? (exponentChars exponent) = some exponent := by
  cases exponent with
  | none => rfl
  | some n =>
    have hdigits : ∀ c ∈ Nat.toDigits 10 n.natAbs, c.isDigit = true :=
      fun _ => isDigit_of_mem_toDigits
    show exponent? ('e' :: (toString n).toList) = _
    rw [toList_toString]
    by_cases hn : n < 0
    · rw [if_pos hn]
      refine (exponent?_minus Nat.toDigits_ne_nil hdigits).trans ?_
      rw [ofDigits_toDigits]
      exact congrArg (fun n => some (some n)) (by omega)
    · rw [if_neg hn, List.nil_append, exponent?_digits Nat.toDigits_ne_nil hdigits,
        ofDigits_toDigits]
      exact congrArg (fun n => some (some n)) (by omega)

/-- An exponent does not start with a digit. -/
theorem noDigitFirst_exponentChars (exponent : Option Int) :
    NoDigitFirst (exponentChars exponent) := by
  rintro c rest heq
  cases exponent with
  | none => cases heq
  | some n =>
    rw [← (List.cons.inj heq).1]
    rfl

/-- Neither does a fraction with an exponent. -/
theorem noDigitFirst_fractionChars (fraction : Option (List Char)) (exponent : Option Int) :
    NoDigitFirst (fractionChars fraction ++ exponentChars exponent) := by
  cases fraction with
  | none => exact noDigitFirst_exponentChars exponent
  | some ds =>
    rintro c rest heq
    rw [← (List.cons.inj heq).1]
    rfl

/-- **A literal is taken apart as it was put together.** -/
theorem ofChars?_chars (h : l.Proper) : ofChars? l.chars = some l := by
  obtain ⟨negative, whole, fraction, exponent⟩ := l
  obtain ⟨hwhole, hne, hleading, hfraction⟩ := h
  dsimp only at hwhole hne hleading hfraction
  have hspan := spanDigits_append hwhole (noDigitFirst_fractionChars fraction exponent)
  have hguard : ¬ (whole = [] ∨ (whole.head? = some '0' ∧ whole ≠ ['0'])) := by
    rintro (hnil | ⟨hzero, hlong⟩)
    · exact hne hnil
    · exact hleading.elim hlong fun hfirst => hfirst hzero
  have hunsigned : ∀ ds, whole ++ (fractionChars fraction ++ exponentChars exponent) ≠ '-' :: ds := by
    obtain ⟨c, cs, rfl⟩ := List.exists_cons_of_ne_nil hne
    rintro ds heq
    have hc := hwhole c List.mem_cons_self
    rw [(List.cons.inj heq).1] at hc
    cases hc
  unfold ofChars? chars
  cases negative
  case' true => simp only [if_true, List.cons_append, List.nil_append, hspan, if_neg hguard]
  case' false =>
    simp only [Bool.false_eq_true, if_false, List.nil_append, hspan, if_neg hguard]
  all_goals
    cases fraction with
    | none =>
      simp only [fractionChars, Option.elim_none, List.nil_append]
      split
      · rename_i heq
        cases exponent <;> cases heq
      · rw [exponent?_exponentChars]
        rfl
    | some ds =>
      obtain ⟨hds, hdigits⟩ := hfraction ds rfl
      simp only [fractionChars, Option.elim_some, List.cons_append,
        spanDigits_append hdigits (noDigitFirst_exponentChars exponent), if_neg hds,
        exponent?_exponentChars, Option.map_some]

end Literal

/-! ### The text of a number -/

/-- The parts of the text of a decimal. -/
def decimalLiteral (negative : Bool) (d : Decimal) : Literal :=
  let digits := Nat.toDigits 10 d.digits
  let zeros (n : Nat) : List Char := List.replicate n '0'
  let places : Int := digits.length + d.exponent
  if 0 ≤ d.exponent ∧ places ≤ 16 then
    ⟨negative, digits ++ zeros d.exponent.toNat, some ['0'], none⟩
  else if 0 < places ∧ places ≤ 16 then
    ⟨negative, digits.take places.toNat, some (digits.drop places.toNat), none⟩
  else if -5 < places ∧ places ≤ 0 then
    ⟨negative, ['0'], some (zeros (-places).toNat ++ digits), none⟩
  else
    ⟨negative, digits.take 1, if digits.length = 1 then none else some (digits.drop 1),
      some (places - 1)⟩

/-- The parts of the text of a number. -/
def literal : Number → Literal
  | .integer n => ⟨n < 0, Nat.toDigits 10 n.natAbs, none, none⟩
  | .real x => decimalLiteral x.negative x.magnitude.shortest

/-- The literal of a decimal is written as the text of the decimal with its sign. -/
theorem chars_decimalLiteral (negative : Bool) (d : Decimal) :
    (decimalLiteral negative d).chars = (if negative then ['-'] else []) ++ decimalText d := by
  unfold decimalText decimalLiteral
  dsimp only
  split
  · simp [Literal.chars, Literal.fractionChars, Literal.exponentChars]
  · split
    · simp [Literal.chars, Literal.fractionChars, Literal.exponentChars, withPoint]
    · split
      · simp [Literal.chars, Literal.fractionChars, Literal.exponentChars]
      · by_cases hone : (Nat.toDigits 10 d.digits).length = 1
        · simp [Literal.chars, Literal.fractionChars, Literal.exponentChars, hone,
            List.take_of_length_le (Nat.le_of_eq hone)]
        · simp [Literal.chars, Literal.fractionChars, Literal.exponentChars, hone, withPoint]

/-- The text of a number is how its literal is written. -/
theorem text_eq_chars (n : Number) : n.text = n.literal.chars := by
  cases n with
  | integer n =>
    rw [text, toList_toString]
    simp [literal, Literal.chars, Literal.fractionChars, Literal.exponentChars]
  | real x =>
    rw [text, literal]
    exact (chars_decimalLiteral x.negative x.magnitude.shortest).symm

/-- The text of a decimal is a literal; a decimal without digits has no power of ten. -/
theorem proper_decimalLiteral (negative : Bool) {d : Decimal}
    (hzero : d.digits = 0 → d.exponent = 0) : (decimalLiteral negative d).Proper := by
  have hdigits : ∀ c ∈ Nat.toDigits 10 d.digits, c.isDigit = true := fun _ => isDigit_of_mem_toDigits
  have hne : Nat.toDigits 10 d.digits ≠ [] := Nat.toDigits_ne_nil
  have hpos : 0 < (Nat.toDigits 10 d.digits).length := Nat.length_toDigits_pos
  have hleading := toDigits_eq_or_head? d.digits
  have hexponent : Nat.toDigits 10 d.digits = ['0'] → d.exponent = 0 := fun h =>
    hzero (by rw [← ofDigits_toDigits d.digits, h]; rfl)
  have hzeros (n : Nat) : ∀ c ∈ List.replicate n '0', c.isDigit = true := fun c hc => by
    rw [List.eq_of_mem_replicate hc]
    rfl
  have happend (rest : List Char) :
      (Nat.toDigits 10 d.digits ++ rest).head? = (Nat.toDigits 10 d.digits).head? := by
    rw [List.head?_append, Option.or_of_isSome (List.isSome_head?.2 hne)]
  have htake {n : Nat} (hn : 0 < n) :
      ((Nat.toDigits 10 d.digits).take n).head? = (Nat.toDigits 10 d.digits).head? := by
    rw [List.head?_take, if_neg (Nat.ne_of_gt hn)]
  have htaken (n : Nat) : ∀ c ∈ (Nat.toDigits 10 d.digits).take n, c.isDigit = true :=
    fun c hc => hdigits c (List.mem_of_mem_take hc)
  have hdropped (n : Nat) : ∀ c ∈ (Nat.toDigits 10 d.digits).drop n, c.isDigit = true :=
    fun c hc => hdigits c (List.mem_of_mem_drop hc)
  have hnonempty {n : Nat} (hn : 0 < n) : (Nat.toDigits 10 d.digits).take n ≠ [] := by
    rw [Ne, List.take_eq_nil_iff, not_or]
    exact ⟨Nat.ne_of_gt hn, hne⟩
  unfold decimalLiteral
  dsimp only
  split
  · refine ⟨?_, List.append_ne_nil_of_left_ne_nil hne _, ?_, ?_⟩
    · exact fun c hc => (List.mem_append.1 hc).elim (hdigits c) (hzeros _ c)
    · refine hleading.imp (fun h => ?_) fun h => by rwa [happend]
      rw [h, hexponent h]
      rfl
    · rintro ds ⟨⟩
      exact ⟨by simp, by simp⟩
  · rename_i hwhole
    split
    · rename_i hplaces
      have hlow : d.exponent < 0 := by omega
      have hfirst : (Nat.toDigits 10 d.digits).head? ≠ some '0' :=
        hleading.resolve_left fun h => by rw [hexponent h] at hlow; omega
      refine ⟨htaken _, hnonempty (by omega), .inr ?_, ?_⟩
      · rwa [htake (by omega)]
      · rintro ds ⟨⟩
        refine ⟨?_, hdropped _⟩
        rw [Ne, List.drop_eq_nil_iff]
        omega
    · split
      · refine ⟨by simp, by simp, .inl rfl, ?_⟩
        rintro ds ⟨⟩
        exact ⟨List.append_ne_nil_of_right_ne_nil _ hne,
          fun c hc => (List.mem_append.1 hc).elim (hzeros _ c) (hdigits c)⟩
      · refine ⟨htaken 1, hnonempty Nat.one_pos, ?_, ?_⟩
        · exact hleading.imp (fun h => by rw [h]; rfl) fun h => by rwa [htake Nat.one_pos]
        · intro ds hds
          split at hds
          · cases hds
          · obtain rfl := Option.some.inj hds
            refine ⟨?_, hdropped 1⟩
            rw [Ne, List.drop_eq_nil_iff]
            omega

/-- The text of a number is a literal. -/
theorem proper_literal (n : Number) : n.literal.Proper := by
  cases n with
  | integer n =>
    refine ⟨fun _ => isDigit_of_mem_toDigits, Nat.toDigits_ne_nil, toDigits_eq_or_head? _, ?_⟩
    rintro _ ⟨⟩
  | real x =>
    refine proper_decimalLiteral x.negative ?_
    obtain hzero | hstands := x.magnitude.shortest_cases
    · rw [hzero]
      exact fun _ => rfl
    · exact fun h => absurd h (Nat.ne_of_gt hstands.pos)

end AnnotationBridge.Number

namespace AnnotationBridge

/-! ### Reading the text of a number -/

/-- The number that the text of `x` is read as: `x` itself or a number close to it. -/
def Double.reread (x : Double) : Double :=
  match Number.ofLiteral? (Number.real x).text with
  | some (some (.real y)) => y
  | _ => x

namespace Number

/-- A number in which the double-precision numbers are changed. -/
def mapReal (f : Double → Double) : Number → Number
  | .integer n => .integer n
  | .real x => .real (f x)

/-- A number whose text is read, and as that number if it is an integer. -/
def Legible (n : Number) : Prop :=
  ofLiteral? n.text = some (some (n.mapReal Double.reread))

/-- Integers of 64 bits are read from their own texts. -/
theorem legible_integer {n : Int} (hlow : Int64.minValue.toInt ≤ n) (hhigh : n < UInt64.size) :
    (integer n).Legible := by
  have hvalue : (if n < 0 then -(n.natAbs : Int) else n.natAbs) = n := by
    split <;> omega
  have hsigned : (toString n).toList ≠ ['-', '0'] := by
    rw [toList_toString]
    by_cases hn : n < 0
    · rw [if_pos hn]
      rintro heq
      have hdigits : Nat.toDigits 10 n.natAbs = ['0'] := (List.cons.inj heq).2
      have hzero := ofDigits_toDigits n.natAbs
      rw [hdigits] at hzero
      have : 0 = n.natAbs := hzero
      omega
    · rw [if_neg hn]
      rintro heq
      have hdigit := isDigit_of_mem_toDigits (n := n.natAbs) (c := '-')
        (by rw [← List.nil_append (Nat.toDigits 10 _), heq]; exact List.mem_cons_self)
      cases hdigit
  unfold Legible ofLiteral?
  rw [text_eq_chars, Literal.ofChars?_chars (proper_literal _), ← text_eq_chars]
  simp only [literal, ofDigits_toDigits, text, Option.bind_eq_bind, Option.bind_some,
    decide_eq_true_eq, hvalue]
  rw [if_pos ⟨rfl, rfl, hlow, hhigh, hsigned⟩]
  rfl

/-- The literal of a decimal has a fraction or an exponent, so it is not taken for an integer. -/
theorem not_integer_decimalLiteral (negative : Bool) (d : Decimal) :
    ¬ ((decimalLiteral negative d).fraction.isNone = true ∧
      (decimalLiteral negative d).exponent.isNone = true) := by
  unfold decimalLiteral
  dsimp only
  split
  · rintro ⟨⟨⟩, -⟩
  · split
    · rintro ⟨⟨⟩, -⟩
    · split
      · rintro ⟨⟨⟩, -⟩
      · rintro ⟨-, ⟨⟩⟩

/-- The literal of a decimal has the sign that it was given. -/
theorem negative_decimalLiteral (negative : Bool) (d : Decimal) :
    (decimalLiteral negative d).negative = negative := by
  unfold decimalLiteral
  dsimp only
  split
  · rfl
  · split
    · rfl
    · split <;> rfl

/-- The text of a number is read as what its decimal is rounded to, with the same sign. -/
theorem ofLiteral?_text_real {x : Double} {y : Magnitude}
    (h : ofDecimal? (real x).literal.decimal = some y) :
    ofLiteral? (real x).text = some (some (.real ⟨x.negative, y⟩)) := by
  unfold ofLiteral?
  rw [text_eq_chars, Literal.ofChars?_chars (proper_literal _)]
  simp only [Option.bind_eq_bind, Option.bind_some]
  rw [if_neg fun h => not_integer_decimalLiteral _ _ ⟨h.1, h.2.1⟩, h, Option.map_some, literal,
    negative_decimalLiteral]

/-- The number that the text of a number is read as has the same sign. -/
theorem reread_eq {x : Double} {y : Magnitude} (h : ofDecimal? (real x).literal.decimal = some y) :
    x.reread = ⟨x.negative, y⟩ := by
  rw [Double.reread, ofLiteral?_text_real h]

/-- A number is legible if its decimal is not too large to be read. -/
theorem legible_real {x : Double} (h : (ofDecimal? (real x).literal.decimal).isSome = true) :
    (real x).Legible := by
  obtain ⟨y, hy⟩ := Option.isSome_iff_exists.1 h
  rw [Legible, mapReal, reread_eq hy]
  exact ofLiteral?_text_real hy

end Number

end AnnotationBridge
