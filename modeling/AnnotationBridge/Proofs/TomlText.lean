import AnnotationBridge.Json.Text
import AnnotationBridge.Proofs.DecimalDigits
import AnnotationBridge.Toml.Document
import Mathlib.Algebra.GroupWithZero.Nat
import Mathlib.Data.List.TakeWhile

/-!
# Texts of values

Texts that are read as given values: strings with escapes, lists of strings, integers and truth
values.

* `Toml.quoted`, `Toml.list`: how a string and a list of strings are written.
* `Toml.Spells`: a text is read as a value, whatever stands on the next line.

Main statements: `Toml.spells_quoted`, `Toml.spells_list`, `Toml.spells_integer`,
`Toml.spells_boolean`.
-/

namespace AnnotationBridge.Toml

/-! ### Strings -/

/-- A character inside a basic string. -/
def escapeChar (c : Char) : List Char :=
  if c = '"' ∨ c = '\\' then ['\\', c]
  else if isPrintable c then [c]
  else Json.unicodeEscape c.toNat

/-- A string with its quotation marks. -/
def quoted (s : String) : List Char :=
  '"' :: (s.toList.flatMap escapeChar ++ ['"'])

/-- The code points of one byte are read from their escapes. -/
theorem charOfCode?_unicodeEscape : ∀ n < 128, ∃ a b c d, Json.unicodeEscape n = ['\\', 'u', a, b, c, d] ∧
    shortCode? a b c d = some (Char.ofNat n) := by
  intro n hn
  refine ⟨_, _, _, _, rfl, ?_⟩
  revert n
  decide

/-- A character that is written with an escape is read as that character. -/
theorem basic?_escapeChar (c : Char) (rest : List Char) :
    basic? (escapeChar c ++ rest) = Rest.cons (some c) (basic? rest) := by
  unfold escapeChar
  split
  · rename_i hmark
    obtain rfl | rfl := hmark <;> rfl
  · rename_i hplain
    split
    · rename_i hprintable
      obtain ⟨hquote, hslash⟩ := not_or.1 hplain
      show basic? (c :: rest) = _
      rw [basic?]
      · simp [hquote, hslash, hprintable]
      all_goals
        intros
        simp_all
    · rename_i hcontrol
      have hlow : c.toNat < 128 := by
        simp [isPrintable] at hcontrol
        omega
      obtain ⟨a, b, d, e, hescape, hcode⟩ := charOfCode?_unicodeEscape c.toNat hlow
      rw [hescape]
      show basic? ('\\' :: 'u' :: a :: b :: d :: e :: rest) = _
      rw [basic?, hcode, Char.ofNat_toNat]

/-- **A string is read as it was written.** -/
theorem basic?_quoted (text rest : List Char) :
    basic? (text.flatMap escapeChar ++ '"' :: rest) = some (text, rest) := by
  induction text with
  | nil => simp [basic?]
  | cons c text ih =>
    rw [List.flatMap_cons, List.append_assoc, basic?_escapeChar, ih]
    rfl

/-! ### Values -/

/-- A text reads as a value, whatever stands on the next line. -/
structure Spells (text : List Char) (v : Value) : Prop where
  visible : ∀ rest, skipBlanks (text ++ '\n' :: rest) = text ++ '\n' :: rest
  reads : ∀ fuel rest, text.length < fuel →
    value? fuel 0 (text ++ '\n' :: rest) = some (v, '\n' :: rest)

/-- No such text starts with a quotation mark. -/
theorem head?_escapeChar (c : Char) : ∃ d cs, escapeChar c = d :: cs ∧ d ≠ '"' := by
  unfold escapeChar
  split
  · exact ⟨_, _, rfl, by decide⟩
  · rename_i hplain
    split
    · exact ⟨_, _, rfl, (not_or.1 hplain).1⟩
    · exact ⟨_, _, rfl, by decide⟩

/-- A string whose closing mark is not followed by another one is of one line. -/
theorem quoted?_quoted (s : String) {rest : List Char} (h : rest.head? ≠ some '"') :
    quoted? (quoted s ++ rest) = some (s.toList, rest) := by
  have hbody : quoted s ++ rest = '"' :: (s.toList.flatMap escapeChar ++ '"' :: rest) := by
    simp [quoted]
  rw [hbody, quoted?, basic?_quoted]
  intro rest' heq
  cases hs : s.toList with
  | nil =>
    rw [hs] at heq
    obtain ⟨-, rfl⟩ := List.cons.inj heq
    exact h rfl
  | cons c text =>
    obtain ⟨d, cs, hd, hne⟩ := head?_escapeChar c
    rw [hs, List.flatMap_cons, hd] at heq
    exact hne (List.cons.inj heq).1

/-- A string in quotation marks is read as a value, whatever follows. -/
theorem value?_quoted (fuel depth : Nat) (s : String) {rest : List Char}
    (h : rest.head? ≠ some '"') :
    value? (fuel + 1) depth (quoted s ++ rest) = some (.string s, rest) := by
  have hread := quoted?_quoted s h
  show value? (fuel + 1) depth ('"' :: _) = _
  rw [value?]
  show (quoted? (quoted s ++ rest)).map _ = _
  rw [hread]
  simp

/-- **A string in quotation marks spells that string.** -/
theorem spells_quoted (s : String) : Spells (quoted s) (.string s) where
  visible _ := rfl
  reads fuel rest hfuel := by
    obtain ⟨fuel, rfl⟩ := Nat.exists_eq_succ_of_ne_zero (Nat.ne_zero_of_lt hfuel)
    exact value?_quoted fuel 0 s (by simp)

/-! #### Lists of strings -/

/-- Strings with commas between them. -/
def listItems : List String → List Char
  | [] => []
  | [s] => quoted s
  | s :: s' :: ss => quoted s ++ ',' :: listItems (s' :: ss)

/-- A list of strings. -/
def list (ss : List String) : List Char :=
  '[' :: (listItems ss ++ [']'])

/-- The text of a list is at least as long as the list. -/
theorem length_le_listItems (ss : List String) : ss.length ≤ (listItems ss).length := by
  induction ss with
  | nil => exact Nat.le_refl 0
  | cons s ss ih =>
    cases ss with
    | nil => simp [listItems, quoted]
    | cons s' ss =>
      simp only [listItems, List.length_append, List.length_cons] at ih ⊢
      omega

/-- Where no blank, comment or end of a line stands, nothing is passed over. -/
theorem skipLines_cons (rounds : Nat) {c : Char} {cs : List Char}
    (h : c ∉ [' ', '\t', '\n', '\r', '#']) : skipLines rounds (c :: cs) = c :: cs := by
  simp only [List.mem_cons, List.not_mem_nil, or_false, not_or] at h
  obtain ⟨hspace, htab, hbreak, hreturn, hcomment⟩ := h
  cases rounds with
  | zero => rfl
  | succ rounds =>
    have hblank : skipBlanks (c :: cs) = c :: cs := by simp [skipBlanks, hspace, htab]
    have hskip : skipComment (c :: cs) = c :: cs := by
      rw [skipComment]
      rintro rest ⟨⟩
      exact hcomment rfl
    rw [skipLines, hblank, hskip]
    split
    · rename_i heq
      exact absurd (List.cons.inj heq).1 hbreak
    · rename_i heq
      exact absurd (List.cons.inj heq).1 hreturn
    · rfl

/-- There is nothing to pass over before a quotation mark. -/
theorem skipLines_quoted (rounds : Nat) (s : String) (rest : List Char) :
    skipLines rounds (quoted s ++ rest) = quoted s ++ rest :=
  skipLines_cons rounds (by decide)

/-- A string in quotation marks does not start with a bracket. -/
theorem quoted_ne_closing (s : String) {rest : List Char} (rest' : List Char)
    (h : quoted s ++ rest = ']' :: rest') : False :=
  absurd (List.cons.inj h).1 (by decide)

/-- **A list of strings is read item by item.** -/
theorem items?_listItems (fuel depth : Nat) (ss : List String) (rest : List Char)
    (h : ss.length < fuel) :
    items? (fuel + 1) depth (listItems ss ++ ']' :: rest) = some (ss.map .string, rest) := by
  induction ss generalizing fuel with
  | nil =>
    rw [listItems, List.nil_append, items?, skipLines_cons _ (by decide)]
    rfl
  | cons s ss ih =>
    obtain ⟨fuel, rfl⟩ := Nat.exists_eq_succ_of_ne_zero (Nat.ne_zero_of_lt h)
    cases ss with
    | nil =>
      have hvalue : value? (fuel + 1) depth (quoted s ++ ']' :: rest) = some (.string s, ']' :: rest) :=
        value?_quoted fuel depth s (by simp)
      unfold items?
      rw [listItems, skipLines_quoted]
      split
      · rename_i heq
        exact (quoted_ne_closing s _ heq).elim
      · rw [hvalue]
        simp [skipLines_cons]
    | cons s' ss =>
      have hvalue : value? (fuel + 1) depth (quoted s ++ ',' :: (listItems (s' :: ss) ++ ']' :: rest)) =
          some (.string s, ',' :: (listItems (s' :: ss) ++ ']' :: rest)) :=
        value?_quoted fuel depth s (by simp)
      unfold items?
      rw [listItems, List.append_assoc, List.cons_append, skipLines_quoted]
      split
      · rename_i heq
        exact (quoted_ne_closing s _ heq).elim
      · rw [hvalue]
        simp [skipLines_cons, ih fuel (by simpa using h)]

/-- **A list of strings spells that list.** -/
theorem spells_list (ss : List String) : Spells (list ss) (.array (ss.map .string)) where
  visible _ := rfl
  reads fuel rest hfuel := by
    have hlength := length_le_listItems ss
    simp only [list, List.length_cons, List.length_append] at hfuel
    obtain ⟨fuel, rfl⟩ : ∃ n, fuel = n + 2 := ⟨fuel - 2, by omega⟩
    have hitems := items?_listItems fuel 1 ss ('\n' :: rest) (by omega)
    have htext : list ss ++ '\n' :: rest = '[' :: (listItems ss ++ ']' :: '\n' :: rest) := by
      simp [list]
    rw [htext, value?, if_pos (by decide), hitems]
    rfl

/-! #### Words -/

/-- A word is read up to the end of its line. -/
theorem spells_word {word : List Char} {v : Value} (hall : word.all isWordChar = true)
    (hne : word ≠ []) (hdate : skipDate? word ≠ some []) (hv : Value.ofWord? word = some v) :
    Spells word v := by
  have hword : ∀ c ∈ word, isWordChar c = true := List.all_eq_true.1 hall
  obtain ⟨c, cs, rfl⟩ := List.exists_cons_of_ne_nil hne
  have hc := hword c List.mem_cons_self
  have hother {d : Char} (hd : isWordChar d = false) : c ≠ d := by
    rintro rfl
    exact Bool.noConfusion (hc.symm.trans hd)
  refine ⟨fun rest => ?_, fun fuel rest hfuel => ?_⟩
  · simp [skipBlanks, hother (show isWordChar ' ' = false by decide),
      hother (show isWordChar '\t' = false by decide)]
  · obtain ⟨fuel, rfl⟩ := Nat.exists_eq_succ_of_ne_zero (Nat.ne_zero_of_lt hfuel)
    have hsplit : splitWord (c :: cs ++ '\n' :: rest) = (c :: cs, '\n' :: rest) := by
      have htake : (c :: cs ++ '\n' :: rest).takeWhile isWordChar = c :: cs := by
        rw [List.takeWhile_append_of_pos hword, List.takeWhile_cons_of_neg (by decide),
          List.append_nil]
      have hdrop : (c :: cs ++ '\n' :: rest).dropWhile isWordChar = '\n' :: rest := by
        rw [List.dropWhile_append_of_pos hword, List.dropWhile_cons_of_neg (by decide)]
      unfold splitWord
      rw [htake, hdrop]
      dsimp only
      split
      · rename_i hbreak
        exact absurd hbreak (by simp)
      · rfl
    rw [value?]
    · rw [hsplit]
      simp [hv]
    all_goals
      intro rest' heq
      exact hother (by decide) (List.cons.inj heq).1

/-- **The name of a truth value spells it.** -/
theorem spells_boolean (b : Bool) : Spells (toString b).toList (.boolean b) := by
  cases b with
  | false => exact spells_word (by decide) (by decide) (by decide) rfl
  | true => exact spells_word (by decide) (by decide) (by decide) rfl

section Digits

variable {ds : List Char} (h : ∀ c ∈ ds, c.isDigit = true)

include h

/-- In a run of digits nothing but a digit follows. -/
theorem after?_digits {c : Char} (hc : c.isDigit = false) : after? c ds = none := by
  cases ds with
  | nil => rfl
  | cons d ds =>
    have hd : c ≠ d := by
      rintro rfl
      exact Bool.noConfusion (hc.symm.trans (h c List.mem_cons_self))
    simp [after?, hd]

/-- Nothing but a digit follows the first digits of a run either. -/
theorem after?_of_fixedDigits? {count n : Nat} {rest : List Char} {c : Char}
    (hc : c.isDigit = false) (hfixed : fixedDigits? count ds = some (n, rest)) :
    after? c rest = none := by
  obtain ⟨-, heq⟩ := Option.ite_none_right_eq_some.1 hfixed
  obtain ⟨-, rfl⟩ := Prod.mk.inj (Option.some.inj heq)
  exact after?_digits (fun d hd => h d (List.mem_of_mem_drop hd)) hc

/-- A run of digits does not start with a date. -/
theorem skipDate?_digits : skipDate? ds = none := by
  unfold skipDate?
  cases hfixed : fixedDigits? 4 ds with
  | none => rfl
  | some p =>
    obtain ⟨n, rest⟩ := p
    have hafter : after? '-' rest = none := after?_of_fixedDigits? h (by decide) hfixed
    simp [hafter]

/-- It does not start with a time of the day. -/
theorem skipMinutes?_digits : skipMinutes? ds = none := by
  unfold skipMinutes?
  cases hfixed : fixedDigits? 2 ds with
  | none => rfl
  | some p =>
    obtain ⟨n, rest⟩ := p
    have hafter : after? ':' rest = none := after?_of_fixedDigits? h (by decide) hfixed
    simp [hafter]

/-- It is neither of them. -/
theorem isDateTime_digits : isDateTime ds = false := by
  simp [isDateTime, skipDate?_digits h, skipTime?, skipMinutes?_digits h]

/-- It has no sign. -/
theorem splitSign_digits : splitSign ds = (false, ds) := by
  unfold splitSign
  split
  · exact absurd (h _ List.mem_cons_self) (by decide)
  · exact absurd (h _ List.mem_cons_self) (by decide)
  · rfl

/-- It does not start with a number with a point or an exponent. -/
theorem float?_digits : float? ds = none := by
  have hwhole : ds.dropWhile (fun c => c.isDigit || c == '_') = [] := by
    rw [List.dropWhile_eq_nil_iff]
    exact fun c hc => by simp [h c hc]
  unfold float?
  rw [splitSign_digits h]
  dsimp only
  rw [hwhole]
  cases decimal? (ds.takeWhile fun c => c.isDigit || c == '_') <;> rfl

/-- It is not such a number. -/
theorem isFloat_digits : isFloat ds = false := by
  have hword {word : List Char} {c : Char} (hc : c ∈ word) (hdigit : c.isDigit = false) :
      ds ≠ word := by
    rintro rfl
    exact Bool.noConfusion (hdigit.symm.trans (h c hc))
  have hinf : ds ≠ "inf".toList := hword (by decide : 'i' ∈ _) (by decide)
  have hnan : ds ≠ "nan".toList := hword (by decide : 'n' ∈ _) (by decide)
  unfold isFloat
  rw [splitSign_digits h, float?_digits h]
  simp only [beq_false_of_ne hinf, beq_false_of_ne hnan, Bool.or_self]

/-- It has no separators to take out. -/
theorem digitsOf?_digits (hne : ds ≠ []) : digitsOf? Char.isDigit ds = some ds := by
  induction ds with
  | nil => exact absurd rfl hne
  | cons c ds ih =>
    have hc := h c List.mem_cons_self
    cases ds with
    | nil => simp [digitsOf?, hc]
    | cons d ds =>
      have hd : d ≠ '_' := by
        rintro rfl
        exact absurd (h '_' (by simp)) (by decide)
      rw [digitsOf?, if_pos hc, ih (fun c hc => h c (List.mem_cons_of_mem _ hc)) (by simp)]
      · rfl
      · simp
      · simp [hd]

end Digits

/-- The digits of a number are a decimal literal. -/
theorem decimal?_toDigits (n : Nat) : decimal? (Nat.toDigits 10 n) = some (Nat.toDigits 10 n) := by
  rw [decimal?, digitsOf?_digits (fun _ => Number.isDigit_of_mem_toDigits) Nat.toDigits_ne_nil]
  intro d rest heq
  rcases Number.toDigits_eq_or_head? n with h | h
  · rw [h] at heq
    cases heq
  · rw [heq] at h
    exact h rfl

/-- They are read as that number if it fits. -/
theorem integer?_toDigits {n : Nat} (h : n < 2 ^ 63) :
    integer? (Nat.toDigits 10 n) = some (n : Int) := by
  have hdigits : ∀ c ∈ Nat.toDigits 10 n, c.isDigit = true := fun _ => Number.isDigit_of_mem_toDigits
  have hmarked {c d : Char} (hd : d.isDigit = false) (rest : List Char) :
      Nat.toDigits 10 n ≠ c :: d :: rest := fun heq =>
    Bool.noConfusion (hd.symm.trans (hdigits d (by simp [heq])))
  unfold integer?
  split
  · rename_i heq
    exact absurd heq (hmarked (by decide) _)
  · rename_i heq
    exact absurd heq (hmarked (by decide) _)
  · rename_i heq
    exact absurd heq (hmarked (by decide) _)
  · rw [splitSign_digits hdigits]
    dsimp only
    rw [decimal?_toDigits]
    have hhigh : (n : Int) ≤ Int64.maxValue.toInt :=
      Int.le_of_lt_add_one (Int.lt_of_lt_of_le (Int.ofNat_lt.2 h) (by decide))
    simp [hhigh]

/-- **An integer is read from its decimal digits.** -/
theorem spells_integer {n : Nat} (h : n < 2 ^ 63) : Spells (Nat.toDigits 10 n) (.integer n) := by
  have hdigits : ∀ c ∈ Nat.toDigits 10 n, c.isDigit = true := fun _ => Number.isDigit_of_mem_toDigits
  have hword {word : List Char} {c : Char} (hc : c ∈ word) (hdigit : c.isDigit = false) :
      Nat.toDigits 10 n ≠ word := by
    rintro heq
    exact Bool.noConfusion (hdigit.symm.trans (hdigits c (heq ▸ hc)))
  refine spells_word (List.all_eq_true.2 fun c hc => ?_) Nat.toDigits_ne_nil ?_ ?_
  · simp [isWordChar, Char.isAlphanum, hdigits c hc]
  · simp [skipDate?_digits hdigits]
  · have htrue : Nat.toDigits 10 n ≠ "true".toList := hword (by decide : 't' ∈ _) (by decide)
    have hfalse : Nat.toDigits 10 n ≠ "false".toList := hword (by decide : 'f' ∈ _) (by decide)
    rw [Value.ofWord?, if_neg htrue, if_neg hfalse, isDateTime_digits hdigits,
      isFloat_digits hdigits, integer?_toDigits h]
    rfl

end AnnotationBridge.Toml
