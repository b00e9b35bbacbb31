import AnnotationBridge.Text.Buffer

/-!
# Lines and offsets

The lines of a text are contents with breaks between them. An offset stands in one line at one
column, before the end of the line or, in the last line, at it.

* `Text.AreLines`, `Text.areLines_lines`: what the lines of a text look like.
* `Text.startOf`: where a line starts. `Text.IsColumn`: the columns of a line.
  `Text.IsColumn.lt_iff`: the order of offsets is the order of lines and columns.
* `Text.exists_isColumn`, `Text.TextBuffer.locate_startOf_add`: each offset is the column of a line,
  and `locate` finds it.
* `Text.InsideBreak`, `Text.AreLines.insideBreak_iff`: the offset between `\r` and `\n` is the
  column after the content of the line that they end.
-/

namespace AnnotationBridge.Text

variable {cs content l l' : List Char} {L : List (List Char)} {n m k k' i : Nat}

/-! ### What lines look like -/

/-- What ends a line. -/
def breaks : List (List Char) :=
  [['\n'], ['\r'], ['\r', '\n']]

/-- A break has one or two characters. -/
theorem length_of_mem_breaks {ending : List Char} (h : ending ∈ breaks) :
    0 < ending.length ∧ ending.length ≤ 2 := by
  simp only [breaks, List.mem_cons, List.not_mem_nil, or_false] at h
  rcases h with rfl | rfl | rfl <;> simp

/-- Lines as they come from a text. The last one has no break, and each other one is its content and
a break, which is the whole break: no `\n` follows a break that is `\r` alone. -/
inductive AreLines : List (List Char) → Prop where
  | last {content : List Char} (plain : ∀ c ∈ content, isBreak c = false) : AreLines [content]
  | cons {content ending : List Char} {rest : List (List Char)}
      (plain : ∀ c ∈ content, isBreak c = false) (ends : ending ∈ breaks)
      (whole : ending = ['\r'] → rest.flatten.head? ≠ some '\n') (more : AreLines rest) :
      AreLines ((content ++ ending) :: rest)

/-- Even an empty text has a line. -/
theorem AreLines.ne_nil (h : AreLines L) : L ≠ [] := by
  cases h <;> simp

/-- A character in front of a text whose first line it does not end. -/
theorem AreLines.cons_char {c : Char} {rest : List (List Char)} (hc : isBreak c = false)
    (h : AreLines (l :: rest)) : AreLines ((c :: l) :: rest) := by
  cases h with
  | last plain => exact .last (List.forall_mem_cons.2 ⟨hc, plain⟩)
  | cons plain ends whole more =>
    rw [← List.cons_append]
    exact .cons (List.forall_mem_cons.2 ⟨hc, plain⟩) ends whole more

/-- A line that is a break alone, in front of lines. -/
theorem AreLines.cons_break {ending : List Char} {rest : List (List Char)} (h : AreLines rest)
    (ends : ending ∈ breaks) (whole : ending = ['\r'] → rest.flatten.head? ≠ some '\n') :
    AreLines (ending :: rest) := by
  rw [← List.nil_append ending]
  exact .cons (List.forall_mem_nil _) ends whole h

/-- **The lines of a text are lines.** -/
theorem areLines_lines (cs : List Char) : AreLines (lines cs) := by
  fun_induction lines cs with
  | case1 => exact .last (by simp)
  | case2 cs ih => exact ih.cons_break (by simp [breaks]) (by simp)
  | case3 c cs hnot hc ih =>
    refine ih.cons_break ?_ ?_
    · rcases hc with rfl | rfl <;> simp [breaks]
    · intro hending hhead
      obtain rfl : c = '\r' := by simpa using hending
      rw [lines_flatten] at hhead
      obtain ⟨tail, rfl⟩ := List.head?_eq_some_iff.1 hhead
      exact hnot tail rfl rfl
  | case4 c cs _ _ h => exact absurd h (lines_ne_nil cs)
  | case5 c cs _ hc line rest h ih =>
    rw [h] at ih
    exact ih.cons_char (by simpa [isBreak] using hc)

/-! ### The content of a line -/

/-- Characters that are not breaks belong to the content. -/
theorem lineContent_append (plain : ∀ c ∈ content, isBreak c = false) (rest : List Char) :
    lineContent (content ++ rest) = content ++ lineContent rest := by
  rw [lineContent, List.takeWhile_append_of_pos fun c hc => by rw [plain c hc]; rfl]
  rfl

/-- Without a break all of a line is content. -/
theorem lineContent_of_plain (plain : ∀ c ∈ content, isBreak c = false) :
    lineContent content = content := by
  simpa using lineContent_append plain []

/-- The content of a line ends where its break starts. -/
theorem lineContent_append_ending {ending : List Char} (plain : ∀ c ∈ content, isBreak c = false)
    (ends : ending ∈ breaks) : lineContent (content ++ ending) = content := by
  have hending : lineContent ending = [] := by
    simp only [breaks, List.mem_cons, List.not_mem_nil, or_false] at ends
    rcases ends with rfl | rfl | rfl <;> rfl
  rw [lineContent_append plain, hending, List.append_nil]

/-- The beginning of a line up to the end of its content is in its content. -/
theorem take_eq_take_lineContent (hk : k ≤ (lineContent l).length) :
    l.take k = (lineContent l).take k := by
  obtain ⟨ending, hl⟩ : lineContent l <+: l := List.takeWhile_prefix _
  calc l.take k = (lineContent l ++ ending).take k := by rw [hl]
    _ = (lineContent l).take k := List.take_append_of_le_length hk

/-! ### Where a line starts -/

/-- The offset at which a line starts. -/
def startOf (L : List (List Char)) (n : Nat) : Nat :=
  (L.take n).flatten.length

/-- The first line starts at the start of the text. -/
@[simp] theorem startOf_zero (L : List (List Char)) : startOf L 0 = 0 := rfl

/-- A line more in front puts all others off by its length. -/
@[simp] theorem startOf_cons_succ (l : List Char) (L : List (List Char)) (n : Nat) :
    startOf (l :: L) (n + 1) = l.length + startOf L n := by
  simp [startOf]

/-- A line ends where the next one starts. -/
theorem startOf_succ (hl : L[n]? = some l) : startOf L (n + 1) = startOf L n + l.length := by
  simp [startOf, List.take_add_one, hl]

/-- No line starts before the one above it. -/
theorem startOf_le_succ (L : List (List Char)) (n : Nat) : startOf L n ≤ startOf L (n + 1) := by
  simp [startOf, List.take_add_one]

/-- Later lines start later. -/
theorem startOf_mono (h : n ≤ m) : startOf L n ≤ startOf L m := by
  induction h with
  | refl => exact Nat.le_refl _
  | @step m h ih => exact Nat.le_trans ih (startOf_le_succ L m)

/-- A line ends before a later one starts. -/
theorem startOf_add_length_le (hl : L[n]? = some l) (h : n < m) :
    startOf L n + l.length ≤ startOf L m := by
  rw [← startOf_succ hl]
  exact startOf_mono h

/-- All lines start within the text. -/
theorem startOf_le_length (L : List (List Char)) (n : Nat) : startOf L n ≤ L.flatten.length := by
  have hparts : startOf L n + (L.drop n).flatten.length = L.flatten.length := by
    rw [startOf, ← List.length_append, ← List.flatten_append, List.take_append_drop]
  omega

/-! ### Columns -/

/-- Whether `k` is a column of the line `l`, which has the number `n`: before its end or, if it is
the last line, at its end. -/
structure IsColumn (L : List (List Char)) (n : Nat) (l : List Char) (k : Nat) : Prop where
  line : L[n]? = some l
  column : k < l.length ∨ n + 1 = L.length ∧ k ≤ l.length

/-- A line more in front only counts in the number of the line. -/
theorem isColumn_cons_succ {l' : List Char} :
    IsColumn (l' :: L) (n + 1) l k ↔ IsColumn L n l k := by
  constructor
  · rintro ⟨hl, hk⟩
    exact ⟨by simpa using hl, by simpa using hk⟩
  · rintro ⟨hl, hk⟩
    exact ⟨by simpa using hl, by simpa using hk⟩

/-- A column is at most the length of its line. -/
theorem IsColumn.le_length (h : IsColumn L n l k) : k ≤ l.length := by
  rcases h.column with hk | ⟨-, hk⟩ <;> omega

/-- What is on an earlier line comes earlier. -/
theorem IsColumn.startOf_add_lt (h : IsColumn L n l k) (h' : IsColumn L m l' k') (hlt : n < m) :
    startOf L n + k < startOf L m + k' := by
  have hm : m < L.length := (List.getElem?_eq_some_iff.1 h'.line).1
  have hk : k < l.length := by
    rcases h.column with hk | ⟨hlast, -⟩
    · exact hk
    · omega
  calc startOf L n + k < startOf L n + l.length := Nat.add_lt_add_left hk _
    _ ≤ startOf L m := startOf_add_length_le h.line hlt
    _ ≤ startOf L m + k' := Nat.le_add_right _ _

/-- **The order of offsets is the order of lines and columns.** -/
theorem IsColumn.lt_iff (h : IsColumn L n l k) (h' : IsColumn L m l' k') :
    startOf L n + k < startOf L m + k' ↔ n < m ∨ n = m ∧ k < k' := by
  rcases Nat.lt_trichotomy n m with hlt | rfl | hgt
  · exact iff_of_true (h.startOf_add_lt h' hlt) (.inl hlt)
  · simp
  · have hafter := h'.startOf_add_lt h hgt
    exact iff_of_false (by omega) (by omega)

/-- The columns of a line go at least to the end of its content. -/
theorem AreLines.isColumn (h : AreLines L) (hl : L[n]? = some l)
    (hk : k ≤ (lineContent l).length) : IsColumn L n l k := by
  induction h generalizing n with
  | last plain =>
    cases n with
    | zero =>
      obtain rfl := Option.some.inj hl
      rw [lineContent_of_plain plain] at hk
      exact ⟨hl, .inr ⟨rfl, hk⟩⟩
    | succ n => simp at hl
  | @cons content ending rest plain ends whole more ih =>
    cases n with
    | zero =>
      obtain rfl := Option.some.inj hl
      obtain ⟨hpos, -⟩ := length_of_mem_breaks ends
      rw [lineContent_append_ending plain ends] at hk
      refine ⟨hl, .inl ?_⟩
      rw [List.length_append]
      omega
    | succ n => exact isColumn_cons_succ.2 (ih hl)

/-- A column of a line is in its content, at the end of that, or right after it. -/
theorem AreLines.le_length_lineContent (h : AreLines L) (hcol : IsColumn L n l k) :
    k ≤ (lineContent l).length + 1 := by
  induction h generalizing n with
  | last plain =>
    cases n with
    | zero =>
      obtain rfl := Option.some.inj hcol.line
      rw [lineContent_of_plain plain]
      exact Nat.le_succ_of_le hcol.le_length
    | succ n => simpa using hcol.line
  | @cons content ending rest plain ends whole more ih =>
    cases n with
    | zero =>
      obtain rfl := Option.some.inj hcol.line
      obtain ⟨-, hle⟩ := length_of_mem_breaks ends
      rw [lineContent_append_ending plain ends]
      rcases hcol.column with hk | ⟨hlast, -⟩
      · rw [List.length_append] at hk
        omega
      · exact absurd (List.length_eq_zero_iff.1 (Nat.succ.inj hlast).symm) more.ne_nil
    | succ n => exact ih (isColumn_cons_succ.1 hcol)

/-- **Each offset is a column of a line.** -/
theorem exists_isColumn (hL : L ≠ []) (hi : i ≤ L.flatten.length) :
    ∃ n l k, IsColumn L n l k ∧ i = startOf L n + k := by
  induction L generalizing i with
  | nil => exact absurd rfl hL
  | cons l rest ih =>
    by_cases hlt : i < l.length
    · exact ⟨0, l, i, ⟨rfl, .inl hlt⟩, by simp⟩
    · cases rest with
      | nil =>
        refine ⟨0, l, i, ⟨rfl, .inr ⟨rfl, ?_⟩⟩, by simp⟩
        simpa using hi
      | cons next rest =>
        rw [List.flatten_cons, List.length_append] at hi
        obtain ⟨n, l', k, hcol, heq⟩ := ih (i := i - l.length) (by simp) (by omega)
        refine ⟨n + 1, l', k, isColumn_cons_succ.2 hcol, ?_⟩
        rw [startOf_cons_succ]
        omega

namespace TextBuffer

/-- **A column of a line is found there.** -/
theorem locate_startOf_add (h : IsColumn L n l k) : locate L (startOf L n + k) = ⟨n, k⟩ := by
  induction L generalizing n with
  | nil => simpa using h.line
  | cons l' rest ih =>
    cases n with
    | zero =>
      obtain rfl := Option.some.inj h.line
      rw [startOf_zero, Nat.zero_add]
      cases rest with
      | nil => rfl
      | cons next rest =>
        rcases h.column with hk | ⟨hlast, -⟩
        · rw [locate, if_pos hk]
        · simp at hlast
    | succ n =>
      have hcol := isColumn_cons_succ.1 h
      cases rest with
      | nil => simpa using hcol.line
      | cons next rest =>
        have hge : ¬ l'.length + startOf (next :: rest) n + k < l'.length := by omega
        have hsub : l'.length + startOf (next :: rest) n + k - l'.length =
            startOf (next :: rest) n + k := by omega
        rw [startOf_cons_succ, locate, if_neg hge, hsub, ih hcol]
        rfl

end TextBuffer

/-! ### Inside a break -/

/-- Whether an offset is between the `\r` and the `\n` of a break. -/
def InsideBreak (cs : List Char) (i : Nat) : Prop :=
  ∃ j, i = j + 1 ∧ cs[j]? = some '\r' ∧ cs[j + 1]? = some '\n'

/-- The start of a text is not inside a break. -/
theorem not_insideBreak_zero (cs : List Char) : ¬ InsideBreak cs 0 := by
  rintro ⟨j, hj, -⟩
  cases hj

/-- A text without breaks has no inside of one, also if something follows. -/
theorem lt_of_insideBreak_append (plain : ∀ c ∈ content, isBreak c = false)
    (h : InsideBreak (content ++ cs) i) : content.length < i := by
  obtain ⟨j, rfl, hcr, -⟩ := h
  rcases Nat.lt_or_ge j content.length with hlt | hge
  · rw [List.getElem?_append_left hlt] at hcr
    exact absurd (plain _ (List.mem_of_getElem? hcr)) (by decide)
  · omega

/-- An offset in the rest of a text is inside a break of the rest, unless the break is cut. -/
theorem insideBreak_length_add_iff
    (hcut : ∀ init, l = init ++ ['\r'] → cs.head? ≠ some '\n') :
    InsideBreak (l ++ cs) (l.length + i) ↔ InsideBreak cs i := by
  cases i with
  | zero =>
    refine iff_of_false ?_ (not_insideBreak_zero cs)
    rintro ⟨j, hj, hcr, hlf⟩
    rw [List.getElem?_append_left (by omega)] at hcr
    rw [List.getElem?_append_right (by omega), ← hj] at hlf
    refine hcut (l.take j) ?_ (by simpa [List.head?_eq_getElem?] using hlf)
    have hlen : l.length = j + 1 := hj
    have := List.take_add_one (l := l) (i := j)
    rw [hcr, ← hlen, List.take_length] at this
    exact this
  | succ i =>
    constructor
    · rintro ⟨j, hj, hcr, hlf⟩
      rw [List.getElem?_append_right (by omega)] at hcr hlf
      refine ⟨i, rfl, ?_, ?_⟩
      · rwa [show j - l.length = i by omega] at hcr
      · rwa [show j + 1 - l.length = i + 1 by omega] at hlf
    · rintro ⟨j, hj, hcr, hlf⟩
      obtain rfl : i = j := by omega
      refine ⟨l.length + i, rfl, ?_, ?_⟩
      · rw [List.getElem?_append_right (by omega), Nat.add_sub_cancel_left]
        exact hcr
      · rw [List.getElem?_append_right (by omega), Nat.add_assoc, Nat.add_sub_cancel_left]
        exact hlf

/-- In a line with its break, the inside of the break is the column after the content. -/
theorem insideBreak_line_iff {ending : List Char} (plain : ∀ c ∈ content, isBreak c = false)
    (ends : ending ∈ breaks) (hk : k < (content ++ ending).length) :
    InsideBreak (content ++ ending ++ cs) k ↔ k = content.length + 1 := by
  rw [List.length_append] at hk
  constructor
  · intro h
    rw [List.append_assoc] at h
    have hgt := lt_of_insideBreak_append plain h
    obtain ⟨-, hle⟩ := length_of_mem_breaks ends
    omega
  · rintro rfl
    simp only [breaks, List.mem_cons, List.not_mem_nil, or_false] at ends
    rcases ends with rfl | rfl | rfl
    · simp at hk
    · simp at hk
    · refine ⟨content.length, rfl, ?_, ?_⟩ <;> simp

/-- **The inside of a break is the column after the content of a line.** -/
theorem AreLines.insideBreak_iff (h : AreLines L) (hcol : IsColumn L n l k) :
    InsideBreak L.flatten (startOf L n + k) ↔ k = (lineContent l).length + 1 := by
  induction h generalizing n with
  | @last content plain =>
    cases n with
    | zero =>
      obtain rfl := Option.some.inj hcol.line
      have hk := hcol.le_length
      rw [startOf_zero, Nat.zero_add, lineContent_of_plain plain, List.flatten_singleton]
      refine iff_of_false (fun hinside => ?_) (by omega)
      rw [← List.append_nil content] at hinside
      have hgt := lt_of_insideBreak_append plain hinside
      omega
    | succ n => simpa using hcol.line
  | @cons content ending rest plain ends whole more ih =>
    rw [List.flatten_cons]
    cases n with
    | zero =>
      obtain rfl := Option.some.inj hcol.line
      have hk : k < (content ++ ending).length := by
        rcases hcol.column with hk | ⟨hlast, -⟩
        · exact hk
        · exact absurd (List.length_eq_zero_iff.1 (Nat.succ.inj hlast).symm) more.ne_nil
      rw [startOf_zero, Nat.zero_add, lineContent_append_ending plain ends]
      exact insideBreak_line_iff plain ends hk
    | succ n =>
      rw [startOf_cons_succ, Nat.add_assoc, insideBreak_length_add_iff, ih (isColumn_cons_succ.1 hcol)]
      -- a break that is cut would be `\r` alone before `\n`
      intro init hinit
      apply whole
      simp only [breaks, List.mem_cons, List.not_mem_nil, or_false] at ends
      rcases ends with rfl | rfl | rfl
      · simpa using congrArg List.getLast? hinit
      · rfl
      · simpa using congrArg List.getLast? hinit

end AnnotationBridge.Text
