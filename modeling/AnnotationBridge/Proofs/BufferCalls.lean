import AnnotationBridge.Proofs.BufferBounds

/-!
# Calls of a buffer

Whatever numbers a call of a buffer's methods is given, it is answered, or refused with an error
that tells which of the numbers is wrong. No call ends in a fault, and none that is refused leaves a
trace, so this holds of any calls one after the other.

* `Text.Call`, `Text.Call.checked`, `Text.Call.effect`: a call of a method, with checks and without.
* `Text.Call.run_checked`: a call has no fault and does what it does without checks.
* `Text.Call.effect_eq_error_iff`: which calls are refused, and with which error.
* `Text.Call.calls_in_bounds`: any calls one after the other.
-/

namespace AnnotationBridge.Text

/-! ### Calls -/

/-- A call of a method. Its offsets, lines and columns may be any numbers. -/
inductive Call where
  | line (n : Nat)
  | lineLength (n : Nat)
  | slice (range : Span)
  | insert (index : Nat) (s : List Char)
  | delete (range : Span)
  | replace (range : Span) (s : List Char)
  | position (index : Nat)
  | utf16Position (index : Nat)
  | indexOfUtf16 (p : Position)
  | tokenAt (index : Nat)
  deriving DecidableEq, Repr

/-- What a call answers. -/
inductive Answer where
  | done
  | text (cs : List Char)
  | number (n : Nat)
  | position (p : Position)
  | span (s : Span)
  deriving DecidableEq, Repr

namespace Call

variable {b : TextBuffer} {calls : List Call} {e : BufferError}

/-- What a call answers, and the buffer after it. -/
def effect (b : TextBuffer) : Call → Except BufferError (Answer × TextBuffer)
  | line n => (b.line n).map fun l => (.text l, b)
  | lineLength n => (b.lineLength n).map fun n => (.number n, b)
  | slice range => (b.slice range).map fun cs => (.text cs, b)
  | insert index s => (b.insert index s).map fun b' => (.done, b')
  | delete range => (b.delete range).map fun (taken, b') => (.text taken, b')
  | replace range s => (b.replace range s).map fun (taken, b') => (.text taken, b')
  | position index => (b.position index).map fun p => (.position p, b)
  | utf16Position index => (b.utf16Position index).map fun p => (.position p, b)
  | indexOfUtf16 p => .ok (.number (b.indexOfUtf16 p), b)
  | tokenAt index => (b.tokenAt index).map fun s => (.span s, b)

/-- A call of a method with checks. -/
def checked : Call → Checked Answer
  | line n => .text <$> Checked.line n
  | lineLength n => .number <$> Checked.lineLength n
  | slice range => .text <$> Checked.slice range
  | insert index s => (fun _ => .done) <$> Checked.insert index s
  | delete range => .text <$> Checked.delete range
  | replace range s => .text <$> Checked.replace range s
  | position index => .position <$> Checked.position index
  | utf16Position index => .position <$> Checked.utf16Position index
  | indexOfUtf16 p => .number <$> Checked.indexOfUtf16 p
  | tokenAt index => .span <$> Checked.tokenAt index

/-- The error with which a call is refused: a line that is not there; an inverted range, and else
one that reaches past the end of the text; an offset past the end. -/
def refusal (b : TextBuffer) : Call → Option BufferError
  | line n | lineLength n => if n < b.lineCount then none else some (.positionOutOfBounds ⟨n, 0⟩)
  | slice range | delete range | replace range _ =>
    if range.stop < range.start then some (.invalidRange range)
    else if b.size < range.stop then some (.invalidCharIndex range.stop)
    else none
  | insert index _ | position index | utf16Position index | tokenAt index =>
    if b.size < index then some (.invalidCharIndex index) else none
  | indexOfUtf16 _ => none

/-- A method that ends as it should does so also if its answer is packed up. -/
theorem run_map_ended {α : Type} {method : Checked α} {r : Except BufferError (α × TextBuffer)}
    (f : α → Answer) (h : method.run b = Checked.ended b r) :
    (f <$> method).run b = Checked.ended b (r.map fun (a, b') => (f a, b')) := by
  have hmethod : method b = Checked.ended b r := h
  simp only [EStateM.run, Functor.map, EStateM.map, hmethod]
  cases r <;> rfl

/-- The same of a method that only reads. -/
theorem run_map_read {α : Type} {method : Checked α} {r : Except BufferError α}
    (f : α → Answer) (h : method.run b = Checked.read b r) :
    (f <$> method).run b = Checked.ended b (r.map fun a => (f a, b)) := by
  rw [run_map_ended f h]
  cases r <;> rfl

/-- **A call has no fault**, and does what it does without checks. -/
theorem run_checked (fits : b.size < 2 ^ 64) (c : Call) :
    c.checked.run b = Checked.ended b (c.effect b) := by
  cases c with
  | line n => exact run_map_read _ (Checked.run_line b n)
  | lineLength n => exact run_map_read _ (Checked.run_lineLength b n)
  | slice range => exact run_map_read _ (Checked.run_slice b range)
  | insert index s =>
    rw [checked, run_map_ended _ (Checked.run_insert b index s), effect]
    cases b.insert index s <;> rfl
  | delete range => exact run_map_ended _ (Checked.run_delete b range)
  | replace range s => exact run_map_ended _ (Checked.run_replace b range s)
  | position index => exact run_map_read _ (Checked.run_position b index)
  | utf16Position index => exact run_map_read _ (Checked.run_utf16Position b index)
  | indexOfUtf16 p =>
    exact run_map_ended (r := .ok (_, b)) _ (Checked.run_indexOfUtf16 b fits p)
  | tokenAt index => exact run_map_read _ (Checked.run_tokenAt b fits index)

/-- Packing up an answer makes no error. -/
theorem map_eq_error_iff {α β : Type} {r : Except BufferError α} {f : α → β} :
    r.map f = .error e ↔ r = .error e := by
  cases r <;> simp [Except.map]

/-- A line is refused if the text has no such line. -/
theorem line_eq_error_iff {n : Nat} :
    b.line n = .error e ↔
      (if n < b.lineCount then none else some (.positionOutOfBounds ⟨n, 0⟩)) = some e := by
  cases hl : (lines b.text)[n]? with
  | some l =>
    have hn : n < b.lineCount := (List.getElem?_eq_some_iff.1 hl).1
    simp [TextBuffer.line_eq_ok_iff.2 hl, hn]
  | none =>
    have hn : ¬ n < b.lineCount := Nat.not_lt.2 (List.getElem?_eq_none_iff.1 hl)
    simp [TextBuffer.line, hl, hn]

/-- A range is refused by what is wrong with it. -/
theorem slice_eq_error_iff {range : Span} :
    b.slice range = .error e ↔ (slice range).refusal b = some e := by
  rw [TextBuffer.slice, refusal]
  split
  · simp
  · split <;> simp

/-- A range is taken out, or exchanged, unless reading it is refused. -/
theorem replace_eq_error_iff {range : Span} {s : List Char} :
    b.replace range s = .error e ↔ b.slice range = .error e := by
  rcases spliced_or_refused b range s with ⟨taken, text', h⟩ | ⟨e', h⟩
  · simp [TextBuffer.replace_of_spliced h, TextBuffer.slice_of_spliced h]
  · simp [TextBuffer.replace_of_slice_eq_error h, h]

/-- A deletion is refused as its range is. -/
theorem delete_eq_error_iff {range : Span} :
    b.delete range = .error e ↔ b.slice range = .error e := by
  cases h : b.slice range with
  | ok taken => simp [TextBuffer.delete, h, bind, Except.bind]
  | error e' => simp [TextBuffer.delete_of_slice_eq_error h]

/-- An offset is refused if it is after the end of the text. -/
theorem outside_eq_some_iff {index : Nat} :
    (if b.size < index then some (BufferError.invalidCharIndex index) else none) = some e ↔
      b.size < index ∧ BufferError.invalidCharIndex index = e := by
  split <;> simp_all

/-- An offset past the end has no position, and each other one has one. -/
theorem position_cases (b : TextBuffer) (index : Nat) :
    b.size < index ∨ ∃ n l k, IsColumn (lines b.text) n l k ∧ index = b.lineStart n + k := by
  by_cases houtside : b.size < index
  · exact .inl houtside
  · exact .inr (TextBuffer.exists_lineStart_add (Nat.not_lt.1 houtside))

/-- **Which calls are refused**, and with which error. -/
theorem effect_eq_error_iff (c : Call) : c.effect b = .error e ↔ c.refusal b = some e := by
  cases c with
  | line n => rw [effect, map_eq_error_iff, line_eq_error_iff, refusal]
  | lineLength n =>
    rw [effect, map_eq_error_iff, TextBuffer.lineLength, map_eq_error_iff, line_eq_error_iff, refusal]
  | slice range => rw [effect, map_eq_error_iff, slice_eq_error_iff]
  | insert index s =>
    rw [effect, map_eq_error_iff, refusal, TextBuffer.insert]
    split <;> simp
  | delete range => rw [effect, map_eq_error_iff, delete_eq_error_iff, slice_eq_error_iff]; rfl
  | replace range s => rw [effect, map_eq_error_iff, replace_eq_error_iff, slice_eq_error_iff]; rfl
  | position index =>
    rw [effect, map_eq_error_iff, refusal, TextBuffer.position]
    split <;> simp
  | utf16Position index =>
    rw [effect, map_eq_error_iff, refusal, outside_eq_some_iff]
    rcases position_cases b index with houtside | ⟨n, l, k, hcol, rfl⟩
    · simp [TextBuffer.utf16Position, TextBuffer.position, houtside, bind, Except.bind]
    · have hinside := Nat.not_lt.2 (TextBuffer.lineStart_add_le_size hcol.line hcol.le_length)
      simp [TextBuffer.utf16Position_of_isColumn hcol, hinside]
  | indexOfUtf16 p => simp [effect, refusal]
  | tokenAt index =>
    rw [effect, map_eq_error_iff, refusal, outside_eq_some_iff]
    rcases position_cases b index with houtside | ⟨n, l, k, hcol, rfl⟩
    · simp [TextBuffer.tokenAt_of_size_lt houtside, houtside]
    · have hinside := Nat.not_lt.2 (TextBuffer.lineStart_add_le_size hcol.line hcol.le_length)
      simp [TextBuffer.tokenAt_eq hcol, hinside]

/-- The buffer after a call. -/
def after (b : TextBuffer) (c : Call) : TextBuffer :=
  match c.effect b with
  | .ok (_, b') => b'
  | .error _ => b

/-- What each of several calls answers, one after the other. -/
def answers : TextBuffer → List Call → List (Except BufferError Answer)
  | _, [] => []
  | b, c :: rest => (c.effect b).map Prod.fst :: answers (c.after b) rest

/-- Makes several calls, one after the other. A call that is refused does not keep the next one from
being made, a fault does. -/
def checkedAll : List Call → Checked (List (Except BufferError Answer))
  | [] => return []
  | c :: rest => do
    let answer ← tryCatch (.ok <$> c.checked) fun
      | .refused e => return .error e
      | .fault f => throw (.fault f)
    return answer :: (← checkedAll rest)

/-- Whether each text on the way is one that memory can hold, so that its offsets are numbers of 64
bits. -/
def Fits : TextBuffer → List Call → Prop
  | b, [] => b.size < 2 ^ 64
  | b, c :: rest => b.size < 2 ^ 64 ∧ Fits (c.after b) rest

/-- Whether the texts stay within memory can be decided. -/
instance decidableFits : (b : TextBuffer) → (calls : List Call) → Decidable (Fits b calls)
  | b, [] => inferInstanceAs (Decidable (b.size < 2 ^ 64))
  | b, c :: rest =>
    have := decidableFits (c.after b) rest
    inferInstanceAs (Decidable (b.size < 2 ^ 64 ∧ Fits (c.after b) rest))

/-- Calls one after the other have no fault, and answer as without checks. -/
theorem run_checkedAll (fits : Fits b calls) :
    (checkedAll calls).run b = .ok (answers b calls) (calls.foldl after b) := by
  induction calls generalizing b with
  | nil => rfl
  | cons c rest ih =>
    obtain ⟨hnow, hlater⟩ := fits
    have hrest := ih hlater
    have hcall : (tryCatch (Except.ok <$> c.checked) fun
        | .refused e => return .error e
        | .fault f => throw (.fault f) : Checked (Except BufferError Answer)).run b =
          .ok ((c.effect b).map Prod.fst) (c.after b) := by
      have hchecked : c.checked b = Checked.ended b (c.effect b) := run_checked hnow c
      simp only [EStateM.run, tryCatch, tryCatchThe, MonadExceptOf.tryCatch, EStateM.tryCatch,
        Functor.map, EStateM.map, hchecked, after]
      cases c.effect b <;> rfl
    simp only [checkedAll, EStateM.run_bind, hcall, hrest, EStateM.run_pure]
    rfl

/-- The edits that a call makes if it is not refused. -/
def edits : Call → Nat
  | insert _ _ | delete _ => 1
  | replace _ _ => 2
  | _ => 0

/-- A call that is not refused counts its edits. -/
theorem version_of_effect {a : Answer} {b' : TextBuffer} {c : Call} (h : c.effect b = .ok (a, b')) :
    b'.version = b.version + c.edits := by
  cases c with
  | insert index s =>
    obtain ⟨b'', hinsert, heq⟩ := exists_of_map_eq_ok h
    rw [TextBuffer.insert] at hinsert
    split at hinsert
    · cases hinsert
    · obtain rfl := Except.ok.inj hinsert
      obtain rfl : _ = b' := congrArg Prod.snd heq
      rfl
  | delete range =>
    obtain ⟨⟨taken, b''⟩, hdelete, heq⟩ := exists_of_map_eq_ok h
    obtain rfl : b'' = b' := congrArg Prod.snd heq
    exact ((TextBuffer.exact_delete range).spliced b taken b'' hdelete).2
  | replace range s =>
    obtain ⟨⟨taken, b''⟩, hreplace, heq⟩ := exists_of_map_eq_ok h
    obtain rfl : b'' = b' := congrArg Prod.snd heq
    exact ((TextBuffer.exact_replace range s).spliced b taken b'' hreplace).2
  | indexOfUtf16 p => exact congrArg (fun r => r.2.version) (Except.ok.inj h).symm
  | line _ | lineLength _ | slice _ | position _ | utf16Position _ | tokenAt _ =>
    obtain ⟨_, -, heq⟩ := exists_of_map_eq_ok h
    exact congrArg (fun r => r.2.version) heq.symm

/-- A call raises the version by no more than its edits. -/
theorem version_after_le (b : TextBuffer) (c : Call) : (c.after b).version ≤ b.version + c.edits := by
  unfold after
  split
  · rename_i h
    exact Nat.le_of_eq (version_of_effect h)
  · exact Nat.le_add_right _ _

/-- Several calls raise it by no more than all their edits. -/
theorem version_foldl_after_le (b : TextBuffer) (calls : List Call) :
    (calls.foldl after b).version ≤ b.version + (calls.map edits).sum := by
  induction calls generalizing b with
  | nil => exact Nat.le_refl _
  | cons c rest ih =>
    have hnow := version_after_le b c
    have hlater := ih (c.after b)
    rw [List.foldl_cons, List.map_cons, List.sum_cons]
    omega

/-- The text at the end fits as well. -/
theorem Fits.last (fits : Fits b calls) : (calls.foldl after b).size < 2 ^ 64 := by
  induction calls generalizing b with
  | nil => exact fits
  | cons c rest ih => exact ih fits.2

/-- **No call accesses a text outside its bounds**, and no offset overflows, whatever the numbers of
the calls are. Any calls one after the other have no fault: they answer and change what the methods
do without checks. The next call, whichever it is, is refused exactly with the error that its
numbers call for, and leaves the buffer as it is, or it has an answer. A buffer counts at most the
edits of the calls that were made. -/
theorem calls_in_bounds (s : String) (calls : List Call) (fits : Fits (.ofString s) calls) :
    ∃ b, (checkedAll calls).run (.ofString s) = .ok (answers (.ofString s) calls) b ∧
      b = calls.foldl after (.ofString s) ∧
      b.version ≤ (calls.map edits).sum ∧
      ∀ c : Call,
        (∀ e, c.refusal b = some e → c.effect b = .error e ∧ c.checked.run b = .error (.refused e) b) ∧
        (c.refusal b = none → ∃ a b', c.effect b = .ok (a, b') ∧ c.checked.run b = .ok a b') := by
  refine ⟨_, run_checkedAll fits, rfl, ?_, fun c => ⟨fun e he => ?_, fun hnone => ?_⟩⟩
  · have h := version_foldl_after_le (.ofString s) calls
    rwa [TextBuffer.ofString, Nat.zero_add] at h
  · have herror := (effect_eq_error_iff c).2 he
    refine ⟨herror, ?_⟩
    rw [run_checked fits.last, herror]
    rfl
  · cases heffect : c.effect (calls.foldl after (.ofString s)) with
    | error e => rw [(effect_eq_error_iff c).1 heffect] at hnone; cases hnone
    | ok r =>
      refine ⟨r.1, r.2, rfl, ?_⟩
      rw [run_checked fits.last, heffect]
      rfl

/-- Once the break is cut out of a text, the greatest numbers there are are refused or cut down. -/
theorem calls_in_bounds_greatest_numbers :
    Fits (.ofString "a𝄞\r\nb") [.delete ⟨2, 4⟩] ∧
      ∃ b, (checkedAll [.delete ⟨2, 4⟩]).run (.ofString "a𝄞\r\nb") =
          .ok [.ok (.text ['\r', '\n'])] b ∧
        (tokenAt 18446744073709551615).checked.run b =
          .error (.refused (.invalidCharIndex 18446744073709551615)) b ∧
        (replace ⟨18446744073709551615, 0⟩ []).checked.run b =
          .error (.refused (.invalidRange ⟨18446744073709551615, 0⟩)) b ∧
        ∃ a b', (indexOfUtf16 ⟨0, 18446744073709551615⟩).checked.run b = .ok a b' := by
  have fits : Fits (.ofString "a𝄞\r\nb") [.delete ⟨2, 4⟩] := by decide
  obtain ⟨b, hrun, rfl, -, hcalls⟩ := calls_in_bounds _ _ fits
  refine ⟨fits, _, hrun, ((hcalls _).1 _ rfl).2, ((hcalls _).1 _ rfl).2, ?_⟩
  obtain ⟨a, b', -, hanswer⟩ := (hcalls (.indexOfUtf16 ⟨0, 18446744073709551615⟩)).2 rfl
  exact ⟨a, b', hanswer⟩

end Call

end AnnotationBridge.Text
