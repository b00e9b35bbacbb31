import AnnotationBridge.Text.Buffer

/-!
# Edits of a text

An edit puts a text in the place of a range. It happens where the buffer is, so an edit of several
steps that failed after its first step would leave a buffer that nobody asked for. No edit does: of
the steps of `replace` only the first one can fail.

* `atomically`: what a change does in place if it leaves the state alone where it fails.
* `Text.Spliced`: a text with a range of it exchanged, said without offsets into the new text.
  `Text.Spliced.back`: the exchange the other way round.
* `Text.TextBuffer.replace_of_spliced`, `Text.TextBuffer.delete_of_spliced`,
  `Text.TextBuffer.insert_of_spliced`: each edit exchanges a range.
* `Text.BufferEdit`: the edits step by step in place.
* `Text.ExactEdit`, `Text.TextBuffer.edits_exact`: what holds of every edit.
-/

namespace AnnotationBridge

/-! ### Changes in place -/

/-- A change in place that leaves the state as it was where it fails. -/
def atomically {ε σ α : Type} (change : σ → Except ε (α × σ)) : EStateM ε σ α := fun s =>
  match change s with
  | .ok (a, s') => .ok a s'
  | .error e => .error e s

section Atomically

variable {ε σ α : Type} {change : σ → Except ε (α × σ)} {s s' : σ} {a : α} {e : ε}

/-- A change that succeeds is done. -/
theorem run_atomically_of_ok (h : change s = .ok (a, s')) :
    (atomically change).run s = .ok a s' := by
  simp only [EStateM.run, atomically, h]

/-- A change that fails leaves the state alone. -/
theorem run_atomically_of_error (h : change s = .error e) :
    (atomically change).run s = .error e s := by
  simp only [EStateM.run, atomically, h]

/-- What does in place what a change says, and leaves no trace where that is an error, is atomic. -/
theorem eq_atomically {program : EStateM ε σ α}
    (hok : ∀ s a s', change s = .ok (a, s') → program.run s = .ok a s')
    (herror : ∀ s e, change s = .error e → program.run s = .error e s) :
    program = atomically change := by
  funext s
  cases h : change s with
  | ok r => exact (hok s r.1 r.2 h).trans (run_atomically_of_ok h).symm
  | error e => exact (herror s e h).trans (run_atomically_of_error h).symm

end Atomically

namespace Text

variable {text text' : List Char} {range : Span} {taken taken' s : List Char} {index steps : Nat}

/-! ### Exchanging a range -/

/-- The text `text'` is `text` with `s` in the place of a range, in which `taken` stood. What is
before the range and after it is in both. -/
def Spliced (text : List Char) (range : Span) (taken s text' : List Char) : Prop :=
  ∃ before after, text = before ++ taken ++ after ∧ text' = before ++ s ++ after ∧
    before.length = range.start ∧ before.length + taken.length = range.stop

/-- Only a range that is ordered and inside the text can be exchanged. -/
theorem Spliced.bounds (h : Spliced text range taken s text') :
    range.start ≤ range.stop ∧ range.stop ≤ text.length := by
  obtain ⟨before, after, rfl, -, hstart, hstop⟩ := h
  simp only [List.length_append]
  omega

/-- Each range that is ordered and inside the text can be exchanged. -/
theorem exists_spliced (s : List Char) (hordered : range.start ≤ range.stop)
    (hinside : range.stop ≤ text.length) : ∃ taken text', Spliced text range taken s text' := by
  refine ⟨(text.drop range.start).take (range.stop - range.start), _, text.take range.start,
    text.drop range.stop, ?_, rfl, ?_, ?_⟩
  · have hrest : (text.drop range.start).drop (range.stop - range.start) = text.drop range.stop := by
      rw [List.drop_drop, Nat.add_sub_cancel' hordered]
    rw [List.append_assoc, ← hrest, List.take_append_drop, List.take_append_drop]
  · rw [List.length_take]
    omega
  · rw [List.length_take, List.length_take, List.length_drop]
    omega

/-- **An exchange can be taken back**: what was put in is exchanged for what was taken. -/
theorem Spliced.back (h : Spliced text range taken s text') :
    Spliced text' ⟨range.start, range.start + s.length⟩ s taken text := by
  obtain ⟨before, after, htext, htext', hstart, -⟩ := h
  exact ⟨before, after, htext', htext, hstart, by rw [hstart]⟩

/-- The range that is exchanged is as long as what is taken out. -/
theorem Spliced.start_add_length (h : Spliced text range taken s text') :
    range.start + taken.length = range.stop := by
  obtain ⟨before, after, -, -, hstart, hstop⟩ := h
  rw [← hstart, hstop]

/-- An exchange is a removal and then an insertion at the start of the range. -/
theorem Spliced.split (h : Spliced text range taken s text') :
    ∃ rest, Spliced text range taken [] rest ∧
      Spliced rest ⟨range.start, range.start⟩ [] s text' := by
  obtain ⟨before, after, htext, htext', hstart, hstop⟩ := h
  refine ⟨before ++ after, ⟨before, after, htext, by simp, hstart, hstop⟩,
    ⟨before, after, by simp, htext', hstart, by simpa using hstart⟩⟩

/-- The characters of an exchanged range. -/
theorem Spliced.taken_eq (h : Spliced text range taken s text') :
    (text.drop range.start).take (range.stop - range.start) = taken := by
  obtain ⟨before, after, rfl, -, hstart, hstop⟩ := h
  rw [List.append_assoc, ← hstart, List.drop_left, ← hstop, Nat.add_sub_cancel_left, List.take_left]

/-- The text after an exchange. -/
theorem Spliced.text_eq (h : Spliced text range taken s text') :
    text.take range.start ++ s ++ text.drop range.stop = text' := by
  obtain ⟨before, after, rfl, rfl, hstart, hstop⟩ := h
  rw [← hstop, ← List.length_append, List.drop_left, List.append_assoc before, ← hstart,
    List.take_left]

/-! ### What each edit does -/

namespace TextBuffer

variable {b : TextBuffer}

/-- What is taken out is the text of the range. -/
theorem slice_of_spliced (h : Spliced b.text range taken s text') : b.slice range = .ok taken := by
  obtain ⟨hordered, hinside⟩ := h.bounds
  change range.stop ≤ b.size at hinside
  rw [slice, if_neg (Nat.not_lt.2 hordered), if_neg (Nat.not_lt.2 hinside), h.taken_eq]

/-- An inverted range is refused, also if it reaches past the end. -/
theorem slice_of_inverted (b : TextBuffer) (hinverted : range.stop < range.start) :
    b.slice range = .error (.invalidRange range) := by
  rw [slice, if_pos hinverted]

/-- An ordered range that reaches past the end is refused. -/
theorem slice_of_outside (hordered : range.start ≤ range.stop) (houtside : b.size < range.stop) :
    b.slice range = .error (.invalidCharIndex range.stop) := by
  rw [slice, if_neg (Nat.not_lt.2 hordered), if_pos houtside]

/-- Reading no character is refused past the end only. -/
theorem outside_of_slice_empty {e : BufferError} (h : b.slice ⟨index, index⟩ = .error e) :
    b.size < index ∧ e = .invalidCharIndex index := by
  rw [slice, if_neg (Nat.lt_irrefl _)] at h
  split at h
  · exact ⟨by assumption, (Except.error.inj h).symm⟩
  · cases h

/-- To delete a range is to exchange it for nothing. -/
theorem delete_of_spliced (h : Spliced b.text range taken [] text') :
    b.delete range = .ok (taken, ⟨text', b.version + 1⟩) := by
  have htext := h.text_eq
  rw [List.append_nil] at htext
  simp only [delete, slice_of_spliced h, bind, Except.bind, htext]

/-- A range that is not in the text cannot be deleted. -/
theorem delete_of_slice_eq_error {e : BufferError} (h : b.slice range = .error e) :
    b.delete range = .error e := by
  simp only [delete, h, bind, Except.bind]

/-- To insert a text is to exchange an empty range for it. -/
theorem insert_of_spliced (h : Spliced b.text ⟨index, index⟩ [] s text') :
    b.insert index s = .ok ⟨text', b.version + 1⟩ := by
  have hinside : index ≤ b.size := h.bounds.2
  rw [insert, if_neg (Nat.not_lt.2 hinside), h.text_eq]

/-- Nothing can be inserted after the end of the text. -/
theorem insert_of_outside (h : b.size < index) :
    b.insert index s = .error (.invalidCharIndex index) := by
  rw [insert, if_pos h]

/-- **A replacement exchanges the range.** Once the range is taken out, putting the text in does not
fail. -/
theorem replace_of_spliced (h : Spliced b.text range taken s text') :
    b.replace range s = .ok (taken, ⟨text', b.version + 2⟩) := by
  obtain ⟨rest, hdelete, hinsert⟩ := h.split
  have hinserted : insert ⟨rest, b.version + 1⟩ range.start s = .ok ⟨text', b.version + 2⟩ :=
    insert_of_spliced hinsert
  simp only [replace, delete_of_spliced hdelete, bind, Except.bind, hinserted]

/-- A range that is not in the text cannot be replaced. -/
theorem replace_of_slice_eq_error {e : BufferError} (h : b.slice range = .error e) :
    b.replace range s = .error e := by
  simp only [replace, delete_of_slice_eq_error h, bind, Except.bind]

end TextBuffer

/-! ### Edits in place -/

/-- An edit of a buffer where it is. What was changed before a failure stays changed. -/
abbrev BufferEdit (α : Type) := EStateM BufferError TextBuffer α

namespace BufferEdit

open TextBuffer

variable {b : TextBuffer}

/-- Puts `s` in front of the character at `index`. -/
def insert (index : Nat) (s : List Char) : BufferEdit Unit := do
  if (← get).size < index then throw (.invalidCharIndex index)
  modify fun b => { b with text := b.text.take index ++ s ++ b.text.drop index }
  modify fun b => { b with version := b.version + 1 }

/-- Takes a range out of the text; answers what was taken. -/
def delete (range : Span) : BufferEdit (List Char) := do
  let taken ← MonadExcept.ofExcept ((← get).slice range)
  modify fun b => { b with text := b.text.take range.start ++ b.text.drop range.stop }
  modify fun b => { b with version := b.version + 1 }
  return taken

/-- Puts `s` in the place of a range: a deletion and, in the text that is left, an insertion. -/
def replace (range : Span) (s : List Char) : BufferEdit (List Char) := do
  let taken ← delete range
  insert range.start s
  return taken

/-- An insertion in place exchanges an empty range for the text. -/
theorem run_insert_of_spliced (h : Spliced b.text ⟨index, index⟩ [] s text') :
    (insert index s).run b = .ok () ⟨text', b.version + 1⟩ := by
  have hinside : ¬ b.size < index := Nat.not_lt.2 h.bounds.2
  simp only [insert, EStateM.run_bind, EStateM.run_get, if_neg hinside,
    EStateM.run_modify, h.text_eq]

/-- An insertion after the end fails in place and changes nothing. -/
theorem run_insert_of_outside (h : b.size < index) :
    (insert index s).run b = .error (.invalidCharIndex index) b := by
  simp only [insert, EStateM.run_bind, EStateM.run_get, if_pos h]
  rfl

/-- A deletion in place exchanges the range for nothing. -/
theorem run_delete_of_spliced (h : Spliced b.text range taken [] text') :
    (delete range).run b = .ok taken ⟨text', b.version + 1⟩ := by
  have htext := h.text_eq
  rw [List.append_nil] at htext
  simp only [delete, EStateM.run_bind, EStateM.run_get, slice_of_spliced h, MonadExcept.ofExcept,
    EStateM.run_pure, EStateM.run_modify, htext]

/-- A deletion outside the text fails in place and changes nothing. -/
theorem run_delete_of_slice_eq_error {e : BufferError} (h : b.slice range = .error e) :
    (delete range).run b = .error e b := by
  simp only [delete, EStateM.run_bind, EStateM.run_get, h, MonadExcept.ofExcept]
  rfl

/-- A replacement in place exchanges the range for the text, in two steps. -/
theorem run_replace_of_spliced (h : Spliced b.text range taken s text') :
    (replace range s).run b = .ok taken ⟨text', b.version + 2⟩ := by
  obtain ⟨rest, hdelete, hinsert⟩ := h.split
  have hinserted : (insert range.start s).run ⟨rest, b.version + 1⟩ = .ok () ⟨text', b.version + 2⟩ :=
    run_insert_of_spliced hinsert
  simp only [replace, EStateM.run_bind, run_delete_of_spliced hdelete, hinserted, EStateM.run_pure]

/-- A replacement outside the text fails in place and changes nothing. -/
theorem run_replace_of_slice_eq_error {e : BufferError} (h : b.slice range = .error e) :
    (replace range s).run b = .error e b := by
  simp only [replace, EStateM.run_bind, run_delete_of_slice_eq_error h]

end BufferEdit

/-! ### The law of an edit -/

/-- What holds of an edit that puts `s` in the place of a range and counts as `steps` edits.
`attempt` says what it finds in the range and what it makes of a buffer, `inPlace` does it where the
buffer is, and `undo` takes it back when it is told what was in the range. -/
structure ExactEdit (range : Span) (s : List Char) (steps : Nat)
    (attempt : TextBuffer → Except BufferError (List Char × TextBuffer))
    (inPlace : BufferEdit (List Char))
    (undo : List Char → TextBuffer → Except BufferError (List Char × TextBuffer)) : Prop where
  succeeds_iff : ∀ b, (∃ taken b', attempt b = .ok (taken, b')) ↔
    range.start ≤ range.stop ∧ range.stop ≤ b.size
  spliced : ∀ b taken b', attempt b = .ok (taken, b') →
    Spliced b.text range taken s b'.text ∧ b'.version = b.version + steps
  undone : ∀ b taken b', attempt b = .ok (taken, b') →
    ∃ b'', undo taken b' = .ok (s, b'') ∧ b''.text = b.text
  inverted : ∀ b, range.stop < range.start → attempt b = .error (.invalidRange range)
  outside : ∀ b, range.start ≤ range.stop → b.size < range.stop →
    attempt b = .error (.invalidCharIndex range.stop)
  /-- Where the edit fails it leaves no trace. -/
  atomic : inPlace = atomically attempt

/-- A range of a text can be exchanged, or reading it is refused. -/
theorem spliced_or_refused (b : TextBuffer) (range : Span) (s : List Char) :
    (∃ taken text', Spliced b.text range taken s text') ∨ ∃ e, b.slice range = .error e := by
  by_cases hinverted : range.stop < range.start
  · exact .inr ⟨_, b.slice_of_inverted hinverted⟩
  · have hordered := Nat.not_lt.1 hinverted
    by_cases houtside : b.size < range.stop
    · exact .inr ⟨_, TextBuffer.slice_of_outside hordered houtside⟩
    · exact .inl (exists_spliced s hordered (Nat.not_lt.1 houtside))

/-- **The law holds of each edit that exchanges its range** where it can be exchanged, fails as the
reading of the range does, and does both in place. -/
theorem ExactEdit.of_spliced {attempt : TextBuffer → Except BufferError (List Char × TextBuffer)}
    {inPlace : BufferEdit (List Char)}
    {undo : List Char → TextBuffer → Except BufferError (List Char × TextBuffer)}
    (hok : ∀ b taken text', Spliced b.text range taken s text' →
      attempt b = .ok (taken, ⟨text', b.version + steps⟩) ∧
        inPlace.run b = .ok taken ⟨text', b.version + steps⟩)
    (herror : ∀ b e, b.slice range = .error e →
      attempt b = .error e ∧ inPlace.run b = .error e b)
    (hundo : ∀ b taken text', range.start + taken.length = range.stop →
      Spliced b.text ⟨range.start, range.start + s.length⟩ s taken text' →
        undo taken b = .ok (s, ⟨text', b.version + steps⟩)) :
    ExactEdit range s steps attempt inPlace undo := by
  -- a successful attempt is one on a range that can be exchanged
  have hspliced : ∀ b taken b', attempt b = .ok (taken, b') →
      Spliced b.text range taken s b'.text ∧ b'.version = b.version + steps := by
    intro b taken b' hattempt
    rcases spliced_or_refused b range s with ⟨taken', text', h⟩ | ⟨e, h⟩
    · rw [(hok b taken' text' h).1] at hattempt
      cases hattempt
      exact ⟨h, rfl⟩
    · rw [(herror b e h).1] at hattempt
      cases hattempt
  refine ⟨?_, hspliced, ?_, ?_, ?_, ?_⟩
  · intro b
    constructor
    · rintro ⟨taken, b', hattempt⟩
      exact (hspliced b taken b' hattempt).1.bounds
    · rintro ⟨hordered, hinside⟩
      obtain ⟨taken, text', h⟩ := exists_spliced s hordered hinside
      exact ⟨taken, _, (hok b taken text' h).1⟩
  · intro b taken b' hattempt
    obtain ⟨h, -⟩ := hspliced b taken b' hattempt
    exact ⟨_, hundo b' taken b.text h.start_add_length h.back, rfl⟩
  · intro b hinverted
    exact (herror b _ (b.slice_of_inverted hinverted)).1
  · intro b hordered houtside
    exact (herror b _ (TextBuffer.slice_of_outside hordered houtside)).1
  · apply eq_atomically
    · intro b taken b' hattempt
      obtain ⟨h, hversion⟩ := hspliced b taken b' hattempt
      have hbuffer : b' = ⟨b'.text, b.version + steps⟩ := by rw [← hversion]
      rw [hbuffer]
      exact (hok b taken b'.text h).2
    · intro b e hattempt
      rcases spliced_or_refused b range s with ⟨taken, text', h⟩ | ⟨e', h⟩
      · rw [(hok b taken text' h).1] at hattempt
        cases hattempt
      · rw [(herror b e' h).1] at hattempt
        obtain rfl := Except.error.inj hattempt
        exact (herror b e' h).2

namespace TextBuffer

/-- A replacement is exact; it is undone by the replacement of the new range by the old text. -/
theorem exact_replace (range : Span) (s : List Char) :
    ExactEdit range s 2 (·.replace range s) (BufferEdit.replace range s)
      fun taken => (·.replace ⟨range.start, range.start + s.length⟩ taken) := by
  apply ExactEdit.of_spliced
  · intro b taken text' h
    exact ⟨replace_of_spliced h, BufferEdit.run_replace_of_spliced h⟩
  · intro b e h
    exact ⟨replace_of_slice_eq_error h, BufferEdit.run_replace_of_slice_eq_error h⟩
  · intro b taken text' _ h
    exact replace_of_spliced h

/-- An insertion exchanges an empty range. -/
theorem exact_insert (index : Nat) (s : List Char) :
    ExactEdit ⟨index, index⟩ s 1 (fun b => (b.insert index s).map ([], ·))
      (do BufferEdit.insert index s; return [])
      fun _ => (·.delete ⟨index, index + s.length⟩) := by
  apply ExactEdit.of_spliced
  · intro b taken text' h
    obtain rfl : taken = [] := by simpa using h.start_add_length
    constructor
    · rw [insert_of_spliced h]
      rfl
    · simp only [EStateM.run_bind, BufferEdit.run_insert_of_spliced h, EStateM.run_pure]
  · intro b e h
    obtain ⟨houtside, rfl⟩ := outside_of_slice_empty h
    constructor
    · rw [insert_of_outside houtside]
      rfl
    · simp only [EStateM.run_bind, BufferEdit.run_insert_of_outside houtside]
  · intro b taken text' hlength h
    obtain rfl : taken = [] := by simpa using hlength
    exact delete_of_spliced h

/-- A deletion puts nothing in the place of its range. -/
theorem exact_delete (range : Span) :
    ExactEdit range [] 1 (·.delete range) (BufferEdit.delete range)
      fun taken b => (b.insert range.start taken).map ([], ·) := by
  apply ExactEdit.of_spliced
  · intro b taken text' h
    exact ⟨delete_of_spliced h, BufferEdit.run_delete_of_spliced h⟩
  · intro b e h
    exact ⟨delete_of_slice_eq_error h, BufferEdit.run_delete_of_slice_eq_error h⟩
  · intro b taken text' _ h
    rw [insert_of_spliced h]
    rfl

/-- **Edits are exact, atomic and reversible.** A replacement, an insertion and a deletion succeed
exactly on the ranges that are ordered and inside the text. Each answers what was in the range,
leaves what is around it, counts as two edits or as one, and is taken back by its opposite. It fails
in place without a trace, and an inverted range is reported before one that reaches past the end. -/
theorem edits_exact (range : Span) (index : Nat) (s : List Char) :
    ExactEdit range s 2 (·.replace range s) (BufferEdit.replace range s)
        (fun taken => (·.replace ⟨range.start, range.start + s.length⟩ taken)) ∧
      ExactEdit ⟨index, index⟩ s 1 (fun b => (b.insert index s).map ([], ·))
        (do BufferEdit.insert index s; return [])
        (fun _ => (·.delete ⟨index, index + s.length⟩)) ∧
      ExactEdit range [] 1 (·.delete range) (BufferEdit.delete range)
        (fun taken b => (b.insert range.start taken).map ([], ·)) :=
  ⟨exact_replace range s, exact_insert index s, exact_delete range⟩

/-- A replacement that cuts a break in two is taken back, and one in a range that is inverted and
past the end leaves the buffer alone. -/
theorem edits_exact_inside_break :
    (∃ b, (ofString "ab\r\ncd").replace ⟨1, 3⟩ "xyz".toList = .ok ("b\r".toList, b) ∧
        b.text = "axyz\ncd".toList ∧ b.version = 2 ∧
        ∃ b', b.replace ⟨1, 4⟩ "b\r".toList = .ok ("xyz".toList, b') ∧
          b'.text = "ab\r\ncd".toList) ∧
      (BufferEdit.replace ⟨9, 7⟩ "xyz".toList).run (ofString "ab\r\ncd") =
        .error (.invalidRange ⟨9, 7⟩) (ofString "ab\r\ncd") := by
  constructor
  · obtain ⟨exact, -, -⟩ := edits_exact ⟨1, 3⟩ 0 "xyz".toList
    have hdone : (ofString "ab\r\ncd").replace ⟨1, 3⟩ "xyz".toList =
        .ok ("b\r".toList, ⟨"axyz\ncd".toList, 2⟩) := rfl
    obtain ⟨b', hundone, htext⟩ := exact.undone _ _ _ hdone
    exact ⟨_, hdone, rfl, rfl, b', hundone, htext⟩
  · obtain ⟨exact, -, -⟩ := edits_exact ⟨9, 7⟩ 0 "xyz".toList
    rw [exact.atomic]
    exact run_atomically_of_error (exact.inverted _ (by decide))

end TextBuffer

end Text

end AnnotationBridge
