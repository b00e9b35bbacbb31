import AnnotationBridge.Proofs.Editing
import AnnotationBridge.Proofs.OpenDocuments

/-!
# Calls of a workbench, done in place

A call changes the documents, the editors and the stream of events one after the other, and steps in
between may fail. Done in place like that, it still leaves the workbench alone where it fails; and
where it succeeds it announces itself once.

* `WorkbenchChange`, `WorkbenchCall.perform`: the calls step by step in place.
  `Workbench.perform_cases`: they are done as a whole or not at all.
* `WorkbenchCall.Possible`, `Workbench.exists_run_perform_iff`: which calls succeed.
* `WorkbenchCall.event`, `Workbench.emitted_attempt`: how a call announces itself.
* `Workbench.performAll`, `Workbench.succeeded`: calls one after the other, and those that succeed.
* `Workbench.edited_of_ok`, `Workbench.openDocument_on_open`: what an edit changes, and what opening
  an editor on a URI that is open leaves.
* `Workbench.calls_announced`: all of it, after any calls.
-/

namespace AnnotationBridge

open Text

/-! ### What a call does -/

namespace WorkbenchCall

/-- How a call announces itself. -/
def event : WorkbenchCall → Event
  | .openDocument editor _ | .openFile _ editor _ _ => .opened editor
  | .close editor => .closed editor
  | .edit id _ _ => .changed id

/-- Whether a call can be done: the file is a document, the editor is open, or the document is
stored and has the range. -/
def Possible (w : Workbench) : WorkbenchCall → Prop
  | .openDocument _ _ => True
  | .openFile files _ id path => ∃ d, Document.ofFile files id (w.workspace.resolve path) = .ok d
  | .close editor => w.isOpen editor = true
  | .edit id range _ =>
    ∃ d, w.document id = .ok d ∧ range.start ≤ range.stop ∧ range.stop ≤ d.buffer.size

/-- Whether a call opens an editor with a document at hand, which may be that of a file. -/
def Opens (w : Workbench) (editor : EditorId) (d : Document) : WorkbenchCall → Prop
  | .openDocument editor' d' => editor' = editor ∧ d' = d
  | .openFile files editor' id path =>
    editor' = editor ∧ Document.ofFile files id (w.workspace.resolve path) = .ok d
  | .close _ | .edit _ _ _ => False

end WorkbenchCall

namespace Workbench

variable {w w' : Workbench} {c : WorkbenchCall} {editor e : EditorId} {d : Document}
  {id id' : DocumentId} {range : Span} {text : List Char} {err : AccessError}

/-- The workbench after a call, or why the call is refused. -/
def attempt (w : Workbench) : WorkbenchCall → Except AccessError Workbench
  | .openDocument editor d => .ok (w.openDocument editor d)
  | .openFile files editor id path => w.openFile files editor id path
  | .close editor => w.close editor
  | .edit id range text => w.edit id range text

/-- A call that fails leaves the workbench alone. -/
theorem call_eq (w : Workbench) (c : WorkbenchCall) : w.call c = (w.attempt c).toOption.getD w := by
  cases c <;> rfl

end Workbench

/-! ### Calls in place -/

/-- A change of a workbench where it is. What was changed before a failure stays changed. -/
abbrev WorkbenchChange (α : Type) := EStateM AccessError Workbench α

namespace WorkbenchChange

/-- Writes a document under an identifier. A document that is there already stays where it is. -/
def store (id : DocumentId) (d : Document) : WorkbenchChange Unit :=
  modify fun w =>
    if w.documents.get? id = some d then w else { w with documents := w.documents.insert id d }

/-- Edits the text of a stored document where it is stored: what an edit leaves that fails is stored
too. -/
def editStored (id : DocumentId) (d : Document) {α : Type} (edit : BufferEdit α) : WorkbenchChange α :=
  match edit.run d.buffer with
  | .ok a buffer => do
    store id { d with buffer := buffer }
    return a
  | .error e buffer => do
    store id { d with buffer := buffer }
    throw (.buffer e)

/-- Opens an editor on a document, or on the open document of the same URI if there is one. -/
def openDocument (editor : EditorId) (d : Document) : WorkbenchChange Unit := do
  match (← get).findByUri d.uri with
  | some id => modify fun w => { w with editors := w.editors.insert editor id }
  | none =>
    modify fun w => { w with documents := w.documents.insert d.id d }
    modify fun w => { w with editors := w.editors.insert editor d.id }
  modify (·.emit (.opened editor))

/-- Opens an editor on a file of the workspace. -/
def openFile (files : Files) (editor : EditorId) (id : DocumentId) (path : Path) :
    WorkbenchChange Unit := do
  let d ← MonadExcept.ofExcept (Document.ofFile files id ((← get).workspace.resolve path))
  openDocument editor d

/-- Closes an editor, and drops its document if no other editor shows it. The editor is taken away
before it is known whether it was there. -/
def close (editor : EditorId) : WorkbenchChange Unit := do
  let shown := (← get).editors.get? editor
  modify fun w => { w with editors := w.editors.erase editor }
  match shown with
  | none => throw (.editorNotFound editor)
  | some id =>
    if !(← get).editors.values.contains id then
      modify fun w => { w with documents := w.documents.erase id }
    modify (·.emit (.closed editor))

/-- Replaces a range of a document. -/
def edit (id : DocumentId) (range : Span) (text : List Char) : WorkbenchChange Unit := do
  let d ← MonadExcept.ofExcept ((← get).document id)
  let _ ← editStored id d (BufferEdit.replace range text)
  modify (·.emit (.changed id))

end WorkbenchChange

namespace WorkbenchCall

/-- A call, done in place. -/
def perform : WorkbenchCall → WorkbenchChange Unit
  | .openDocument editor d => WorkbenchChange.openDocument editor d
  | .openFile files editor id path => WorkbenchChange.openFile files editor id path
  | .close editor => WorkbenchChange.close editor
  | .edit id range text => WorkbenchChange.edit id range text

end WorkbenchCall

namespace WorkbenchChange

variable {w w' : Workbench} {editor : EditorId} {d : Document} {id : DocumentId} {range : Span}
  {text : List Char} {err : AccessError}

/-- Opening a document succeeds. -/
theorem run_openDocument (w : Workbench) (editor : EditorId) (d : Document) :
    (openDocument editor d).run w = .ok () (w.openDocument editor d) := by
  cases hf : w.findByUri d.uri with
  | some id =>
    simp only [openDocument, EStateM.run_bind, EStateM.run_get, hf, EStateM.run_modify,
      Workbench.openDocument_of_found hf]
  | none =>
    simp only [openDocument, EStateM.run_bind, EStateM.run_get, hf, EStateM.run_modify,
      Workbench.openDocument_of_not_found hf]

/-- Opening a file that can be read opens its document. -/
theorem run_openFile_of_ok {files : Files} {path : Path}
    (h : Document.ofFile files id (w.workspace.resolve path) = .ok d) :
    (openFile files editor id path).run w = .ok () (w.openDocument editor d) := by
  simp only [openFile, EStateM.run_bind, EStateM.run_get, h, MonadExcept.ofExcept, EStateM.run_pure,
    run_openDocument]

/-- Opening a file that cannot be read changes nothing. -/
theorem run_openFile_of_error {files : Files} {path : Path}
    (h : Document.ofFile files id (w.workspace.resolve path) = .error err) :
    (openFile files editor id path).run w = .error err w := by
  simp only [openFile, EStateM.run_bind, EStateM.run_get, h, MonadExcept.ofExcept]
  rfl

/-- Closing an editor that is open closes it. -/
theorem run_close_of_ok (h : w.close editor = .ok w') : (close editor).run w = .ok () w' := by
  obtain ⟨id, hid, rfl⟩ := Workbench.close_eq_ok h
  simp only [close, EStateM.run_bind, EStateM.run_get, EStateM.run_modify, hid]
  cases hlast : (w.editors.erase editor).values.contains id
  · simp only [Bool.not_false, if_true, EStateM.run_modify, EStateM.run_bind]
    rfl
  · simp only [Bool.not_true, Bool.false_eq_true, if_false, EStateM.run_modify]
    rfl

/-- Closing an editor that is not open changes nothing. -/
theorem run_close_of_not_shown (h : w.editors.get? editor = none) :
    (close editor).run w = .error (.editorNotFound editor) w := by
  simp only [close, EStateM.run_bind, EStateM.run_get, EStateM.run_modify, h,
    FiniteMap.erase_of_get?_eq_none h]
  rfl

/-- Storing a document that is there already changes nothing. -/
theorem run_store_of_eq (h : w.documents.get? id = some d) : (store id d).run w = .ok () w := by
  simp only [store, EStateM.run_modify, if_pos h]

/-- Storing another one replaces it. -/
theorem run_store_of_ne (h : w.documents.get? id ≠ some d) :
    (store id d).run w = .ok () { w with documents := w.documents.insert id d } := by
  simp only [store, EStateM.run_modify, if_neg h]

/-- An edit within the text stores the new text and announces it. -/
theorem run_edit_of_spliced {taken text' : List Char} (hd : w.document id = .ok d)
    (h : Spliced d.buffer.text range taken text text') :
    (edit id range text).run w = .ok () (Workbench.emit { w with
      documents := w.documents.insert id { d with buffer := ⟨text', d.buffer.version + 2⟩ } }
        (.changed id)) := by
  -- the version tells the edited document from the stored one
  have hnew : w.documents.get? id ≠
      some { d with buffer := ⟨text', d.buffer.version + 2⟩ } := by
    rw [Workbench.document_eq_ok_iff.1 hd]
    intro hsame
    have hversion : d.buffer.version = d.buffer.version + 2 :=
      congrArg (·.buffer.version) (Option.some.inj hsame)
    omega
  simp only [edit, EStateM.run_bind, EStateM.run_get, hd, MonadExcept.ofExcept, EStateM.run_pure,
    editStored, BufferEdit.run_replace_of_spliced h, run_store_of_ne hnew, EStateM.run_modify]

/-- An edit outside the text changes nothing. -/
theorem run_edit_of_refused {e : BufferError} (hd : w.document id = .ok d)
    (h : d.buffer.slice range = .error e) :
    (edit id range text).run w = .error (.buffer e) w := by
  have hstored : w.documents.get? id = some d := Workbench.document_eq_ok_iff.1 hd
  simp only [edit, EStateM.run_bind, EStateM.run_get, hd, MonadExcept.ofExcept, EStateM.run_pure,
    editStored, BufferEdit.run_replace_of_slice_eq_error h, run_store_of_eq hstored]
  rfl

/-- An edit of a document that is not open changes nothing. -/
theorem run_edit_of_unknown (hd : w.document id = .error err) :
    (edit id range text).run w = .error err w := by
  simp only [edit, EStateM.run_bind, EStateM.run_get, hd, MonadExcept.ofExcept]
  rfl

end WorkbenchChange

namespace Workbench

variable {w w' : Workbench} {c : WorkbenchCall} {cs : List WorkbenchCall} {editor e : EditorId}
  {d d' : Document} {id id' : DocumentId} {range : Span} {text : List Char} {err : AccessError}

/-! ### Which calls succeed -/

/-- A file that can be read is opened as its document. -/
theorem openFile_of_ok {files : Files} {path : Path}
    (h : Document.ofFile files id (w.workspace.resolve path) = .ok d) :
    w.openFile files editor id path = .ok (w.openDocument editor d) := by
  rw [openFile, h]
  rfl

/-- A file that cannot be read is not opened. -/
theorem openFile_of_error {files : Files} {path : Path}
    (h : Document.ofFile files id (w.workspace.resolve path) = .error err) :
    w.openFile files editor id path = .error err := by
  rw [openFile, h]
  rfl

/-- An edit within the text yields the workbench with the new text. -/
theorem edit_of_spliced {taken text' : List Char} (hd : w.document id = .ok d)
    (h : Spliced d.buffer.text range taken text text') :
    w.edit id range text = .ok (emit { w with
      documents := w.documents.insert id { d with buffer := ⟨text', d.buffer.version + 2⟩ } }
        (.changed id)) := by
  simp only [edit, hd, TextBuffer.replace_of_spliced h, bind, Except.bind, Except.mapError]

/-- An edit outside the text is refused. -/
theorem edit_of_refused {e : BufferError} (hd : w.document id = .ok d)
    (h : d.buffer.slice range = .error e) : w.edit id range text = .error (.buffer e) := by
  simp only [edit, hd, TextBuffer.replace_of_slice_eq_error h, bind, Except.bind, Except.mapError]

/-- An edit of a document that is not open is refused. -/
theorem edit_of_unknown (hd : w.document id = .error err) : w.edit id range text = .error err := by
  simp only [edit, hd, bind, Except.bind]

/-- An editor that is not open cannot be closed. -/
theorem close_of_not_shown (h : w.editors.get? editor = none) :
    w.close editor = .error (.editorNotFound editor) := by
  rw [close, h]

/-- **A call is done in place as a whole or not at all.** It succeeds if it is possible. -/
theorem perform_cases (w : Workbench) (c : WorkbenchCall) :
    (c.Possible w ∧ ∃ w', w.attempt c = .ok w' ∧ c.perform.run w = .ok () w') ∨
      (¬ c.Possible w ∧ ∃ err, w.attempt c = .error err ∧ c.perform.run w = .error err w) := by
  cases c with
  | openDocument editor d =>
    exact .inl ⟨trivial, _, rfl, WorkbenchChange.run_openDocument w editor d⟩
  | openFile files editor id path =>
    cases hd : Document.ofFile files id (w.workspace.resolve path) with
    | ok d =>
      exact .inl ⟨⟨d, hd⟩, _, openFile_of_ok hd, WorkbenchChange.run_openFile_of_ok hd⟩
    | error err =>
      refine .inr ⟨?_, err, openFile_of_error hd, WorkbenchChange.run_openFile_of_error hd⟩
      rintro ⟨d, hd'⟩
      rw [hd] at hd'
      cases hd'
  | close editor =>
    cases hid : w.editors.get? editor with
    | some id =>
      obtain ⟨w', hclose⟩ : ∃ w', w.close editor = .ok w' := ⟨_, by rw [close, hid]⟩
      exact .inl ⟨(emitted_close hclose).2, w', hclose, WorkbenchChange.run_close_of_ok hclose⟩
    | none =>
      refine .inr ⟨?_, _, close_of_not_shown hid, WorkbenchChange.run_close_of_not_shown hid⟩
      rw [WorkbenchCall.Possible, isOpen, FiniteMap.contains, hid]
      exact Bool.false_ne_true
  | edit id range text =>
    cases hd : w.document id with
    | error err =>
      refine .inr ⟨?_, err, edit_of_unknown hd, WorkbenchChange.run_edit_of_unknown hd⟩
      rintro ⟨d, hd', -⟩
      rw [hd] at hd'
      cases hd'
    | ok d =>
      rcases spliced_or_refused d.buffer range text with ⟨taken, text', h⟩ | ⟨e, h⟩
      · exact .inl ⟨⟨d, hd, h.bounds⟩, _, edit_of_spliced hd h,
          WorkbenchChange.run_edit_of_spliced hd h⟩
      · refine .inr ⟨?_, _, edit_of_refused hd h, WorkbenchChange.run_edit_of_refused hd h⟩
        rintro ⟨d', hd', hordered, hinside⟩
        obtain rfl := Except.ok.inj (hd.symm.trans hd')
        obtain ⟨taken, text', hspliced⟩ := exists_spliced text hordered hinside
        rw [TextBuffer.slice_of_spliced hspliced] at h
        cases h

/-- A call that is done in place succeeds exactly if it succeeds as a whole, with the same result.
-/
theorem run_perform_eq_ok_iff : c.perform.run w = .ok () w' ↔ w.attempt c = .ok w' := by
  rcases w.perform_cases c with ⟨-, w'', hattempt, hrun⟩ | ⟨-, err, hattempt, hrun⟩
  · rw [hrun, hattempt]
    simp
  · rw [hrun, hattempt]
    simp

/-- A call that fails in place fails as a whole, and has changed nothing. -/
theorem run_perform_eq_error (h : c.perform.run w = .error err w') :
    w.attempt c = .error err ∧ w' = w := by
  rcases w.perform_cases c with ⟨-, w'', -, hrun⟩ | ⟨-, err', hattempt, hrun⟩
  · rw [hrun] at h
    cases h
  · rw [hrun] at h
    cases h
    exact ⟨hattempt, rfl⟩

/-- A call that is done in place succeeds exactly if it is possible. -/
theorem exists_run_perform_iff : (∃ w', c.perform.run w = .ok () w') ↔ c.Possible w := by
  rcases w.perform_cases c with ⟨hpossible, w', -, hrun⟩ | ⟨himpossible, err, -, hrun⟩
  · exact iff_of_true ⟨w', hrun⟩ hpossible
  · refine iff_of_false ?_ himpossible
    rintro ⟨w', hrun'⟩
    rw [hrun] at hrun'
    cases hrun'

/-! ### What a call announces -/

/-- A call that opens an editor opens it on the document at hand. -/
theorem attempt_of_opens (h : c.Opens w editor d) : w.attempt c = .ok (w.openDocument editor d) := by
  cases c with
  | openDocument editor' d' =>
    obtain ⟨rfl, rfl⟩ := h
    rfl
  | openFile files editor' id path =>
    obtain ⟨rfl, hd⟩ := h
    exact openFile_of_ok hd
  | close editor' => exact h.elim
  | edit id range text => exact h.elim

/-- **A call that succeeds announces itself once.** -/
theorem emitted_attempt (h : w.attempt c = .ok w') :
    w'.feed.emitted = w.feed.emitted ++ [c.event] := by
  cases c with
  | openDocument editor d =>
    obtain rfl := Except.ok.inj h
    exact emitted_openDocument w editor d
  | openFile files editor id path =>
    cases hd : Document.ofFile files id (w.workspace.resolve path) with
    | ok d =>
      obtain rfl := Except.ok.inj ((openFile_of_ok hd).symm.trans h)
      exact emitted_openDocument w editor d
    | error err => cases (openFile_of_error hd).symm.trans h
  | close editor => exact (emitted_close h).1
  | edit id range text =>
    obtain ⟨d, taken, buffer, -, -, rfl⟩ := edit_eq_ok h
    rfl

/-- The workbench after calls in place. Each goes on from what the one before it left. -/
def performAll : Workbench → List WorkbenchCall → Workbench
  | w, [] => w
  | w, c :: cs =>
    match c.perform.run w with
    | .ok _ w' => performAll w' cs
    | .error _ w' => performAll w' cs

/-- The calls among these that succeed, when they are done one after the other. -/
def succeeded : Workbench → List WorkbenchCall → List WorkbenchCall
  | _, [] => []
  | w, c :: cs =>
    match c.perform.run w with
    | .ok _ w' => c :: succeeded w' cs
    | .error _ w' => succeeded w' cs

/-- Calls in place have the effect that the operations say. -/
theorem performAll_eq (w : Workbench) (cs : List WorkbenchCall) : performAll w cs = cs.foldl call w := by
  induction cs generalizing w with
  | nil => rfl
  | cons c cs ih =>
    rw [performAll, List.foldl_cons, call_eq]
    rcases w.perform_cases c with ⟨-, w', hattempt, hrun⟩ | ⟨-, err, hattempt, hrun⟩
    · rw [hrun, hattempt]
      exact ih w'
    · rw [hrun, hattempt]
      exact ih w

/-- **What is announced is what succeeded**, in order. -/
theorem emitted_performAll (w : Workbench) (cs : List WorkbenchCall) :
    (performAll w cs).feed.emitted =
      w.feed.emitted ++ (succeeded w cs).map WorkbenchCall.event := by
  induction cs generalizing w with
  | nil => simp [performAll, succeeded]
  | cons c cs ih =>
    rw [performAll, succeeded]
    rcases w.perform_cases c with ⟨-, w', hattempt, hrun⟩ | ⟨-, err, -, hrun⟩
    · simp only [hrun]
      rw [ih, emitted_attempt hattempt]
      simp
    · simp only [hrun]
      exact ih w

/-! ### What a call leaves alone -/

/-- What an edit makes of a workbench: `d'` stands in the place of `d`, everywhere. -/
structure Edited (w w' : Workbench) (id : DocumentId) (range : Span) (text : List Char)
    (d d' : Document) : Prop where
  before : w.document id = .ok d
  after : w'.document id = .ok d'
  spliced : ∃ taken, Spliced d.buffer.text range taken text d'.buffer.text
  version : d'.buffer.version = d.buffer.version + 2
  /-- But for its text and version the document is the same. -/
  same : d' = { d with buffer := d'.buffer }
  others : ∀ id', id' ≠ id → w'.document id' = w.document id'
  editors : w'.editors = w.editors
  /-- Every editor of the document shows the new text. -/
  shown : ∀ e, w.editors.get? e = some id → w'.documentFor e = .ok d'
  otherwise : ∀ e, w.editors.get? e ≠ some id → w'.documentFor e = w.documentFor e

/-- An edit that succeeds changes the text of its document and nothing else. -/
theorem edited_of_ok (h : w.edit id range text = .ok w') : ∃ d d', Edited w w' id range text d d' := by
  cases hd : w.document id with
  | error err => cases (edit_of_unknown hd).symm.trans h
  | ok d =>
    rcases spliced_or_refused d.buffer range text with ⟨taken, text', hspliced⟩ | ⟨e, hrefused⟩
    · obtain rfl := Except.ok.inj ((edit_of_spliced hd hspliced).symm.trans h)
      have hother : ∀ id', id' ≠ id → (w.documents.insert id
          { d with buffer := ⟨text', d.buffer.version + 2⟩ }).get? id' = w.documents.get? id' := by
        intro id' hne
        rw [FiniteMap.get?_insert, if_neg hne]
      refine ⟨d, { d with buffer := ⟨text', d.buffer.version + 2⟩ }, hd, ?_, ⟨taken, hspliced⟩, rfl, rfl,
        ?_, rfl, ?_, ?_⟩
      · exact document_eq_ok_iff.2 (FiniteMap.get?_insert_self _ _ _)
      · intro id' hne
        simp only [document, emit, hother id' hne]
      · intro e he
        exact documentFor_eq_ok_iff.2 ⟨id, he, FiniteMap.get?_insert_self _ _ _⟩
      · intro e hne
        simp only [documentFor, emit]
        cases he : w.editors.get? e with
        | none => rfl
        | some id' =>
          have hid : id' ≠ id := fun heq => hne (heq ▸ he)
          simp only [document, hother id' hid]
    · cases (edit_of_refused hd hrefused).symm.trans h

/-- Opening an editor on a URI that is open leaves the documents alone, and shows the one that is
found by that URI. -/
theorem openDocument_on_open {stored : Document} (hstored : w.document id = .ok stored)
    (huri : stored.uri = d.uri) :
    (∀ id', (w.openDocument editor d).document id' = w.document id') ∧
      ∃ found shown, w.findByUri d.uri = some found ∧ w.document found = .ok shown ∧
        shown.uri = d.uri ∧ (w.openDocument editor d).documentFor editor = .ok shown := by
  cases hf : w.findByUri d.uri with
  | none => exact absurd huri (uri_ne_of_findByUri_eq_none hf (document_eq_ok_iff.1 hstored))
  | some found =>
    obtain ⟨shown, hshown, hshownUri⟩ := exists_of_findByUri hf
    rw [openDocument_of_found hf]
    refine ⟨fun _ => rfl, found, shown, rfl, document_eq_ok_iff.2 hshown, hshownUri, ?_⟩
    exact documentFor_eq_ok_iff.2 ⟨found, FiniteMap.get?_insert_self _ _ _, hshown⟩

/-- **Calls of a workbench are atomic and announced once.** Done in place, one after the other,
calls have the effect that the operations say, and the events are those of the calls that succeed. A
call that fails leaves everything as it was, and it fails exactly if it is not possible. One that
succeeds adds its own event. An edit exchanges a range in the text of its document, for all editors
of it, and changes no other document; opening an editor on a URI that is open leaves every document
as it is. -/
theorem calls_announced (w : Workbench) (cs : List WorkbenchCall) :
    performAll w cs = cs.foldl call w ∧
      (performAll w cs).feed.emitted =
        w.feed.emitted ++ (succeeded w cs).map WorkbenchCall.event ∧
      ∀ c : WorkbenchCall,
        (∀ err w', c.perform.run w = .error err w' → w.attempt c = .error err ∧ w' = w) ∧
        (∀ w', c.perform.run w = .ok () w' ↔ w.attempt c = .ok w') ∧
        ((∃ w', c.perform.run w = .ok () w') ↔ c.Possible w) ∧
        ∀ w', c.perform.run w = .ok () w' →
          w'.feed.emitted = w.feed.emitted ++ [c.event] ∧
          (∀ id range text, c = .edit id range text →
            ∃ d d', Edited w w' id range text d d') ∧
          ∀ (editor : EditorId) (d stored : Document) (id : DocumentId), c.Opens w editor d →
            w.document id = .ok stored → stored.uri = d.uri →
              (∀ id', w'.document id' = w.document id') ∧
                ∃ found shown, w.findByUri d.uri = some found ∧ w.document found = .ok shown ∧
                  shown.uri = d.uri ∧ w'.documentFor editor = .ok shown := by
  refine ⟨performAll_eq w cs, emitted_performAll w cs, fun c =>
    ⟨fun err w' => run_perform_eq_error, fun w' => run_perform_eq_ok_iff, exists_run_perform_iff, ?_⟩⟩
  intro w' hrun
  have hattempt := run_perform_eq_ok_iff.1 hrun
  refine ⟨emitted_attempt hattempt, ?_, ?_⟩
  · rintro id range text rfl
    exact edited_of_ok hattempt
  · intro editor d stored id hopens hstored huri
    obtain rfl := Except.ok.inj ((attempt_of_opens hopens).symm.trans hattempt)
    exact openDocument_on_open hstored huri

namespace Sample

/-- Two editors on one URI. -/
def twoEditors : Workbench :=
  ofCalls ⟨.ofString "/w"⟩
    [.openDocument ⟨7⟩ (document 1 shared), .openDocument ⟨2⟩ (document 2 shared)]

/-- An edit past the end of the text, one inside it, an editor opened on the URI that is open, and
one closed that is not. -/
def mixedCalls : List WorkbenchCall :=
  [.edit ⟨1⟩ ⟨3, 99⟩ [], .edit ⟨1⟩ ⟨0, 4⟩ "more".toList, .openDocument ⟨5⟩ (document 3 shared),
    .close ⟨9⟩]

end Sample

/-- The calls that fail are not announced, and leave the workbench alone. The edit is seen by both
editors of the document, and the text that a third editor brings along is seen by none. -/
theorem calls_announced_two_editors :
    (performAll Sample.twoEditors Sample.mixedCalls).feed.emitted =
        [.opened ⟨7⟩, .opened ⟨2⟩, .changed ⟨1⟩, .opened ⟨5⟩] ∧
      (∃ e, (WorkbenchCall.edit ⟨1⟩ ⟨3, 99⟩ []).perform.run Sample.twoEditors =
        .error e Sample.twoEditors) ∧
      (∃ w d, (WorkbenchCall.edit ⟨1⟩ ⟨0, 4⟩ "more".toList).perform.run Sample.twoEditors = .ok () w ∧
        d.buffer.text = "more".toList ∧ w.documentFor ⟨7⟩ = .ok d ∧ w.documentFor ⟨2⟩ = .ok d) ∧
      ∃ w, (WorkbenchCall.openDocument ⟨5⟩ { Sample.document 3 Sample.shared with
          buffer := ⟨"other".toList, 0⟩ }).perform.run Sample.twoEditors = .ok () w ∧
        w.documentFor ⟨5⟩ = .ok (Sample.document 1 Sample.shared) := by
  obtain ⟨-, emitted, calls⟩ := calls_announced Sample.twoEditors Sample.mixedCalls
  refine ⟨emitted.trans rfl, ?_, ?_, ?_⟩
  · cases hrun : (WorkbenchCall.edit ⟨1⟩ ⟨3, 99⟩ []).perform.run Sample.twoEditors with
    | error e w =>
      obtain ⟨-, rfl⟩ := (calls _).1 e w hrun
      exact ⟨e, rfl⟩
    | ok _ w => cases hrun
  · obtain ⟨-, -, possible, effect⟩ := calls (.edit ⟨1⟩ ⟨0, 4⟩ "more".toList)
    obtain ⟨w, hrun⟩ := possible.2 ⟨Sample.document 1 Sample.shared, rfl, by decide, by decide⟩
    obtain ⟨d, d', hedited⟩ := (effect w hrun).2.1 _ _ _ rfl
    obtain rfl : Sample.document 1 Sample.shared = d := Except.ok.inj hedited.before
    obtain ⟨taken, hspliced⟩ := hedited.spliced
    exact ⟨w, d', hrun, hspliced.text_eq.symm.trans rfl, hedited.shown ⟨7⟩ rfl, hedited.shown ⟨2⟩ rfl⟩
  · obtain ⟨-, -, possible, effect⟩ := calls (.openDocument ⟨5⟩
      { Sample.document 3 Sample.shared with buffer := ⟨"other".toList, 0⟩ })
    obtain ⟨w, hrun⟩ := possible.2 trivial
    obtain ⟨-, found, shown, hfound, hstored, -, hshown⟩ := (effect w hrun).2.2 ⟨5⟩ _
      (Sample.document 1 Sample.shared) ⟨1⟩ ⟨rfl, rfl⟩ rfl rfl
    obtain rfl : ⟨1⟩ = found := Option.some.inj hfound
    obtain rfl : Sample.document 1 Sample.shared = shown := Except.ok.inj hstored
    exact ⟨w, hrun, hshown⟩

end Workbench

end AnnotationBridge
