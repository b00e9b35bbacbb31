import AnnotationBridge.Workbench

/-!
# Open editors and their documents

* `Workbench.openDocument_of_found`, `Workbench.openDocument_of_not_found`, `Workbench.close_eq_ok`,
  `Workbench.edit_eq_ok`: the workbench after a change.
* `Workbench.get?_documents_openDocument`, `Workbench.get?_documents_close`,
  `Workbench.get?_documents_edit`: where a stored document comes from.
* `Workbench.isOpen_openDocument`, `Workbench.isOpen_close`, `Workbench.isOpen_edit`: which editors
  are open after a change.
* `Workbench.documentFor_of_mem_editorsFor`: an editor that is found by a URI shows a document.
* `Workbench.Stored`: the document of every open editor is stored. Every change keeps it.
-/

namespace AnnotationBridge

open Text

namespace Workbench

variable {w w' : Workbench} {editor e : EditorId} {d d' : Document} {id : DocumentId}

/-! ### What a change does -/

/-- Opening on a URI that is open shares the stored document. -/
theorem openDocument_of_found {id : DocumentId} (h : w.findByUri d.uri = some id) :
    w.openDocument editor d =
      emit { w with editors := w.editors.insert editor id } (.opened editor) := by
  rw [openDocument, h]

/-- Opening on another URI stores the document. -/
theorem openDocument_of_not_found (h : w.findByUri d.uri = none) :
    w.openDocument editor d =
      emit { w with documents := w.documents.insert d.id d, editors := w.editors.insert editor d.id }
        (.opened editor) := by
  rw [openDocument, h]

/-- A closed editor showed a document, which is dropped if no other editor shows it. -/
theorem close_eq_ok (h : w.close editor = .ok w') :
    ∃ id, w.editors.get? editor = some id ∧
      w' = emit { w with
        documents :=
          if (w.editors.erase editor).values.contains id then w.documents else w.documents.erase id
        editors := w.editors.erase editor } (.closed editor) := by
  unfold close at h
  cases hid : w.editors.get? editor with
  | none => rw [hid] at h; cases h
  | some id =>
    rw [hid] at h
    exact ⟨id, rfl, (Except.ok.inj h).symm⟩

/-- An edit replaces a range in the text of one document and announces itself, nothing else. -/
theorem edit_eq_ok {id : DocumentId} {range : Span} {text : List Char}
    (h : w.edit id range text = .ok w') :
    ∃ d taken buffer, w.documents.get? id = some d ∧
      d.buffer.replace range text = .ok (taken, buffer) ∧
      w' = emit { w with documents := w.documents.insert id { d with buffer := buffer } }
        (.changed id) := by
  unfold edit document at h
  cases hd : w.documents.get? id with
  | none => rw [hd] at h; cases h
  | some d =>
    rw [hd] at h
    dsimp only [bind, Except.bind] at h
    cases hb : d.buffer.replace range text with
    | error err => rw [hb] at h; cases h
    | ok replaced =>
      rw [hb] at h
      exact ⟨d, replaced.1, replaced.2, rfl, hb, (Except.ok.inj h).symm⟩

/-! ### Where stored documents come from -/

/-- A document that is stored after an editor was opened was stored before, or it is new. -/
theorem get?_documents_openDocument (h : (w.openDocument editor d).documents.get? id = some d') :
    w.documents.get? id = some d' ∨ id = d.id ∧ d' = d ∧ w.findByUri d.uri = none := by
  cases hf : w.findByUri d.uri with
  | some found =>
    rw [openDocument_of_found hf] at h
    exact .inl h
  | none =>
    rw [openDocument_of_not_found hf] at h
    change (w.documents.insert d.id d).get? id = some d' at h
    rw [FiniteMap.get?_insert] at h
    split at h
    · exact .inr ⟨by assumption, (Option.some.inj h).symm, rfl⟩
    · exact .inl h

/-- A document that is stored after an editor was closed was stored before. -/
theorem get?_documents_close (hc : w.close editor = .ok w')
    (h : w'.documents.get? id = some d) : w.documents.get? id = some d := by
  obtain ⟨closedId, -, rfl⟩ := close_eq_ok hc
  change (if _ then w.documents else w.documents.erase closedId).get? id = some d at h
  split at h
  · exact h
  · rw [FiniteMap.get?_erase] at h
    split at h
    · cases h
    · exact h

/-- A document that is stored after an edit was stored before, with the same identifier and URI. -/
theorem get?_documents_edit {edited : DocumentId} {range : Span} {text : List Char}
    (he : w.edit edited range text = .ok w') (h : w'.documents.get? id = some d) :
    ∃ d', w.documents.get? id = some d' ∧ d'.id = d.id ∧ d'.uri = d.uri := by
  obtain ⟨before, taken, buffer, hbefore, -, rfl⟩ := edit_eq_ok he
  change (w.documents.insert edited { before with buffer := buffer }).get? id = some d at h
  rw [FiniteMap.get?_insert] at h
  split at h
  · rename_i heq
    rw [heq, ← Option.some.inj h]
    exact ⟨before, hbefore, rfl, rfl⟩
  · exact ⟨d, h, rfl, rfl⟩

/-- An editor that is open after another one was opened shows what it showed before. -/
theorem get?_editors_openDocument (h : (w.openDocument editor d).editors.get? e = some id) :
    e = editor ∨ w.editors.get? e = some id := by
  have hinsert : ∃ shown, (w.openDocument editor d).editors = w.editors.insert editor shown := by
    cases hf : w.findByUri d.uri with
    | some found => exact ⟨found, by rw [openDocument_of_found hf]; rfl⟩
    | none => exact ⟨d.id, by rw [openDocument_of_not_found hf]; rfl⟩
  obtain ⟨shown, heq⟩ := hinsert
  rw [heq, FiniteMap.get?_insert] at h
  split at h
  · exact .inl (by assumption)
  · exact .inr h

/-- An editor that is open after one was closed shows what it showed before. -/
theorem get?_editors_close (hc : w.close editor = .ok w') (h : w'.editors.get? e = some id) :
    w.editors.get? e = some id := by
  obtain ⟨closedId, -, rfl⟩ := close_eq_ok hc
  change (w.editors.erase editor).get? e = some id at h
  rw [FiniteMap.get?_erase] at h
  split at h
  · cases h
  · exact h

/-! ### Announcing -/

/-- To announce an event opens and closes nothing. -/
@[simp] theorem isOpen_emit (w : Workbench) (event : Event) (e : EditorId) :
    (w.emit event).isOpen e = w.isOpen e := rfl

/-- Opening an editor is announced. -/
theorem emitted_openDocument (w : Workbench) (editor : EditorId) (d : Document) :
    (w.openDocument editor d).feed.emitted = w.feed.emitted ++ [.opened editor] := by
  cases hf : w.findByUri d.uri with
  | some id => rw [openDocument_of_found hf]; rfl
  | none => rw [openDocument_of_not_found hf]; rfl

/-- An editor that is closed was open, and its closing is announced. -/
theorem emitted_close (h : w.close editor = .ok w') :
    w'.feed.emitted = w.feed.emitted ++ [.closed editor] ∧ w.isOpen editor = true := by
  obtain ⟨id, hid, rfl⟩ := close_eq_ok h
  rw [isOpen, FiniteMap.contains, hid]
  exact ⟨rfl, rfl⟩

/-! ### Open editors -/

/-- The editor that was opened is open, and the others are as before. -/
theorem isOpen_openDocument (w : Workbench) (editor : EditorId) (d : Document) (e : EditorId) :
    (w.openDocument editor d).isOpen e = (decide (e = editor) || w.isOpen e) := by
  cases hf : w.findByUri d.uri with
  | some id => rw [openDocument_of_found hf]; exact FiniteMap.contains_insert _ _ _ _
  | none => rw [openDocument_of_not_found hf]; exact FiniteMap.contains_insert _ _ _ _

/-- The editor that was closed is not open, and the others are as before. -/
theorem isOpen_close (h : w.close editor = .ok w') (e : EditorId) :
    w'.isOpen e = (decide (e ≠ editor) && w.isOpen e) := by
  obtain ⟨id, -, rfl⟩ := close_eq_ok h
  exact FiniteMap.contains_erase _ _ _

/-- An edit opens and closes no editor. -/
theorem isOpen_edit {id : DocumentId} {range : Span} {text : List Char}
    (h : w.edit id range text = .ok w') (e : EditorId) : w'.isOpen e = w.isOpen e := by
  obtain ⟨d, taken, buffer, -, -, rfl⟩ := edit_eq_ok h
  rfl

/-! ### Shown documents -/

/-- An editor shows a document if it is open on an identifier under which one is stored. -/
theorem documentFor_eq_ok_iff :
    w.documentFor e = .ok d ↔ ∃ id, w.editors.get? e = some id ∧ w.documents.get? id = some d := by
  unfold documentFor
  cases w.editors.get? e with
  | none => simp
  | some id =>
    simp only [document, Option.some.injEq, exists_eq_left']
    cases w.documents.get? id <;> simp

/-- An editor that shows a document is open. -/
theorem isOpen_of_documentFor (h : w.documentFor e = .ok d) : w.isOpen e = true := by
  obtain ⟨id, hid, -⟩ := documentFor_eq_ok_iff.1 h
  rw [isOpen, FiniteMap.contains, hid]
  rfl

/-- **An editor that is found by a URI shows a document.** -/
theorem documentFor_of_mem_editorsFor {uri : Uri} (h : e ∈ w.editorsFor uri) :
    ∃ d, w.documentFor e = .ok d := by
  unfold editorsFor findByUri at h
  cases hf : w.documents.entries.find? (·.2.uri = uri) with
  | none => rw [hf] at h; cases h
  | some entry =>
    obtain ⟨id, d⟩ := entry
    rw [hf] at h
    simp only [Option.map_some, ascending, List.mem_mergeSort, List.mem_map, List.mem_filter,
      decide_eq_true_eq] at h
    obtain ⟨⟨e', id'⟩, ⟨hmem, rfl⟩, rfl⟩ := h
    refine ⟨d, documentFor_eq_ok_iff.2 ⟨id', ?_, ?_⟩⟩
    · exact (w.editors.get?_eq_some_iff _ _).2 hmem
    · exact (w.documents.get?_eq_some_iff _ _).2 (List.mem_of_find?_eq_some hf)

/-! ### Stored documents -/

/-- The document of every open editor is stored. -/
def Stored (w : Workbench) : Prop :=
  ∀ e id, w.editors.get? e = some id → w.documents.contains id = true

/-- A workbench without editors needs no documents. -/
theorem Stored.empty (workspace : Workspace) : (empty workspace).Stored := by
  intro e id h
  cases h

/-- The announcement of an event keeps all documents stored. -/
theorem Stored.emit (h : w.Stored) (event : Event) : (w.emit event).Stored := h

/-- A document that is found by its URI is stored. -/
theorem contains_of_findByUri {uri : Uri} {id : DocumentId} (h : w.findByUri uri = some id) :
    w.documents.contains id = true := by
  obtain ⟨⟨id', d⟩, hf, rfl⟩ := Option.map_eq_some_iff.1 h
  rw [FiniteMap.contains, (w.documents.get?_eq_some_iff _ _).2 (List.mem_of_find?_eq_some hf)]
  rfl

/-- Opening an editor stores its document. -/
theorem Stored.openDocument (h : w.Stored) (editor : EditorId) (d : Document) :
    (w.openDocument editor d).Stored := by
  cases hf : w.findByUri d.uri with
  | some found =>
    rw [openDocument_of_found hf]
    intro e id hid
    change (w.editors.insert editor found).get? e = some id at hid
    rw [FiniteMap.get?_insert] at hid
    split at hid
    · rw [← Option.some.inj hid]
      exact contains_of_findByUri hf
    · exact h e id hid
  | none =>
    rw [openDocument_of_not_found hf]
    intro e id hid
    change (w.editors.insert editor d.id).get? e = some id at hid
    change (w.documents.insert d.id d).contains id = true
    rw [FiniteMap.get?_insert] at hid
    rw [FiniteMap.contains_insert, Bool.or_eq_true]
    split at hid
    · exact .inl (decide_eq_true (Option.some.inj hid).symm)
    · exact .inr (h e id hid)

/-- Closing an editor keeps the documents of the others. -/
theorem Stored.close (h : w.Stored) (hc : w.close editor = .ok w') : w'.Stored := by
  obtain ⟨closedId, -, rfl⟩ := close_eq_ok hc
  intro e id hid
  change (w.editors.erase editor).get? e = some id at hid
  have hkept : w.documents.contains id = true := by
    rw [FiniteMap.get?_erase] at hid
    split at hid
    · cases hid
    · exact h e id hid
  change (if _ then w.documents else w.documents.erase closedId).contains id = true
  split
  · exact hkept
  · rename_i hlast
    -- the document that is dropped is not the one that a remaining editor shows
    have hne : id ≠ closedId := by
      rintro rfl
      refine hlast (List.contains_iff_mem.2 ?_)
      exact List.mem_map.2 ⟨(e, id), (FiniteMap.get?_eq_some_iff _ _ _).1 hid, rfl⟩
    rw [FiniteMap.contains_erase, hkept, decide_eq_true hne]
    rfl

/-- An edit keeps all documents stored. -/
theorem Stored.edit (h : w.Stored) {id : DocumentId} {range : Span} {text : List Char}
    (he : w.edit id range text = .ok w') : w'.Stored := by
  obtain ⟨d, taken, buffer, -, -, rfl⟩ := edit_eq_ok he
  intro e shown hid
  change (w.documents.insert id _).contains shown = true
  rw [FiniteMap.contains_insert, h e shown hid, Bool.or_true]

/-- **An open editor shows a document.** -/
theorem Stored.documentFor_of_isOpen (h : w.Stored) (ho : w.isOpen e = true) :
    ∃ d, w.documentFor e = .ok d := by
  obtain ⟨id, hid⟩ := Option.isSome_iff_exists.1 ho
  obtain ⟨d, hd⟩ := Option.isSome_iff_exists.1 (h e id hid)
  exact ⟨d, documentFor_eq_ok_iff.2 ⟨id, hid, hd⟩⟩

end Workbench

end AnnotationBridge
