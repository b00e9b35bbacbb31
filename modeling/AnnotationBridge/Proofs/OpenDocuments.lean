import AnnotationBridge.Proofs.Ascending
import AnnotationBridge.Proofs.History
import AnnotationBridge.Proofs.Workbench
import Mathlib.Data.List.Induction
import Mathlib.Data.Nat.Basic

/-!
# Open documents

A workbench keeps its documents and its editors apart. Whatever is asked of it, the two fit
together: a document is stored from its first editor to its last, under its own identifier, and no
two stored documents have one URI. So a URI names at most one document, and the editors of a URI are
well defined.

* `WorkbenchCall`, `Workbench.call`, `Workbench.ofCalls`: what is asked of a workbench, and the
  workbench after any number of calls. A call that fails changes nothing.
* `Workbench.isOpen_ofCalls_iff`: an editor is open from the call that opens it to the one that
  closes it.
* `Workbench.Consistent`: how documents and editors fit together. Every call keeps it, if the
  editors that are opened are new.
* `Workbench.Consistent.findByUri_eq_some_iff`, `Workbench.Consistent.mem_editorsFor_iff`: what is
  found by a URI, said without the order in which the entries are held.
* `Workbench.ofCalls_consistent`: all this after any calls.
-/

namespace AnnotationBridge

open Text

/-- A call of an operation that changes a workbench. -/
inductive WorkbenchCall where
  | openDocument (editor : EditorId) (d : Document)
  | openFile (files : Files) (editor : EditorId) (id : DocumentId) (path : Path)
  | close (editor : EditorId)
  | edit (id : DocumentId) (range : Span) (text : List Char)

/-- The editor that a call opens; none if the call is not about opening or its file is no
document. -/
def WorkbenchCall.opens? (workspace : Workspace) : WorkbenchCall → Option EditorId
  | .openDocument editor _ => some editor
  | .openFile files editor id path =>
    (Document.ofFile files id (workspace.resolve path)).toOption.map fun _ => editor
  | .close _ | .edit _ _ _ => none

namespace Workbench

open WorkbenchCall

variable {w w' : Workbench} {editor e : EditorId} {d d' : Document} {id id' : DocumentId} {uri : Uri}
  {c : WorkbenchCall} {workspace : Workspace} {cs : List WorkbenchCall}

/-! ### Calls -/

/-- The workbench after a call, which is the one before if the call fails. -/
def call (w : Workbench) : WorkbenchCall → Workbench
  | .openDocument editor d => w.openDocument editor d
  | .openFile files editor id path => (w.openFile files editor id path).toOption.getD w
  | .close editor => (w.close editor).toOption.getD w
  | .edit id range text => (w.edit id range text).toOption.getD w

/-- The workbench after calls in order, in which nothing was open before. -/
def ofCalls (workspace : Workspace) (cs : List WorkbenchCall) : Workbench :=
  cs.foldl call (empty workspace)

/-- The last call is made on what the others have left. -/
theorem ofCalls_concat (cs : List WorkbenchCall) (c : WorkbenchCall) :
    ofCalls workspace (cs ++ [c]) = (ofCalls workspace cs).call c := by
  rw [ofCalls, List.foldl_append]
  rfl

/-- What a call can do: open an editor on a document, close one, edit a document, or nothing. -/
theorem call_cases (w : Workbench) (c : WorkbenchCall) :
    (∃ editor d, c.opens? w.workspace = some editor ∧ w.call c = w.openDocument editor d) ∨
      c.opens? w.workspace = none ∧
        ((∃ editor, w.close editor = .ok (w.call c)) ∨
          (∃ id range text, w.edit id range text = .ok (w.call c)) ∨ w.call c = w) := by
  cases c with
  | openDocument editor d => exact .inl ⟨editor, d, rfl, rfl⟩
  | openFile files editor id path =>
    rw [call, opens?, openFile]
    cases Document.ofFile files id (w.workspace.resolve path) with
    | error err => exact .inr ⟨rfl, .inr (.inr rfl)⟩
    | ok d => exact .inl ⟨editor, d, rfl, rfl⟩
  | close editor =>
    refine .inr ⟨rfl, ?_⟩
    rw [call]
    cases hclose : w.close editor with
    | error err => exact .inr (.inr rfl)
    | ok w' => exact .inl ⟨editor, hclose⟩
  | edit id range text =>
    refine .inr ⟨rfl, .inr ?_⟩
    rw [call]
    cases hedit : w.edit id range text with
    | error err => exact .inr rfl
    | ok w' => exact .inl ⟨id, range, text, hedit⟩

/-- A call does not change the workspace. -/
theorem workspace_call (w : Workbench) (c : WorkbenchCall) :
    (w.call c).workspace = w.workspace := by
  rcases w.call_cases c with ⟨editor, d, -, hc⟩ |
    ⟨-, ⟨editor, hc⟩ | ⟨id, range, text, hc⟩ | hc⟩
  · rw [hc, openDocument]
    cases w.findByUri d.uri <;> rfl
  · obtain ⟨id, -, hw⟩ := close_eq_ok hc
    rw [hw]
    rfl
  · obtain ⟨d, taken, buffer, -, -, hw⟩ := edit_eq_ok hc
    rw [hw]
    rfl
  · rw [hc]

/-- No calls change the workspace. -/
theorem workspace_ofCalls (workspace : Workspace) (cs : List WorkbenchCall) :
    (ofCalls workspace cs).workspace = workspace := by
  induction cs using List.reverseRecOn with
  | nil => rfl
  | append_singleton cs c ih => rw [ofCalls_concat, workspace_call, ih]

/-- Closing leaves open what was open before, less the editor that is closed. -/
theorem isOpen_call_close (w : Workbench) (editor e : EditorId) :
    (w.call (.close editor)).isOpen e = true ↔ w.isOpen e = true ∧ e ≠ editor := by
  rw [call]
  cases hclose : w.close editor with
  | ok w' =>
    change w'.isOpen e = true ↔ _
    rw [isOpen_close hclose, Bool.and_eq_true, decide_eq_true_eq, and_comm]
  | error err =>
    -- what cannot be closed is not open
    change w.isOpen e = true ↔ _
    refine ⟨fun hopen => ⟨hopen, ?_⟩, And.left⟩
    rintro rfl
    obtain ⟨id, hid⟩ := Option.isSome_iff_exists.1 hopen
    rw [close, hid] at hclose
    cases hclose

/-- An editor is open after a call if the call opened it, or if it was open and the call did not
close it. -/
theorem isOpen_call_iff (w : Workbench) (c : WorkbenchCall) (e : EditorId) :
    (w.call c).isOpen e = true ↔
      c.opens? w.workspace = some e ∨ w.isOpen e = true ∧ c ≠ .close e := by
  cases c with
  | openDocument editor d =>
    rw [call, isOpen_openDocument, Bool.or_eq_true, decide_eq_true_eq, opens?, eq_comm]
    simp
  | openFile files editor id path =>
    rw [call, openFile, opens?]
    cases Document.ofFile files id (w.workspace.resolve path) with
    | error err => simp [Except.map, Except.toOption]
    | ok d =>
      change (w.openDocument editor d).isOpen e = true ↔ _
      rw [isOpen_openDocument, Bool.or_eq_true, decide_eq_true_eq, eq_comm]
      simp [Except.toOption]
  | close editor =>
    rw [isOpen_call_close, opens?, ne_comm]
    simp
  | edit id range text =>
    rw [call, opens?]
    cases hedit : w.edit id range text with
    | error err => simp [Except.toOption]
    | ok w' => simp [Except.toOption, isOpen_edit hedit]

/-- **An editor is open from the call that opens it to the call that closes it.** -/
theorem isOpen_ofCalls_iff :
    (ofCalls workspace cs).isOpen e = true ↔
      ∃ earlier c, c.opens? workspace = some e ∧ History.LastAt cs earlier c (· = .close e) := by
  induction cs using List.reverseRecOn with
  | nil =>
    refine iff_of_false (fun hopen => by cases hopen) ?_
    rintro ⟨earlier, c, -, hlast⟩
    exact History.not_lastAt_nil hlast
  | append_singleton cs c ih =>
    rw [ofCalls_concat, isOpen_call_iff, workspace_ofCalls, ih]
    simp only [History.lastAt_concat_iff]
    constructor
    · rintro (hopens | ⟨⟨earlier, opening, hopens, hlast⟩, hc⟩)
      · exact ⟨cs, c, hopens, .inl ⟨rfl, rfl⟩⟩
      · exact ⟨earlier, opening, hopens, .inr ⟨hc, hlast⟩⟩
    · rintro ⟨earlier, opening, hopens, ⟨rfl, rfl⟩ | ⟨hc, hlast⟩⟩
      · exact .inl hopens
      · exact .inr ⟨⟨earlier, opening, hopens, hlast⟩, hc⟩

/-- The open editors are among those that were opened. -/
theorem mem_opens_of_isOpen (h : (ofCalls workspace cs).isOpen e = true) :
    e ∈ cs.filterMap (opens? workspace) := by
  obtain ⟨earlier, c, hopens, hlast⟩ := isOpen_ofCalls_iff.1 h
  exact List.mem_filterMap.2 ⟨c, hlast.mem, hopens⟩

/-! ### Documents and editors fit together -/

/-- How the documents of a workbench and its editors fit together. -/
structure Consistent (w : Workbench) : Prop where
  /-- The document of an open editor is stored. -/
  stored : w.Stored
  /-- A stored document is shown by an editor. -/
  shown : ∀ id, w.documents.contains id = true → ∃ e, w.editors.get? e = some id
  /-- A document is stored under its own identifier. -/
  own : ∀ id d, w.documents.get? id = some d → d.id = id
  /-- No two stored documents have one URI. -/
  uri_inj : ∀ id id' d d', w.documents.get? id = some d → w.documents.get? id' = some d' →
    d.uri = d'.uri → id = id'

/-- Without documents and editors all fits together. -/
theorem Consistent.empty (workspace : Workspace) : (empty workspace).Consistent where
  stored := Stored.empty workspace
  shown id h := by cases h
  own id d h := by cases h
  uri_inj id id' d d' h := by cases h

/-- What is stored under a URI that is not found. -/
theorem uri_ne_of_findByUri_eq_none (h : w.findByUri uri = none) (hd : w.documents.get? id = some d) :
    d.uri ≠ uri := by
  have hmem := (w.documents.get?_eq_some_iff id d).1 hd
  have hnone := List.find?_eq_none.1 (Option.map_eq_none_iff.1 h) (id, d) hmem
  simpa using hnone

/-- What is found by a URI is stored with that URI. -/
theorem exists_of_findByUri (h : w.findByUri uri = some id) :
    ∃ d, w.documents.get? id = some d ∧ d.uri = uri := by
  obtain ⟨⟨id', d⟩, hf, rfl⟩ := Option.map_eq_some_iff.1 h
  refine ⟨d, (w.documents.get?_eq_some_iff _ _).2 (List.mem_of_find?_eq_some hf), ?_⟩
  simpa using List.find?_some hf

/-- A stored document is shown also after an editor is opened that was not open. -/
theorem Consistent.shown_insert (h : w.Consistent) (fresh : w.isOpen editor = false) (shown : DocumentId)
    (hid : w.documents.contains id = true) : ∃ e, (w.editors.insert editor shown).get? e = some id := by
  obtain ⟨e, he⟩ := h.shown id hid
  have hne : e ≠ editor := by
    rintro rfl
    rw [isOpen, FiniteMap.contains, he] at fresh
    cases fresh
  exact ⟨e, by rw [FiniteMap.get?_insert, if_neg hne, he]⟩

/-- Opening an editor that is not open keeps documents and editors together. -/
theorem Consistent.openDocument (h : w.Consistent) (fresh : w.isOpen editor = false) :
    (w.openDocument editor d).Consistent := by
  have hstored := h.stored.openDocument editor d
  have hkept : ∀ id d', (w.openDocument editor d).documents.get? id = some d' →
      w.documents.get? id = some d' ∨ id = d.id ∧ d' = d ∧ w.findByUri d.uri = none :=
    fun _ _ => get?_documents_openDocument
  cases hf : w.findByUri d.uri with
  | some found =>
    rw [openDocument_of_found hf] at hstored ⊢
    exact ⟨hstored, fun id hid => h.shown_insert fresh found hid, h.own, h.uri_inj⟩
  | none =>
    rw [openDocument_of_not_found hf] at hstored hkept ⊢
    refine ⟨hstored, fun id hid => ?_, fun id d' hd' => ?_, fun id id' d₁ d₂ h₁ h₂ huri => ?_⟩
    · change (w.documents.insert d.id d).contains id = true at hid
      rw [FiniteMap.contains_insert, Bool.or_eq_true, decide_eq_true_eq] at hid
      rcases hid with rfl | hid
      · exact ⟨editor, FiniteMap.get?_insert_self _ _ _⟩
      · exact h.shown_insert fresh d.id hid
    · rcases hkept id d' hd' with hd' | ⟨rfl, rfl, -⟩
      · exact h.own id d' hd'
      · rfl
    · rcases hkept id d₁ h₁ with old₁ | ⟨rfl, rfl, -⟩ <;>
        rcases hkept id' d₂ h₂ with old₂ | ⟨rfl, rfl, -⟩
      · exact h.uri_inj id id' d₁ d₂ old₁ old₂ huri
      · exact absurd huri (uri_ne_of_findByUri_eq_none hf old₁)
      · exact absurd huri.symm (uri_ne_of_findByUri_eq_none hf old₂)
      · rfl

/-- Closing an editor keeps documents and editors together. -/
theorem Consistent.close (h : w.Consistent) (hc : w.close editor = .ok w') : w'.Consistent := by
  have hstored := h.stored.close hc
  obtain ⟨closedId, hclosed, rfl⟩ := close_eq_ok hc
  -- what is stored afterwards was stored before, and the closed editor was not its last one
  have hkept : ∀ id d, (if (w.editors.erase editor).values.contains closedId then w.documents
      else w.documents.erase closedId).get? id = some d →
      w.documents.get? id = some d ∧ (id = closedId → id ∈ (w.editors.erase editor).values) := by
    intro id d hd
    split at hd
    · rename_i hshown
      exact ⟨hd, fun heq => heq ▸ List.contains_iff_mem.1 hshown⟩
    · rw [FiniteMap.get?_erase] at hd
      split at hd
      · cases hd
      · rename_i hne
        exact ⟨hd, fun heq => absurd heq hne⟩
  refine ⟨hstored, fun id hid => ?_, fun id d hd => h.own id d (hkept id d hd).1,
    fun id id' d d' hd hd' => h.uri_inj id id' d d' (hkept id d hd).1 (hkept id' d' hd').1⟩
  obtain ⟨d, hd⟩ := Option.isSome_iff_exists.1 hid
  obtain ⟨hbefore, hlast⟩ := hkept id d hd
  by_cases heq : id = closedId
  · obtain ⟨⟨e, shown⟩, hmem, rfl⟩ := List.mem_map.1 (hlast heq)
    exact ⟨e, (FiniteMap.get?_eq_some_iff _ _ _).2 hmem⟩
  · obtain ⟨e, he⟩ := h.shown id (by rw [FiniteMap.contains, hbefore]; rfl)
    have hne : e ≠ editor := by
      rintro rfl
      exact heq (Option.some.inj (he.symm.trans hclosed))
    exact ⟨e, (FiniteMap.get?_erase _ _ _).trans (by rw [if_neg hne, he])⟩

/-- Editing a document keeps documents and editors together. -/
theorem Consistent.edit (h : w.Consistent) {range : Span} {text : List Char}
    (he : w.edit id range text = .ok w') : w'.Consistent := by
  have hstored := h.stored.edit he
  have hkept : ∀ id' d', w'.documents.get? id' = some d' →
      ∃ d, w.documents.get? id' = some d ∧ d.id = d'.id ∧ d.uri = d'.uri :=
    fun _ _ => get?_documents_edit he
  obtain ⟨edited, taken, buffer, -, -, rfl⟩ := edit_eq_ok he
  refine ⟨hstored, fun id' hid' => ?_, fun id' d' hd' => ?_, fun id₁ id₂ d₁ d₂ h₁ h₂ huri => ?_⟩
  · obtain ⟨d', hd'⟩ := Option.isSome_iff_exists.1 hid'
    obtain ⟨d, hd, -, -⟩ := hkept id' d' hd'
    exact h.shown id' (by rw [FiniteMap.contains, hd]; rfl)
  · obtain ⟨d, hd, hid, -⟩ := hkept id' d' hd'
    rw [← hid]
    exact h.own id' d hd
  · obtain ⟨d, hd, -, hduri⟩ := hkept id₁ d₁ h₁
    obtain ⟨d', hd', -, hduri'⟩ := hkept id₂ d₂ h₂
    exact h.uri_inj id₁ id₂ d d' hd hd' (by rw [hduri, hduri', huri])

/-- **A call keeps documents and editors together**, if it opens no editor that is open. -/
theorem Consistent.call (h : w.Consistent)
    (fresh : ∀ e, c.opens? w.workspace = some e → w.isOpen e = false) : (w.call c).Consistent := by
  rcases w.call_cases c with ⟨editor, d, hopens, hc⟩ |
    ⟨-, ⟨editor, hc⟩ | ⟨id, range, text, hc⟩ | hc⟩
  · rw [hc]
    exact h.openDocument (fresh editor hopens)
  · exact h.close hc
  · exact h.edit hc
  · rwa [hc]

/-- Calls keep documents and editors together, if no editor is opened twice. -/
theorem Consistent.ofCalls (distinct : (cs.filterMap (opens? workspace)).Nodup) :
    (ofCalls workspace cs).Consistent := by
  induction cs using List.reverseRecOn with
  | nil => exact Consistent.empty workspace
  | append_singleton cs c ih =>
    rw [List.filterMap_append, List.nodup_append] at distinct
    obtain ⟨earlier, -, apart⟩ := distinct
    rw [ofCalls_concat]
    refine (ih earlier).call fun e hopens => ?_
    rw [workspace_ofCalls] at hopens
    rw [← Bool.not_eq_true]
    intro hopen
    exact apart e (mem_opens_of_isOpen hopen) e
      (List.mem_filterMap.2 ⟨c, List.mem_singleton_self c, hopens⟩) rfl

/-! ### What is found by a URI -/

/-- **A URI finds the document that is stored with it.** -/
theorem Consistent.findByUri_eq_some_iff (h : w.Consistent) :
    w.findByUri uri = some id ↔ ∃ d, w.documents.get? id = some d ∧ d.uri = uri := by
  refine ⟨exists_of_findByUri, fun ⟨d, hd, huri⟩ => ?_⟩
  cases hf : w.findByUri uri with
  | none => exact absurd huri (uri_ne_of_findByUri_eq_none hf hd)
  | some id' =>
    obtain ⟨d', hd', huri'⟩ := exists_of_findByUri hf
    rw [h.uri_inj id' id d' d hd' hd (huri'.trans huri.symm)]

/-- What is found by a URI does not depend on the order in which documents are held. -/
theorem Consistent.findByUri_of_perm (h : w.Consistent) {documents : FiniteMap DocumentId Document}
    (hperm : documents.entries.Perm w.documents.entries) :
    findByUri { w with documents := documents } uri = w.findByUri uri := by
  have hget := FiniteMap.get?_of_perm hperm
  have h' : Consistent { w with documents := documents } := by
    refine ⟨fun e id he => ?_, fun id hid => ?_, fun id d hd => ?_, fun id id' d d' hd hd' => ?_⟩
    · rw [FiniteMap.contains, hget]
      exact h.stored e id he
    · rw [FiniteMap.contains, hget] at hid
      exact h.shown id hid
    · rw [hget] at hd
      exact h.own id d hd
    · rw [hget] at hd hd'
      exact h.uri_inj id id' d d' hd hd'
  ext id
  rw [h'.findByUri_eq_some_iff, h.findByUri_eq_some_iff, hget]

/-- An editor is found by a URI if it shows a document with that URI. -/
theorem Consistent.mem_editorsFor_iff (h : w.Consistent) :
    e ∈ w.editorsFor uri ↔ ∃ d, w.documentFor e = .ok d ∧ d.uri = uri := by
  have hmem : ∀ id, e ∈ ascending ((w.editors.entries.filter (·.2 = id)).map Prod.fst) ↔
      w.editors.get? e = some id := by
    intro id
    rw [FiniteMap.get?_eq_some_iff, ascending, List.mem_mergeSort]
    simp
  unfold editorsFor
  cases hf : w.findByUri uri with
  | none =>
    refine iff_of_false List.not_mem_nil ?_
    rintro ⟨d, hd, huri⟩
    obtain ⟨id, -, hstored⟩ := documentFor_eq_ok_iff.1 hd
    exact uri_ne_of_findByUri_eq_none hf hstored huri
  | some id =>
    rw [hmem]
    constructor
    · intro he
      obtain ⟨d, hd, huri⟩ := exists_of_findByUri hf
      exact ⟨d, documentFor_eq_ok_iff.2 ⟨id, he, hd⟩, huri⟩
    · rintro ⟨d, hd, huri⟩
      obtain ⟨id', he, hstored⟩ := documentFor_eq_ok_iff.1 hd
      have hfound := h.findByUri_eq_some_iff.2 ⟨d, hstored, huri⟩
      rw [he, ← hfound, hf]

/-- The editors of a URI come in ascending order, each once. -/
theorem pairwise_editorsFor (w : Workbench) (uri : Uri) :
    (w.editorsFor uri).Pairwise (·.number < ·.number) := by
  unfold editorsFor
  cases w.findByUri uri with
  | none => exact List.Pairwise.nil
  | some id =>
    have hnodup : ((w.editors.entries.filter (·.2 = id)).map Prod.fst).Nodup :=
      w.editors.nodup.sublist (List.filter_sublist.map Prod.fst)
    have hnumbers := hnodup.map (f := EditorId.number) fun a b heq => congrArg EditorId.mk heq
    exact Ascending.of_mergeSort (fun a b => decide_eq_true_iff) hnumbers

/-- A document is found by its identifier exactly if it is stored under it. -/
theorem document_eq_ok_iff : w.document id = .ok d ↔ w.documents.get? id = some d := by
  unfold document
  cases w.documents.get? id <;> simp

/-- A stored document is shown by an open editor. -/
theorem Consistent.exists_documentFor (h : w.Consistent) (hd : w.document id = .ok d) :
    ∃ e, w.isOpen e = true ∧ w.documentFor e = .ok d := by
  have hstored := document_eq_ok_iff.1 hd
  obtain ⟨e, he⟩ := h.shown id (by rw [FiniteMap.contains, hstored]; rfl)
  have hshown := documentFor_eq_ok_iff.2 ⟨id, he, hstored⟩
  exact ⟨e, isOpen_of_documentFor hshown, hshown⟩

/-- **Documents and editors fit together after any calls**, successful or failing, in which no
editor is opened twice. The editors that were opened and not closed since are open, and each shows a
document; a stored document is shown by an open editor, is stored under its own identifier, and is
the only one with its URI. So what a URI finds does not depend on the order in which documents are
held, and its editors are all open editors that show a document with the URI, in ascending order and
each once. -/
theorem ofCalls_consistent (workspace : Workspace) (cs : List WorkbenchCall)
    (distinct : (cs.filterMap (opens? workspace)).Nodup) :
    (∀ e, (ofCalls workspace cs).isOpen e = true ↔
        ∃ earlier c, c.opens? workspace = some e ∧ History.LastAt cs earlier c (· = .close e)) ∧
      (∀ e, (ofCalls workspace cs).isOpen e = true →
        ∃ d, (ofCalls workspace cs).documentFor e = .ok d) ∧
      (∀ id d, (ofCalls workspace cs).document id = .ok d → d.id = id ∧
        ∃ e, (ofCalls workspace cs).isOpen e = true ∧
          (ofCalls workspace cs).documentFor e = .ok d) ∧
      (∀ id id' d d', (ofCalls workspace cs).document id = .ok d →
        (ofCalls workspace cs).document id' = .ok d' → d.uri = d'.uri → id = id') ∧
      ∀ uri,
        (∀ documents, documents.entries.Perm (ofCalls workspace cs).documents.entries →
          findByUri { ofCalls workspace cs with documents := documents } uri =
            (ofCalls workspace cs).findByUri uri) ∧
        (∀ id, (ofCalls workspace cs).findByUri uri = some id ↔
          ∃ d, (ofCalls workspace cs).document id = .ok d ∧ d.uri = uri) ∧
        ((ofCalls workspace cs).editorsFor uri).Pairwise (·.number < ·.number) ∧
        ∀ e, e ∈ (ofCalls workspace cs).editorsFor uri ↔
          (ofCalls workspace cs).isOpen e = true ∧
            ∃ d, (ofCalls workspace cs).documentFor e = .ok d ∧ d.uri = uri := by
  have h := Consistent.ofCalls distinct
  refine ⟨fun e => isOpen_ofCalls_iff, fun e he => h.stored.documentFor_of_isOpen he,
    fun id d hd => ?_, fun id id' d d' hd hd' huri => ?_,
    fun uri => ⟨fun documents hperm => ?_, fun id => ?_, ?_, fun e => ?_⟩⟩
  · exact ⟨h.own id d (document_eq_ok_iff.1 hd), h.exists_documentFor hd⟩
  · exact h.uri_inj id id' d d' (document_eq_ok_iff.1 hd) (document_eq_ok_iff.1 hd') huri
  · exact h.findByUri_of_perm hperm
  · simp only [document_eq_ok_iff]
    exact h.findByUri_eq_some_iff
  · exact pairwise_editorsFor _ uri
  · rw [h.mem_editorsFor_iff]
    constructor
    · rintro ⟨d, hd, huri⟩
      exact ⟨isOpen_of_documentFor hd, d, hd, huri⟩
    · rintro ⟨-, d, hd, huri⟩
      exact ⟨d, hd, huri⟩

namespace Sample

/-- A document with the given identifier and URI. -/
def document (number : Nat) (uri : Uri) : Document :=
  ⟨⟨number⟩, uri, none, "a", none, ⟨"text".toList, 0⟩⟩

/-- The URI of a document that two editors share. -/
def shared : Uri :=
  ⟨"file:///w/shared", by decide⟩

/-- The URI of a document that is closed and opened again. -/
def reopened : Uri :=
  ⟨"file:///w/reopened", by decide⟩

/-- Two editors are opened on one URI and one on another, a file is not found, a document is edited,
the third editor is closed, closing another one fails, and what was closed is opened again. -/
def calls : List WorkbenchCall :=
  [.openDocument ⟨7⟩ (document 1 shared), .openDocument ⟨2⟩ (document 2 shared),
    .openDocument ⟨3⟩ (document 3 reopened), .openFile .empty ⟨7⟩ ⟨4⟩ (.ofString "c"),
    .edit ⟨1⟩ ⟨0, 4⟩ "more".toList, .close ⟨3⟩, .close ⟨9⟩,
    .openDocument ⟨5⟩ (document 3 reopened)]

end Sample

/-- After the calls the shared document has two editors, and what was opened again is stored and
shown. -/
theorem ofCalls_consistent_two_uris :
    (ofCalls ⟨.ofString "/w"⟩ Sample.calls).editorsFor Sample.shared = [⟨2⟩, ⟨7⟩] ∧
      (∃ d, (ofCalls ⟨.ofString "/w"⟩ Sample.calls).documentFor ⟨2⟩ = .ok d ∧
        d.uri = Sample.shared) ∧
      ∃ e, (ofCalls ⟨.ofString "/w"⟩ Sample.calls).documentFor e =
        .ok (Sample.document 3 Sample.reopened) := by
  have distinct : (Sample.calls.filterMap (opens? ⟨.ofString "/w"⟩)).Nodup := by
    have hopens : Sample.calls.filterMap (opens? ⟨.ofString "/w"⟩) = [⟨7⟩, ⟨2⟩, ⟨3⟩, ⟨5⟩] := rfl
    rw [hopens]
    decide
  have editors : (ofCalls ⟨.ofString "/w"⟩ Sample.calls).editorsFor Sample.shared =
      [⟨2⟩, ⟨7⟩] := by
    show ([⟨2⟩, ⟨7⟩] : List EditorId).mergeSort (fun a b => a.number ≤ b.number) = _
    simp [List.mergeSort]
  have stored : (ofCalls ⟨.ofString "/w"⟩ Sample.calls).document ⟨3⟩ =
      .ok (Sample.document 3 Sample.reopened) := rfl
  obtain ⟨-, -, shown, -, found⟩ := ofCalls_consistent ⟨.ofString "/w"⟩ Sample.calls distinct
  obtain ⟨-, e, -, he⟩ := shown _ _ stored
  have hmem : ⟨2⟩ ∈ (ofCalls ⟨.ofString "/w"⟩ Sample.calls).editorsFor Sample.shared := by
    rw [editors]
    exact List.mem_cons_self
  exact ⟨editors, (((found Sample.shared).2.2.2 ⟨2⟩).1 hmem).2, e, he⟩

end Workbench

end AnnotationBridge
