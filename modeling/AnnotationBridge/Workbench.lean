import AnnotationBridge.Document
import AnnotationBridge.Event
import AnnotationBridge.FiniteMap

/-!
# The workbench

The documents that are open and the editors that show them. Editors of one URI share one document,
which is dropped with its last editor. Each successful change is announced as an event.

* `Workbench.openDocument`, `Workbench.openFile`, `Workbench.close`, `Workbench.edit`: changes.
* `Workbench.editorsFor`, `Workbench.documentFor`, `Workbench.findByUri`: queries.
-/

namespace AnnotationBridge

open Text

/-- The open documents and editors of a workspace. -/
structure Workbench where
  workspace : Workspace
  documents : FiniteMap DocumentId Document
  /-- The document that each editor shows. -/
  editors : FiniteMap EditorId DocumentId
  feed : EventFeed

namespace Workbench

/-- A workbench in which nothing is open. -/
def empty (workspace : Workspace) : Workbench :=
  ⟨workspace, .empty, .empty, .empty⟩

/-! ### Queries -/

/-- The document of a URI. -/
def findByUri (w : Workbench) (uri : Uri) : Option DocumentId :=
  (w.documents.entries.find? (·.2.uri = uri)).map Prod.fst

/-- A document. -/
def document (w : Workbench) (id : DocumentId) : Except AccessError Document :=
  match w.documents.get? id with
  | some d => .ok d
  | none => .error (.documentNotFound id)

/-- Whether an editor is open. -/
def isOpen (w : Workbench) (editor : EditorId) : Bool :=
  w.editors.contains editor

/-- The document that an editor shows. -/
def documentFor (w : Workbench) (editor : EditorId) : Except AccessError Document :=
  match w.editors.get? editor with
  | some id => w.document id
  | none => .error (.editorNotFound editor)

/-- Identifiers of editors in ascending order. -/
def ascending (editors : List EditorId) : List EditorId :=
  editors.mergeSort fun a b => a.number ≤ b.number

/-- All open editors. -/
def openEditors (w : Workbench) : List EditorId :=
  ascending w.editors.keys

/-- The open editors that show the document of a URI. -/
def editorsFor (w : Workbench) (uri : Uri) : List EditorId :=
  match w.findByUri uri with
  | none => []
  | some id => ascending ((w.editors.entries.filter (·.2 = id)).map Prod.fst)

/-- A range of the text that an editor shows. -/
def text (w : Workbench) (editor : EditorId) (range : Span) : Except AccessError (List Char) := do
  (← w.documentFor editor).textIn range

/-- The number of open documents. -/
def documentCount (w : Workbench) : Nat :=
  w.documents.size

/-! ### Changes -/

/-- The workbench after an event has been announced. -/
def emit (w : Workbench) (e : Event) : Workbench :=
  { w with feed := w.feed.emit e }

/-- Opens an editor on a document, or on the open document of the same URI if there is one. -/
def openDocument (w : Workbench) (editor : EditorId) (d : Document) : Workbench :=
  let (id, documents) := match w.findByUri d.uri with
    | some id => (id, w.documents)
    | none => (d.id, w.documents.insert d.id d)
  emit { w with documents := documents, editors := w.editors.insert editor id } (.opened editor)

/-- Opens an editor on a file of the workspace. -/
def openFile (w : Workbench) (files : Files) (editor : EditorId) (id : DocumentId) (path : Path) :
    Except AccessError Workbench :=
  (Document.ofFile files id (w.workspace.resolve path)).map (w.openDocument editor)

/-- Closes an editor, and drops its document if no other editor shows it. -/
def close (w : Workbench) (editor : EditorId) : Except AccessError Workbench :=
  match w.editors.get? editor with
  | none => .error (.editorNotFound editor)
  | some id =>
    let editors := w.editors.erase editor
    let documents := if editors.values.contains id then w.documents else w.documents.erase id
    .ok (emit { w with documents := documents, editors := editors } (.closed editor))

/-- Replaces a range of a document. -/
def edit (w : Workbench) (id : DocumentId) (range : Span) (text : List Char) :
    Except AccessError Workbench := do
  let d ← w.document id
  let (_, buffer) ← (d.buffer.replace range text).mapError .buffer
  let documents := w.documents.insert id { d with buffer := buffer }
  .ok (emit { w with documents := documents } (.changed id))

end Workbench

end AnnotationBridge
