import AnnotationBridge.Document
import AnnotationBridge.FiniteMap
import AnnotationBridge.Lsp.Diagnostic

/-!
# Markers

A `Marker` is a published diagnostic bound to a span of a document. For each editor and server the
`MarkerStore` holds one batch, that of the last publish; a publish replaces the whole batch. Each
batch has a generation, counted over the whole store, by which a marker is known to be current.

* `Locator`, `tokenLocator`: the span for a diagnostic without extent.
* `bind`: the span of a diagnostic.
* `MarkerStore.replace`, `MarkerStore.clear`, `MarkerStore.clearEditor`: changing the store.
* `MarkerStore.collect`, `MarkerStore.generation`, `MarkerStore.isCurrent`: looking at it.
-/

namespace AnnotationBridge

open Text

/-- Finds the span of the element at an offset of a document. -/
abbrev Locator := Document → Nat → Span

/-- The word at the offset. -/
def tokenLocator : Locator := fun d offset =>
  (d.buffer.tokenAt offset).toOption.getD ⟨offset, offset⟩

/-- The offset that a diagnostic's position stands for. -/
def offsetOf (d : Document) (p : Lsp.Position) : Nat :=
  d.buffer.indexOfUtf16 ⟨p.line.toNat, p.character.toNat⟩

/-- The span of a diagnostic's range: the range itself, or the element at its start if it has no
extent. -/
def bindRange (locate : Locator) (d : Document) (range : Lsp.Range) : Span :=
  let start := offsetOf d range.start
  let stop := offsetOf d range.stop
  if start < stop then ⟨start, stop⟩ else locate d start

/-- A diagnostic bound to a span. -/
structure Marker where
  editor : EditorId
  server : String
  generation : Nat
  diagnostic : Lsp.Diagnostic
  span : Span
  /-- The text of the span when it was bound; empty if the span is not within the text. -/
  text : String

/-- The marker of a diagnostic. -/
def Marker.ofDiagnostic (locate : Locator) (editor : EditorId) (server : String) (generation : Nat)
    (d : Document) (diagnostic : Lsp.Diagnostic) : Marker :=
  let span := bindRange locate d diagnostic.range
  { editor, server, generation, diagnostic, span
    text := String.ofList ((d.textIn span).toOption.getD []) }

/-- The markers of one publish. -/
structure Batch where
  generation : Nat
  markers : List Marker

/-- The batches by editor and server. -/
structure MarkerStore where
  batches : FiniteMap (EditorId × String) Batch
  /-- The generation of the next batch. -/
  next : Nat

namespace MarkerStore

/-- A store without batches. -/
def empty : MarkerStore :=
  ⟨.empty, 1⟩

/-- The batch of a key. -/
def batch? (s : MarkerStore) (editor : EditorId) (server : String) : Option Batch :=
  s.batches.get? (editor, server)

/-- The store without the batch of a key. -/
def clear (s : MarkerStore) (editor : EditorId) (server : String) : MarkerStore :=
  { s with batches := s.batches.erase (editor, server) }

/-- The store without the batches of an editor. -/
def clearEditor (s : MarkerStore) (editor : EditorId) : MarkerStore :=
  { s with batches := s.batches.filterKeys fun key => decide (key.1 ≠ editor) }

/-- The store in which the batch of a key has one marker for each diagnostic, bound to the present
text of the document. -/
def replace (s : MarkerStore) (locate : Locator) (editor : EditorId) (server : String)
    (d : Document) (diagnostics : List Lsp.Diagnostic) : MarkerStore :=
  let markers := diagnostics.map (Marker.ofDiagnostic locate editor server s.next d)
  { batches := s.batches.insert (editor, server) ⟨s.next, markers⟩
    next := s.next + 1 }

/-- The markers of a key, in the order in which they were published. -/
def collect (s : MarkerStore) (editor : EditorId) (server : String) : List Marker :=
  ((s.batch? editor server).map Batch.markers).getD []

/-- The generation of the batch of a key. -/
def generation (s : MarkerStore) (editor : EditorId) (server : String) : Option Nat :=
  (s.batch? editor server).map Batch.generation

/-- Whether a marker belongs to the batch that its key holds now. -/
def isCurrent (s : MarkerStore) (m : Marker) : Bool :=
  s.generation m.editor m.server == some m.generation

/-- The number of keys that hold a batch. -/
def size (s : MarkerStore) : Nat :=
  s.batches.size

/-! ### Changes as seen from a key -/

/-- A replacement gives its key a batch of its own, and the other keys keep theirs. -/
theorem batch?_replace (s : MarkerStore) (locate : Locator) (editor e : EditorId)
    (server v : String) (d : Document) (diagnostics : List Lsp.Diagnostic) :
    (s.replace locate editor server d diagnostics).batch? e v =
      if (e, v) = (editor, server) then
        some ⟨s.next, diagnostics.map (Marker.ofDiagnostic locate editor server s.next d)⟩
      else s.batch? e v :=
  FiniteMap.get?_insert _ _ _ _

/-- Clearing a key takes its batch, and the other keys keep theirs. -/
theorem batch?_clear (s : MarkerStore) (editor e : EditorId) (server v : String) :
    (s.clear editor server).batch? e v =
      if (e, v) = (editor, server) then none else s.batch? e v :=
  FiniteMap.get?_erase _ _ _

/-- Clearing an editor takes the batches of all its keys. -/
theorem batch?_clearEditor (s : MarkerStore) (editor e : EditorId) (v : String) :
    (s.clearEditor editor).batch? e v = if e = editor then none else s.batch? e v := by
  unfold clearEditor batch?
  rw [FiniteMap.get?_filterKeys]
  by_cases h : e = editor <;> simp [h]

end MarkerStore

end AnnotationBridge
