import AnnotationBridge.Error
import AnnotationBridge.FiniteMap
import AnnotationBridge.Lsp.CodeAction

/-!
# Annotations

An `Annotation` is a highlight over a span of an editor, with fixes to choose from. An
`AnnotationStore` is what the editors show; each pass replaces all that an editor showed.

* `HighlightSeverity.ofSeverity`: the kind of highlight for a severity.
* `Annotation.start` and the functions after it: building an annotation.
* `AnnotationStore.present`, `AnnotationStore.clear`: what editors show.
-/

namespace AnnotationBridge

open Text

/-- Identifies a connection. -/
structure ConnectionId where
  number : Nat
  deriving DecidableEq, Repr, Inhabited

/-- The kinds of highlights. -/
inductive HighlightSeverity where
  | error
  | warning
  | information
  deriving DecidableEq, Repr

/-- The name of a kind. -/
def HighlightSeverity.name : HighlightSeverity → String
  | .error => "Error"
  | .warning => "Warning"
  | .information => "Information"

/-- The kind of highlight for a severity: errors and warnings have their own, all else is
information. -/
def HighlightSeverity.ofSeverity (severity : Option Int32) : HighlightSeverity :=
  if severity = some Lsp.errorSeverity then .error
  else if severity = some Lsp.warningSeverity then .warning
  else .information

/-- A fix offered on an annotation. -/
structure QuickFix where
  title : String
  /-- The connection that offered the fix. -/
  connection : ConnectionId
  action : Lsp.Action

/-- The fix of an action that a connection offered. -/
def QuickFix.ofAction (connection : ConnectionId) (action : Lsp.Action) : QuickFix :=
  ⟨action.title, connection, action⟩

/-- A highlight over a span. -/
structure Annotation where
  severity : HighlightSeverity
  message : String
  tooltip : Option String
  range : Span
  /-- The server that published the diagnostic. -/
  source : String
  fixes : List QuickFix

namespace Annotation

/-- An annotation with nothing but a severity and a message. -/
def start (severity : HighlightSeverity) (message : String) : Annotation :=
  ⟨severity, message, none, ⟨0, 0⟩, "", []⟩

/-- The annotation over another span. -/
def withRange (a : Annotation) (range : Span) : Annotation :=
  { a with range := range }

/-- The annotation with another tooltip. -/
def withTooltip (a : Annotation) (tooltip : String) : Annotation :=
  { a with tooltip := some tooltip }

/-- The annotation with another source. -/
def withSource (a : Annotation) (source : String) : Annotation :=
  { a with source := source }

/-- The annotation with one more fix. -/
def withFix (a : Annotation) (fix : QuickFix) : Annotation :=
  { a with fixes := a.fixes ++ [fix] }

end Annotation

/-- What the editors show. -/
structure AnnotationStore where
  shown : FiniteMap EditorId (List Annotation)

namespace AnnotationStore

/-- A store in which no editor shows anything. -/
def empty : AnnotationStore :=
  ⟨.empty⟩

/-- The store without what an editor shows. -/
def clear (s : AnnotationStore) (editor : EditorId) : AnnotationStore :=
  ⟨s.shown.erase editor⟩

/-- The store in which an editor shows the given annotations and nothing else. -/
def present (s : AnnotationStore) (editor : EditorId) (annotations : List Annotation) :
    AnnotationStore :=
  ⟨s.shown.insert editor annotations⟩

/-- What an editor shows. -/
def annotations (s : AnnotationStore) (editor : EditorId) : List Annotation :=
  (s.shown.get? editor).getD []

/-- Whether anything, an empty list included, was shown in an editor and not cleared. -/
def contains (s : AnnotationStore) (editor : EditorId) : Bool :=
  s.shown.contains editor

/-! ### Changes as seen from an editor -/

/-- An editor shows what it was given last. -/
theorem annotations_present (s : AnnotationStore) (editor e : EditorId) (shown : List Annotation) :
    (s.present editor shown).annotations e = if e = editor then shown else s.annotations e := by
  unfold annotations present
  rw [FiniteMap.get?_insert]
  by_cases h : e = editor <;> simp [h]

/-- An editor that was given annotations has them. -/
theorem contains_present (s : AnnotationStore) (editor e : EditorId) (shown : List Annotation) :
    (s.present editor shown).contains e = (decide (e = editor) || s.contains e) :=
  FiniteMap.contains_insert _ _ _ _

/-- An editor that was cleared has none. -/
theorem contains_clear (s : AnnotationStore) (editor e : EditorId) :
    (s.clear editor).contains e = (decide (e ≠ editor) && s.contains e) :=
  FiniteMap.contains_erase _ _ _

end AnnotationStore

end AnnotationBridge
