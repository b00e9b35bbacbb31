import AnnotationBridge.Pass
import AnnotationBridge.UiQueue
import AnnotationBridge.Workbench

/-!
# The annotator

The `Annotator` keeps the markers that servers publish for the editors of a workbench, makes the
passes that ask servers about them, and shows the results in the editors.

* `Annotator.publish`: takes in what a server publishes; `Annotator.passesDue`: the passes that
  begin then.
* `Annotator.collect`: a pass about an editor, as things are now.
* `Annotator.apply`: shows a result. A result older than what the editor shows is dropped.
* `Annotator.editorClosed`: forgets an editor.
* `Annotator.react`: what the annotator does when something happens in the workbench.
-/

namespace AnnotationBridge

open Lsp

/-- What is queued for the UI thread. -/
inductive UiAction where
  | apply (result : PassResult)
  | clear (editor : EditorId)

/-- The markers, passes and annotations of a workbench. -/
structure Annotator where
  workbench : Workbench
  pool : ConnectionPool
  locate : Locator
  config : AnnotatorConfig
  markers : MarkerStore
  /-- The number of the next pass. -/
  nextPass : Nat
  /-- The number of the last pass that was applied to each editor. -/
  applied : FiniteMap EditorId Nat
  sink : AnnotationStore
  ui : UiQueue UiAction

namespace Annotator

/-- An annotator for which nothing happened yet. -/
def empty (workbench : Workbench) (pool : ConnectionPool) (locate : Locator)
    (config : AnnotatorConfig) : Annotator where
  workbench := workbench
  pool := pool
  locate := locate
  config := config
  markers := .empty
  nextPass := 1
  applied := .empty
  sink := .empty
  ui := .empty

/-! ### Publishing -/

/-- Replaces the markers of a server in an editor by those for the diagnostics. -/
def replaceMarkers (a : Annotator) (server : String) (diagnostics : List Diagnostic)
    (editor : EditorId) : Annotator :=
  match a.workbench.documentFor editor with
  | .ok d => { a with markers := a.markers.replace a.locate editor server d diagnostics }
  | .error _ => a

/-- Takes in what a server publishes about a document: the editors that show it. -/
def publish (a : Annotator) (server : String) (params : PublishParams) :
    List EditorId × Annotator :=
  let editors := a.workbench.editorsFor params.uri
  let a := editors.foldl (·.replaceMarkers server params.diagnostics) a
  (editors, { a with workbench := a.workbench.emit (.published params.uri.text server) })

/-- The editors for which a pass is due after a publish that reached the given ones. A pass needs a
runtime to go on by itself. -/
def passesDue (a : Annotator) (runtime : Bool) (editors : List EditorId) : List EditorId :=
  if a.config.renderOnPublish && runtime then editors else []

/-! ### Passes -/

/-- A pass about an editor, with the markers and connections that there are now; none if the editor
is not open. -/
def collect (a : Annotator) (editor : EditorId) : Option Pass × Annotator :=
  match a.workbench.documentFor editor with
  | .error _ => (none, a)
  | .ok d =>
    let connections := a.pool.resolve d fun _ => true
    let markersOf (c : Connection) := a.markers.collect editor c.server
    (some ⟨a.nextPass, editor, d, Pass.inquiriesFrom a.nextPass 0 markersOf connections⟩,
      { a with nextPass := a.nextPass + 1 })

/-! ### Showing results -/

/-- The number of the last pass that was applied to an editor. -/
def appliedPass? (a : Annotator) (editor : EditorId) : Option Nat :=
  a.applied.get? editor

/-- The annotator without a record of what was applied to an editor. -/
def forgetApplied (a : Annotator) (editor : EditorId) : Annotator :=
  { a with applied := a.applied.erase editor }

/-- Shows annotations in an editor as the outcome of a pass. -/
def present (a : Annotator) (editor : EditorId) (pass : Nat) (annotations : List Annotation) :
    Annotator :=
  { a with
    applied := a.applied.insert editor pass
    sink := a.sink.present editor annotations
    workbench := a.workbench.emit (.applied editor annotations.length) }

/-- Shows a result: the number of annotations shown. Only the UI thread may do so. Nothing is shown
in an editor that is closed, or that a later pass was applied to. -/
def apply (a : Annotator) (onUi : Bool) (result : PassResult) :
    Except RequestError Nat × Annotator :=
  if !onUi then (.error .notOnUiThread, a)
  else if !a.workbench.isOpen result.editor then (.ok 0, a)
  else if result.pass < (a.appliedPass? result.editor).getD 0 then (.ok 0, a)
  else
    let annotations := result.render a.markers
    (.ok annotations.length, a.present result.editor result.pass annotations)

/-- Queues an action for the UI thread. -/
def queue (a : Annotator) (action : UiAction) : Annotator :=
  { a with ui := a.ui.invokeLater (.perform action []) }

/-- Queues a result to be shown. -/
def schedule (a : Annotator) (result : PassResult) : Annotator :=
  a.queue (.apply result)

/-- Performs a queued action. -/
def perform (a : Annotator) (action : UiAction) (onUi : Bool) : Annotator :=
  match action with
  | .apply result => (a.apply onUi result).2
  | .clear editor => { a with sink := a.sink.clear editor }

/-- Runs what is queued for the UI thread: the number of tasks. -/
def runUi (a : Annotator) : Nat × Annotator :=
  let (thread, ui) := a.ui.runPending false
  ((thread.ended.bind id).getD 0,
    thread.log.foldl (fun a (action, onUi) => a.perform action onUi) { a with ui := ui })

/-- Whether a result is queued to be shown. -/
def hasScheduled (a : Annotator) : Bool :=
  a.ui.pending.any fun task => task.steps.any fun
    | .perform (.apply _) => true
    | _ => false

/-! ### Following the workbench -/

/-- Forgets an editor. What it shows is cleared by the UI thread. -/
def editorClosed (a : Annotator) (editor : EditorId) : Annotator :=
  queue { a.forgetApplied editor with markers := a.markers.clearEditor editor } (.clear editor)

/-- What the annotator does about an event: the editors for which a pass has to start. Markers stay
where they are when a document changes. -/
def react (a : Annotator) : Event → List EditorId × Annotator
  | .opened editor => ([editor], a)
  | .closed editor => ([], a.editorClosed editor)
  | .changed document =>
    match a.workbench.document document with
    | .ok d => (a.workbench.editorsFor d.uri, a)
    | .error _ => ([], a)
  | .published _ _ | .applied _ _ => ([], a)

end Annotator

end AnnotationBridge
