import AnnotationBridge.Arguments
import AnnotationBridge.Script
import AnnotationBridge.Session

/-!
# Reports

A report replays recorded diagnostics against a file and tells what an editor of the file would
show: a line for each annotation and, below it, one for each fix.

* `annotationLines`: the lines about an annotation.
* `Report.make`: the report that a command line asks for, or why there is none.
-/

namespace AnnotationBridge

open Lsp

/-- Why there is no report. -/
inductive ReportError where
  | config (path : Path)
  | file (path : Path)
  | access (cause : AccessError)
  | unreadable (path : Path)
  | malformed (path : Path)
  | replies (path : Path)
  deriving DecidableEq, Repr

/-- The text of the error. -/
def ReportError.message : ReportError → String
  | .config path => "failed to load config " ++ path.display
  | .file path => "cannot open " ++ path.display
  | .access cause => cause.message
  | .unreadable path => "cannot read " ++ path.display
  | .malformed path => "invalid JSON in " ++ path.display
  | .replies path => "failed to read replies " ++ path.display

/-- Where an annotation starts, in lines and columns from 1. -/
def locationOf (d : Document) (range : Text.Span) : String :=
  match d.buffer.position range.start with
  | .ok position => position.shown
  | .error _ => "?"

/-- The lines about an annotation: one for itself and one for each fix. -/
def annotationLines (name : String) (d : Document) (a : Annotation) : List String :=
  (name ++ ":" ++ locationOf d a.range ++ ": " ++ a.severity.name ++ ": " ++ a.message ++
    " [" ++ a.source ++ "]") ::
  a.fixes.map fun fix => "    fix: " ++ fix.title

/-- Lines to print, and the time that passed until they were known. -/
structure Report where
  lines : List String
  elapsedMs : Nat
  deriving DecidableEq, Repr

namespace Report

/-- The diagnostics of a recorded publish. What else was recorded does not matter. -/
def recorded? (text : String) : Option (List Diagnostic) := do
  let j ← Json.ofText? text
  (← Json.record? ["diagnostics"] 1 j).required "diagnostics" (Json.list? Diagnostic.ofJson?)

/-- The configuration that a command line asks for. -/
def config (files : Files) (home configHome : Path) (a : Arguments) : Except ReportError Config := do
  let c ← match a.config with
    | some path => (Config.ofFile files path).mapError fun _ => ReportError.config path
    | none => .ok (Config.ofEnvironment files home configHome)
  return { c with annotator :=
    { codeActionTimeoutMs := a.timeoutMs.getD c.annotator.codeActionTimeoutMs
      renderOnPublish := false } }

/-- The recorded diagnostics of a file. -/
def diagnostics (files : Files) (path : Path) : Except ReportError (List Diagnostic) :=
  match files.readText path with
  | .error _ => .error (.unreadable path)
  | .ok text =>
    match recorded? text with
    | some ds => .ok ds
    | none => .error (.malformed path)

/-- The script of a file; without a file, one without rules. -/
def script (files : Files) : Option Path → Except ReportError Script
  | none => .ok {}
  | some path => (Script.ofFile files path).mapError fun _ => .replies path

/-- The report about an open editor after its server has published diagnostics: one pass is made and
its result is shown. -/
def ofEditor (s : Session) (server name : String) (d : Document) (editor : EditorId)
    (ds : List Diagnostic) : Report :=
  let s := (s.publish server ⟨d.uri, ds, none⟩ true).2
  let s := (s.annotate editor).runUi.2
  { lines := (s.annotator.sink.annotations editor).flatMap (annotationLines name d)
    elapsedMs := s.now }

/-- The report that a command line asks for. -/
def make (files : Files) (home configHome : Path) (a : Arguments) : Except ReportError Report := do
  let config ← config files home configHome a
  let file ← (files.canonicalize a.file).mapError fun _ => .file a.file
  let directory := a.workspace.getD (file.parent.getD (.ofString "/"))
  let workspace ← (Workspace.ofDirectory files directory).mapError .access
  let ds ← diagnostics files a.diagnostics
  let script ← script files a.replies
  let s := (Session.start workspace.root config tokenLocator).connect a.server script.capabilities
    script.client
  let editor := s.nextEditor
  let s ← (s.openFile files file).mapError .access
  let d ← (s.workbench.documentFor editor).mapError .access
  return ofEditor s a.server file.display d editor ds

end Report

end AnnotationBridge
