import AnnotationBridge.Proofs.Binding
import AnnotationBridge.Proofs.FileUri
import AnnotationBridge.Proofs.Freshness
import AnnotationBridge.Proofs.Script
import AnnotationBridge.Proofs.UiRun
import AnnotationBridge.Proofs.Session
import AnnotationBridge.Report

/-!
# What a report says

A report puts all parts together: files and their URIs, the workspace, the languages of servers,
markers, a script with its delays, the pass and what it shows. The lines that come out depend on
each diagnostic alone and keep the order in which the diagnostics were recorded.

* `Text.Position.IsAt`: the position of an offset. `start_bindRange_le`: the span of a diagnostic
  starts inside the text, so it has one.
* `Session.annotations_annotate_runUi`: a pass that is waited for and shown.
* `Report.Loaded`: all that a command line names can be read. `Report.Loaded.make_eq`: then there is
  a report.
* `Report.Loaded.resolve_document`, `Report.Loaded.exists_result`, `Report.Loaded.lines_ofEditor`:
  who is asked, what the pass finds, and what is printed.
* `Report.Loaded.make_spec`: the lines of the report.
-/

namespace AnnotationBridge

open Lsp

/-! ### Positions of spans -/

namespace Text

variable {b : TextBuffer} {i : Nat}

/-- A position is that of an offset of a text if it is a column of a line, and the offset is as many
characters after the start of that line. -/
def Position.IsAt (p : Position) (cs : List Char) (i : Nat) : Prop :=
  ∃ l, IsColumn (lines cs) p.line l p.column ∧ i = startOf (lines cs) p.line + p.column

/-- An offset has no other position than the one at which it is found. -/
theorem Position.IsAt.eq_locate {p : Position} {cs : List Char} (h : p.IsAt cs i) :
    p = TextBuffer.locate (lines cs) i := by
  obtain ⟨l, hcolumn, rfl⟩ := h
  exact (TextBuffer.locate_startOf_add hcolumn).symm

namespace TextBuffer

/-- **Each offset of a text has a position.** -/
theorem exists_position (h : i ≤ b.size) :
    ∃ p : Position, b.position i = .ok p ∧ p.IsAt b.text i := by
  obtain ⟨n, l, k, hcolumn, heq⟩ := exists_lineStart_add h
  refine ⟨⟨n, k⟩, ?_, l, hcolumn, heq⟩
  rw [heq]
  exact position_of_isColumn hcolumn

end TextBuffer

end Text

/-- The span of a diagnostic starts inside the text. -/
theorem start_bindRange_le (d : Document) (range : Lsp.Range) :
    (bindRange tokenLocator d range).start ≤ d.buffer.size := by
  have hbinds := binds_bindRange d range
  exact Nat.le_trans hbinds.ordered hbinds.inside

/-- The lines about an annotation on a span that starts inside the text. -/
theorem annotationLines_eq (name : String) {d : Document} {a : Annotation}
    (h : a.range.start ≤ d.buffer.size) :
    ∃ p : Text.Position, p.IsAt d.buffer.text a.range.start ∧
      annotationLines name d a =
        (name ++ ":" ++ p.shown ++ ": " ++ a.severity.name ++ ": " ++ a.message ++
          " [" ++ a.source ++ "]") :: a.fixes.map fun fix => "    fix: " ++ fix.title := by
  obtain ⟨p, hp, hat⟩ := Text.TextBuffer.exists_position h
  refine ⟨p, hat, ?_⟩
  rw [annotationLines, locationOf, hp]

/-! ### A pass that is waited for and shown -/

namespace Session

variable {s : Session} {editor : EditorId} {p : Pass} {r : PassResult}

/-- A pass that is waited for while no other one is brings its own result only. -/
theorem settled_of_idle (idle : s.exchange.waiting = []) (deadline : Nat) :
    (s.exchange.resolve false deadline p).2.1 = [] := by
  apply List.eq_nil_iff_forall_not_mem.2
  intro q hq
  obtain ⟨w, hw, -⟩ := (s.exchange.resolve_settles false deadline p).1.results q hq
  rw [idle] at hw
  cases hw

/-- After a pass about an editor, its result is queued. -/
theorem annotator_annotate (made : (s.annotator.collect editor).1 = some p)
    (found : (s.exchange.resolve false s.deadline p).1 = .ok r) (idle : s.exchange.waiting = []) :
    (s.annotate editor).annotator =
      Annotator.schedule { s.annotator with nextPass := s.annotator.nextPass + 1 } r := by
  let t : Session :=
    { s with annotator := { s.annotator with nextPass := s.annotator.nextPass + 1 } }
  have hcollect : s.collect editor = (some p, t) := by
    show ((s.annotator.collect editor).1,
      { s with annotator := (s.annotator.collect editor).2 }) = _
    rw [s.annotator.snd_collect, made]
    rfl
  have hresolve : t.resolve false p =
      (.ok r, { t with exchange := (s.exchange.resolve false s.deadline p).2.2 }) := by
    show ((s.exchange.resolve false s.deadline p).1, t.withExchange
      (s.exchange.resolve false s.deadline p).2.1 (s.exchange.resolve false s.deadline p).2.2) = _
    rw [found, settled_of_idle idle]
    rfl
  unfold annotate
  rw [hcollect]
  dsimp only
  rw [hresolve]
  rfl

/-- **What an editor shows after a pass about it**, if nothing else was waiting to be found or
shown. -/
theorem annotations_annotate_runUi (made : (s.annotator.collect editor).1 = some p)
    (found : (s.exchange.resolve false s.deadline p).1 = .ok r) (hr : r.editor = editor)
    (idle : s.exchange.waiting = []) (quiet : s.annotator.ui = .empty)
    (accepts : s.annotator.accepts true r = true) :
    (s.annotate editor).runUi.2.annotator.sink.annotations editor =
      r.render s.annotator.markers := by
  let queued : Annotator :=
    { s.annotator with
      nextPass := s.annotator.nextPass + 1
      ui := ⟨[UiAction.apply r].map (.perform · []), true⟩ }
  have hannotate : (s.annotate editor).annotator = queued := by
    rw [annotator_annotate made found idle]
    simp only [Annotator.schedule, Annotator.queue, quiet]
    rfl
  have hrun : queued.runUi.2 = ((queued.withPending []).apply true r).2 := by
    rw [Annotator.runUi_eq (by rfl)]
    rfl
  show (s.annotate editor).annotator.runUi.2.sink.annotations editor = _
  rw [hannotate, hrun, Annotator.apply_of_accepts (by exact accepts)]
  show (AnnotationStore.present _ r.editor _).annotations editor = _
  rw [AnnotationStore.annotations_present, if_pos hr.symm]
  rfl

end Session

/-! ### The first document of a workbench -/

namespace Workbench

/-- The editor in which the first document is opened shows it. -/
theorem documentFor_openDocument_empty (workspace : Workspace) (editor : EditorId) (d : Document) :
    ((empty workspace).openDocument editor d).documentFor editor = .ok d := by
  rw [openDocument_of_not_found (by rfl)]
  refine documentFor_eq_ok_iff.2 ⟨d.id, ?_, ?_⟩
  · exact (FiniteMap.get?_insert _ _ _ _).trans (if_pos rfl)
  · exact (FiniteMap.get?_insert _ _ _ _).trans (if_pos rfl)

/-- It is the only editor of the document. -/
theorem editorsFor_openDocument_empty (workspace : Workspace) (editor : EditorId) (d : Document) :
    ((empty workspace).openDocument editor d).editorsFor d.uri = [editor] := by
  have hfound : ((empty workspace).openDocument editor d).findByUri d.uri = some d.id := by
    show ([(d.id, d)].find? (·.2.uri = d.uri)).map Prod.fst = _
    simp
  rw [editorsFor, hfound]
  show ascending (([(editor, d.id)].filter (·.2 = d.id)).map Prod.fst) = _
  simp [ascending]

end Workbench

/-! ### What goes into a report -/

namespace Report

/-- All that a command line names can be read, and its file opens as a document. -/
structure Loaded (files : Files) (home configHome : Path) (a : Arguments) where
  config : Config
  /-- The canonical path of the file. -/
  file : Path
  workspace : Workspace
  diagnostics : List Diagnostic
  script : Script
  document : Document
  config_eq : Report.config files home configHome a = .ok config
  file_eq : files.canonicalize a.file = .ok file
  workspace_eq :
    Workspace.ofDirectory files (a.workspace.getD (file.parent.getD (.ofString "/"))) =
      .ok workspace
  diagnostics_eq : Report.diagnostics files a.diagnostics = .ok diagnostics
  script_eq : Report.script files a.replies = .ok script
  document_eq : Document.ofFile files ⟨1⟩ file = .ok document

namespace Loaded

variable {files : Files} {home configHome : Path} {a : Arguments}
  (l : Loaded files home configHome a)

/-- How long the pass waits for answers. -/
def timeoutMs : Nat :=
  l.config.annotator.codeActionTimeoutMs.toNat

/-- Whether the server looks at the file: the file lies in the workspace, and the server has no
definition or one that applies to the language of the file. -/
def inScope : Bool :=
  l.workspace.root.isUnder l.file &&
    match l.config.server a.server with
    | none => true
    | some definition => definition.appliesTo l.document.language

/-- The server is asked if the file is in the workspace and the definition of the server applies to
it. -/
theorem inScope_of_server {definition : ServerConfig}
    (h : l.config.server a.server = some definition) :
    l.inScope =
      (l.workspace.root.isUnder l.file && definition.appliesTo l.document.language) := by
  rw [inScope, h]

/-- The lines that are expected about a diagnostic at a position, one-based as it is shown. -/
def linesAbout (p : Text.Position) (g : Diagnostic) : List String :=
  (l.file.display ++ ":" ++ p.shown ++ ": " ++ (HighlightSeverity.ofSeverity g.severity).name ++
    ": " ++ g.message ++ " [" ++ a.server ++ "]") ::
  (l.script.offers g).map fun action => "    fix: " ++ action.title

/-! ### The session of a report -/

/-- The connection over which the server is asked. -/
def connection : Connection :=
  ⟨⟨1⟩, a.server, l.script.capabilities, l.script.client⟩

/-- The session before the file is opened. -/
def connected : Session :=
  (Session.start l.workspace.root l.config tokenLocator).connect a.server l.script.capabilities
    l.script.client

/-- The session after the file was opened. -/
def opened : Session :=
  l.connected.opened ((Workbench.empty l.workspace).openDocument ⟨1⟩ l.document)

/-- The session after the server has published. -/
def published : Session :=
  (l.opened.publish a.server ⟨l.document.uri, l.diagnostics, none⟩ true).2

/-- The markers after the server has published. -/
def markers : MarkerStore :=
  MarkerStore.empty.replace tokenLocator ⟨1⟩ a.server l.document l.diagnostics

/-- The marker of a diagnostic. -/
def marker (g : Diagnostic) : Marker :=
  .ofDiagnostic tokenLocator ⟨1⟩ a.server 1 l.document g

/-- The annotation for a diagnostic that is shown. -/
def annotation (g : Diagnostic) : Annotation :=
  Finding.render ⟨1⟩ ⟨l.marker g, l.script.offers g⟩

/-- The editor that was opened shows the document of the file. -/
theorem documentFor_opened : l.opened.workbench.documentFor ⟨1⟩ = .ok l.document :=
  Workbench.documentFor_openDocument_empty l.workspace ⟨1⟩ l.document

/-- A publish reaches the editor and replaces its markers. -/
theorem annotator_published : l.published.annotator =
    { l.opened.annotator with
      markers := l.markers
      workbench := l.opened.workbench.emit (.published l.document.uri.text a.server) } := by
  have heditors : l.opened.workbench.editorsFor l.document.uri = [⟨1⟩] :=
    Workbench.editorsFor_openDocument_empty l.workspace ⟨1⟩ l.document
  have hreplacements : l.opened.annotator.replacements a.server l.diagnostics [⟨1⟩] =
      [.replace ⟨1⟩ a.server l.document l.diagnostics] := by
    show ([⟨1⟩] : List EditorId).filterMap (fun e =>
      (l.opened.workbench.documentFor e).toOption.map _) = _
    rw [List.filterMap_cons, l.documentFor_opened]
    rfl
  show (l.opened.annotator.publish a.server ⟨l.document.uri, l.diagnostics, none⟩).2 = _
  rw [Annotator.snd_publish]
  show ({ l.opened.annotator with
    markers := l.opened.annotator.markers.changes tokenLocator (l.opened.annotator.replacements
      a.server l.diagnostics (l.opened.workbench.editorsFor l.document.uri))
    workbench := _ } : Annotator) = _
  rw [heditors, hreplacements]
  rfl

/-- The pass about the editor. -/
def pass : Pass :=
  ⟨1, ⟨1⟩, l.document, Pass.inquiriesFrom 1 0 (fun c => l.markers.collect ⟨1⟩ c.server)
    (l.opened.annotator.pool.resolve l.document fun _ => true)⟩

/-- The pass that is made after the publish is the one described. -/
theorem collect_published : (l.published.annotator.collect ⟨1⟩).1 = some l.pass := by
  have hdocument : l.published.annotator.workbench.documentFor ⟨1⟩ = .ok l.document := by
    rw [annotator_published]
    exact l.documentFor_opened
  unfold Annotator.collect
  rw [hdocument, annotator_published]
  rfl

/-- **The report that a command line asks for is made**, once all that it names can be read. -/
theorem make_eq (absolute : l.file.isAbsolute = true) :
    make files home configHome a = .ok (ofEditor l.opened a.server l.file.display l.document ⟨1⟩
      l.diagnostics) := by
  have hopen : l.connected.openFile files l.file = .ok l.opened := by
    show (Except.map _ (Document.ofFile files ⟨1⟩ (l.workspace.root.join l.file))).map _ = _
    rw [Path.join_absolute _ absolute, l.document_eq]
    rfl
  have hdocument : l.opened.workbench.documentFor l.connected.nextEditor = .ok l.document :=
    l.documentFor_opened
  unfold connected at hopen hdocument
  unfold make
  simp only [bind, Except.bind, Except.mapError, l.config_eq, l.file_eq, l.workspace_eq,
    l.diagnostics_eq, l.script_eq, hopen, hdocument]
  rfl

/-! ### The pass of a report -/

/-- The document has the URI of its file. -/
theorem fileUri_file : fileUri l.file = .ok l.document.uri := by
  have hof := l.document_eq
  unfold Document.ofFile at hof
  split at hof
  · cases hof
  · split at hof
    · cases hof
    · rename_i uri huri
      rw [huri, ← Except.ok.inj hof]

/-- The server is asked about the file if it looks at it. -/
theorem resolve_document (canonical : l.file.Canonical) :
    l.opened.annotator.pool.resolve l.document (fun _ => true) =
      if l.inScope then [l.connection] else [] := by
  have happlies : l.opened.annotator.pool.appliesTo l.connection l.document =
      match l.config.server a.server with
      | none => true
      | some definition => definition.appliesTo l.document.language := by
    show ((l.config.server a.server).map _).getD true = _
    cases l.config.server a.server <;> rfl
  have hunder := l.workspace.isOk_resourceFor_fileUri canonical l.fileUri_file
  have hworkspace : l.opened.annotator.pool.workspace = l.workspace := rfl
  have hlive : l.opened.annotator.pool.live = [l.connection] := rfl
  unfold inScope ConnectionPool.resolve
  rw [← happlies, ← hunder, hworkspace, hlive]
  cases l.workspace.resourceFor l.document.uri with
  | error e => rfl
  | ok path =>
    cases hc : l.opened.annotator.pool.appliesTo l.connection l.document <;>
      simp [hc, Except.isOk, Except.toBool]

/-- The inquiries of the pass: one about all markers, if the server looks at the file. -/
theorem inquiries_pass (canonical : l.file.Canonical) :
    l.pass.inquiries = if l.inScope then
      [⟨l.connection, Pass.requestsFrom 1 0 (l.markers.collect ⟨1⟩ a.server)⟩] else [] := by
  unfold pass
  rw [l.resolve_document canonical]
  cases l.inScope <;> rfl

/-- The markers of the editor, one for each diagnostic. -/
theorem collect_markers : l.markers.collect ⟨1⟩ a.server = l.diagnostics.map l.marker := by
  rw [markers, MarkerStore.collect, MarkerStore.batch?_replace, if_pos rfl]
  rfl

/-- The markers of the publish are current. -/
theorem isCurrent_marker (g : Diagnostic) : l.markers.isCurrent (l.marker g) = true := by
  show ((l.markers.batch? ⟨1⟩ a.server).map Batch.generation == some 1) = true
  rw [markers, MarkerStore.batch?_replace, if_pos rfl]
  rfl

/-- Nothing was asked before. -/
theorem fresh_pass : Exchange.empty.Fresh l.pass :=
  Pass.fresh_inquiriesFrom _ _ _ _ _ _

/-- Nobody else is asked. -/
theorem connection_of_mem {i : Inquiry} (hi : i ∈ l.pass.inquiries) : i.connection = l.connection :=
  List.mem_singleton.1 (ConnectionPool.mem_resolve (Pass.mem_inquiriesFrom hi).1).1

/-- Each question of the pass is about the marker of one of the diagnostics. -/
theorem exists_diagnostic {q : Request} (hq : q ∈ l.pass.requests) :
    ∃ g ∈ l.diagnostics, q.marker = l.marker g := by
  obtain ⟨i, hi, hqi⟩ := List.mem_flatMap.1 hq
  have hmem := (Pass.mem_inquiriesFrom hi).2 q hqi
  rw [l.connection_of_mem hi] at hmem
  change q.marker ∈ l.markers.collect ⟨1⟩ a.server at hmem
  rw [collect_markers] at hmem
  obtain ⟨g, hg, heq⟩ := List.mem_map.1 hmem
  exact ⟨g, hg, heq.symm⟩

/-- The lines about a diagnostic that is shown are the expected ones, at the position at which its
span starts. -/
theorem exists_linesAbout (g : Diagnostic) :
    ∃ p : Text.Position,
      p.IsAt l.document.buffer.text (bindRange tokenLocator l.document g.range).start ∧
        annotationLines l.file.display l.document (l.annotation g) = l.linesAbout p g := by
  have hstart : (l.annotation g).range.start ≤ l.document.buffer.size :=
    start_bindRange_le l.document g.range
  obtain ⟨p, hp, hlines⟩ := annotationLines_eq l.file.display hstart
  refine ⟨p, hp, hlines.trans ?_⟩
  exact congrArg (_ :: ·) List.map_map

-- The delays fit into 64 bits, and no answer comes at the very moment at which the time is over.
variable (fits : ∀ g ∈ l.diagnostics, l.script.dueMs g < 2 ^ 64)
  (off : ∀ g ∈ l.diagnostics, (l.script.answer? g).isSome = true →
    l.script.dueMs g ≠ l.timeoutMs)

include fits off

/-- The result of the pass consists of the diagnostics that the script has kept, if the server looks
at the file, and all of them are shown. -/
theorem exists_result (canonical : l.file.Canonical) :
    ∃ r, (l.published.exchange.resolve false l.published.deadline l.pass).1 = .ok r ∧
      r.editor = ⟨1⟩ ∧ r.render l.markers = if l.inScope then
        (l.diagnostics.filter (l.script.shows l.timeoutMs)).map l.annotation else [] := by
  have hdeadline : l.published.deadline = l.timeoutMs := by
    rw [Session.deadline, annotator_published]
    rfl
  have hscripted : ∀ i ∈ l.pass.inquiries,
      i.connection.capabilities = l.script.capabilities ∧
        i.connection.client = l.script.client := by
    intro i hi
    rw [l.connection_of_mem hi]
    exact ⟨rfl, rfl⟩
  have hfits : ∀ q ∈ l.pass.requests, l.script.dueMs q.marker.diagnostic < 2 ^ 64 := by
    intro q hq
    obtain ⟨g, hg, heq⟩ := l.exists_diagnostic hq
    rw [heq]
    exact fits g hg
  have hoff : ∀ q ∈ l.pass.requests, (l.script.answer? q.marker.diagnostic).isSome = true →
      l.script.dueMs q.marker.diagnostic ≠ l.timeoutMs := by
    intro q hq
    obtain ⟨g, hg, heq⟩ := l.exists_diagnostic hq
    rw [heq]
    exact off g hg
  obtain ⟨r, hr, -, heditor, hfindings⟩ := Script.resolve_eq l.fresh_pass hscripted hfits hoff
  have hcurrent : ∀ fs ∈ r.findings, ∀ f ∈ fs.items, l.markers.isCurrent f.marker = true := by
    rw [hfindings]
    intro fs hfs f hf
    obtain ⟨i, hi, rfl⟩ := List.mem_map.1 hfs
    obtain ⟨m, hm, rfl⟩ := List.mem_map.1 hf
    obtain ⟨q, hq, rfl⟩ := List.mem_map.1 (List.mem_filter.1 hm).1
    obtain ⟨g, -, heq⟩ := l.exists_diagnostic (List.mem_flatMap.2 ⟨i, hi, hq⟩)
    show l.markers.isCurrent q.marker = true
    rw [heq]
    exact l.isCurrent_marker g
  refine ⟨r, ?_, heditor, ?_⟩
  · rw [hdeadline]
    exact hr
  · rw [PassResult.render_eq_renderAll hcurrent, PassResult.renderAll, hfindings,
      l.inquiries_pass canonical]
    cases l.inScope with
    | false => rfl
    | true =>
      rw [if_pos rfl, if_pos rfl, List.map_singleton, List.flatMap_singleton,
        Pass.map_marker_requestsFrom, collect_markers, List.filter_map, List.map_map,
        List.map_map]
      rfl

/-- What is printed: the lines about each annotation that is shown. -/
theorem lines_ofEditor (canonical : l.file.Canonical) :
    (ofEditor l.opened a.server l.file.display l.document ⟨1⟩ l.diagnostics).lines =
      if l.inScope then (l.diagnostics.filter (l.script.shows l.timeoutMs)).flatMap fun g =>
        annotationLines l.file.display l.document (l.annotation g) else [] := by
  obtain ⟨r, hr, heditor, hrender⟩ := l.exists_result fits off canonical
  have haccepts : l.published.annotator.accepts true r = true := by
    rw [annotator_published]
    refine Annotator.accepts_eq_true_iff.2 ⟨rfl, ?_, fun n hn => by cases hn⟩
    rw [heditor]
    exact Workbench.isOpen_of_documentFor l.documentFor_opened
  have hquiet : l.published.annotator.ui = .empty := by
    rw [annotator_published]
    rfl
  have hshown := Session.annotations_annotate_runUi l.collect_published hr heditor rfl hquiet
    haccepts
  show ((l.published.annotate ⟨1⟩).runUi.2.annotator.sink.annotations ⟨1⟩).flatMap _ = _
  rw [hshown, annotator_published]
  show (r.render l.markers).flatMap _ = _
  rw [hrender]
  cases l.inScope with
  | false => rfl
  | true => exact List.flatMap_map ..

/-- **What a report says.** If all that a command line names can be read and the file opens, there
is a report. If the server looks at the file, the report has for each diagnostic that is shown, in
recorded order, its line and one line for each action that is offered, and nothing else; a
diagnostic is shown exactly if the script offers no code actions or its answer comes before the time
is over. If the server does not look at the file, the report has no lines. -/
theorem make_spec (canonical : files.Canonicalizes) :
    ∃ report, make files home configHome a = .ok report ∧ ∃ place : Diagnostic → Text.Position,
      (∀ g, (place g).IsAt l.document.buffer.text
        (bindRange tokenLocator l.document g.range).start) ∧
      report.lines = if l.inScope then
        (l.diagnostics.filter (l.script.shows l.timeoutMs)).flatMap fun g =>
          l.linesAbout (place g) g
        else [] := by
  have hfile := canonical _ _ l.file_eq
  choose place hplace hlines using l.exists_linesAbout
  refine ⟨_, l.make_eq hfile.absolute, place, hplace, ?_⟩
  rw [l.lines_ofEditor fits off hfile]
  simp only [hlines]

end Loaded

namespace Sample

/-- Two diagnostics of a file. -/
def publish : String :=
  "\x7b\"diagnostics\":[\x7b\"range\":[[0,4],[0,4]],\"severity\":2,\"message\":\"a\"\x7d," ++
    "\x7b\"range\":[[0,0],[0,3]],\"message\":\"b\"\x7d]\x7d"

/-- A script that offers a fix for the first one and never answers about the second one. -/
def replies : String :=
  "\x7b\"rules\":[\x7b\"message\":\"a\",\"actions\":[\x7b\"title\":\"Remove\"\x7d]\x7d," ++
    "\x7b\"message\":\"b\",\"hang\":true\x7d]\x7d"

/-- A directory with these files. -/
def files : Files :=
  (((FileTree.empty.write (.ofString "/w/A.java") (.file (Text.Utf8.encode "int a;"))).write
    (.ofString "/w/publish.json") (.file (Text.Utf8.encode publish))).write
    (.ofString "/w/replies.json") (.file (Text.Utf8.encode replies))).files (.ofString "/w")

/-- A command line. -/
def arguments : Arguments :=
  ⟨.ofString "A.java", none, .ofString "publish.json", some (.ofString "replies.json"), "lsp4mp",
    none, none⟩

/-- A file that opens. -/
def document : Document :=
  ⟨⟨1⟩, ⟨"file:///w/A.java", by decide⟩, some (.ofString "/w/A.java"), "A.java", some "java",
    .ofString "int a;"⟩

/-- What succeeds yields what it is taken to yield. -/
theorem eq_ok_of_isOk {ε α : Type} {x : Except ε α} (h : x.isOk = true) (default : α) :
    x = .ok (x.toOption.getD default) := by
  cases x with
  | error e => cases h
  | ok value => rfl

/-- All of it can be read. -/
def loaded : Loaded files (.ofString "/home") (.ofString "/home/.config") arguments where
  config := { annotator := ⟨10000, false⟩ }
  file := .ofString "/w/A.java"
  workspace := ⟨.ofString "/w"⟩
  diagnostics := (Report.diagnostics files arguments.diagnostics).toOption.getD []
  script := (Report.script files arguments.replies).toOption.getD {}
  document := document
  config_eq := rfl
  file_eq := rfl
  workspace_eq := rfl
  diagnostics_eq := eq_ok_of_isOk (by decide +kernel) _
  script_eq := eq_ok_of_isOk (by decide +kernel) _
  document_eq := rfl

end Sample

/-- One diagnostic is shown, at the start of its word, and the one without an answer is not. -/
theorem make_spec_two_diagnostics :
    ∃ report, make Sample.files (.ofString "/home") (.ofString "/home/.config") Sample.arguments =
        .ok report ∧
      report.lines = ["/w/A.java:1:5: Warning: a [lsp4mp]", "    fix: Remove"] := by
  have timely : ∀ g ∈ Sample.loaded.diagnostics, Sample.loaded.script.dueMs g < 2 ^ 64 ∧
      ((Sample.loaded.script.answer? g).isSome = true →
        Sample.loaded.script.dueMs g ≠ Sample.loaded.timeoutMs) := by
    decide +kernel
  obtain ⟨report, hmake, place, hplace, hlines⟩ := Sample.loaded.make_spec
    (fun g hg => (timely g hg).1) (fun g hg => (timely g hg).2) (FileTree.canonicalizes _ _)
  refine ⟨report, hmake, ?_⟩
  rw [hlines, if_pos (by decide +kernel)]
  simp only [fun g => (hplace g).eq_locate]
  decide +kernel

end Report

end AnnotationBridge
