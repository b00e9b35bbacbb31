import AnnotationBridge.Proofs.Publish
import AnnotationBridge.Proofs.Resolve
import AnnotationBridge.Proofs.Traffic
import Mathlib.Logic.Function.Basic

/-!
# Servers do not interfere

Servers share an annotator: generations are counted over all of them, a pass asks them all, and its
result replaces all that an editor shows. Even so the annotations of one server are decided by what
there is to see from its side: what hosts do, what it publishes, which passes are made, and which
results are handed over with which answers to its own requests.

* `Workflow.View`: what is seen of an act from the side of a server. `Workflow.Seen` says what it
  is, and `Workflow.Observed` adds it up over a run; `Workflow.Run.exists_observed`: every run has a
  view.
* `Workflow.Side`: the part of the state on that side, without generations, events and clients.
  `Workflow.Side.next`: what a view does to it.
* `Workflow.Step.side_eq`, `Workflow.Observed.side_eq`: nothing else happens to it.
* `Workflow.Observed.noninterference`: runs that look alike from the side of a server show the same
  annotations of it; and how long other servers take, and what they answer, is not seen.
-/

namespace AnnotationBridge

open Lsp Text

/-! ### What is not seen -/

/-- The marker without its generation. -/
def Marker.undated (m : Marker) : Marker :=
  { m with generation := 0 }

/-- The workbench without what it has announced. -/
def Workbench.silent (w : Workbench) : Workbench :=
  { w with feed := .empty }

/-- The connection without its far end. -/
def Connection.anonymous (c : Connection) : Connection :=
  { c with client := .silent }

/-- The pool without the far ends of its connections. -/
def ConnectionPool.anonymous (p : ConnectionPool) : ConnectionPool :=
  { p with live := p.live.map Connection.anonymous }

namespace Workbench

variable {w w' : Workbench}

/-- Closing an editor does the same without events. -/
theorem silent_close {editor : EditorId} (ok : w.close editor = .ok w') :
    w'.silent = ((w.silent.close editor).toOption.getD w.silent).silent := by
  obtain ⟨id, hid, rfl⟩ := close_eq_ok ok
  unfold close
  rw [show w.silent.editors.get? editor = some id from hid]
  rfl

/-- An edit does the same without events. -/
theorem silent_edit {id : DocumentId} {range : Span} {text : List Char}
    (ok : w.edit id range text = .ok w') :
    w'.silent = ((w.silent.edit id range text).toOption.getD w.silent).silent := by
  obtain ⟨d, taken, buffer, hd, hbuffer, rfl⟩ := edit_eq_ok ok
  unfold edit document
  rw [show w.silent.documents.get? id = some d from hd]
  simp only [bind, Except.bind, hbuffer, Except.mapError]
  rfl

end Workbench

namespace ConnectionPool

variable (p : ConnectionPool)

/-- A connection ends also without its client. -/
theorem anonymous_unregister (id : ConnectionId) :
    (p.unregister id).anonymous = p.anonymous.unregister id := by
  unfold unregister anonymous
  rw [List.filter_map]
  rfl

/-- A connection is made also without its client. -/
theorem anonymous_register (c : Connection) :
    (p.register c).anonymous = p.anonymous.register c.anonymous := by
  have hrest := congrArg live (p.anonymous_unregister c.id)
  unfold register anonymous
  rw [List.map_append]
  exact congrArg (fun live => ConnectionPool.mk p.workspace p.definitions (live ++ [c.anonymous]))
    hrest

/-- Which connections are there for a document does not depend on their far ends. -/
theorem map_anonymous_resolve (d : Document) (accepts : Capabilities → Bool) :
    (p.resolve d accepts).map Connection.anonymous = p.anonymous.resolve d accepts := by
  unfold resolve
  rw [show p.anonymous.workspace = p.workspace from rfl]
  cases p.workspace.resourceFor d.uri with
  | error e => rfl
  | ok path =>
    show _ = ((p.live.map Connection.anonymous).filter _).mergeSort _
    rw [List.filter_map]
    exact List.map_mergeSort fun _ _ _ _ => rfl

end ConnectionPool

/-! ### The side of a server -/

/-- What a pass asks the connections of a server, each question with whether its marker is still
current. -/
structure PassSide where
  number : Nat
  editor : EditorId
  asked : List (ConnectionId × List (Marker × Bool))

namespace PassSide

/-- The pass after its markers were superseded. -/
def outdated (p : PassSide) : PassSide :=
  { p with asked := p.asked.map fun i => (i.1, i.2.map fun m => (m.1, false)) }

/-- The annotation for a question and what was answered; none without an answer, and none if the
marker is no longer current. -/
def rendered? (connection : ConnectionId) (m : Marker × Bool) (answer : Option (List Action)) :
    Option Annotation :=
  if m.2 then answer.map fun actions => Finding.render connection ⟨m.1, actions⟩ else none

/-- The annotations for all questions and answers, in order. -/
def render (p : PassSide) (outcomes : List (List (Option (List Action)))) : List Annotation :=
  (p.asked.zip outcomes).flatMap fun i =>
    (i.1.2.zip i.2).filterMap fun q => rendered? i.1.1 q.1 q.2

end PassSide

/-- The answers to the questions of a pass to the connections of a server. -/
def Pass.outcomes (server : String) (answers : Answers) (p : Pass) :
    List (List (Option (List Action))) :=
  (p.inquiries.filter (·.connection.server = server)).map fun i =>
    i.requests.map fun q => answers.get? q.id

/-- A pass from the side of a server. -/
def Pass.side (server : String) (markers : MarkerStore) (p : Pass) : PassSide where
  number := p.number
  editor := p.editor
  asked := (p.inquiries.filter (·.connection.server = server)).map fun i =>
    (i.connection.id, i.requests.map fun q => (q.marker.undated, markers.isCurrent q.marker))

/-- The markers of a pass are those of its editor and of the servers that it asks about them, and
their generations are in the past. -/
def Pass.Attributed (next : Nat) (p : Pass) : Prop :=
  ∀ i ∈ p.inquiries, ∀ q ∈ i.requests, q.marker.editor = p.editor ∧
    q.marker.server = i.connection.server ∧ q.marker.generation < next

namespace Workflow

/-- What there is on the side of a server. -/
structure Side where
  workbench : Workbench
  pool : ConnectionPool
  locate : Locator
  nextPass : Nat
  recorded : EditorId → Option Nat
  markers : EditorId → List Marker
  passes : List PassSide
  shown : EditorId → List Annotation

/-- The annotations of a server in an editor. -/
def shownFrom (s : Workflow) (server : String) (e : EditorId) : List Annotation :=
  (s.annotator.sink.annotations e).filter (·.source = server)

/-- The part of a workflow on the side of a server. -/
def side (server : String) (s : Workflow) : Side where
  workbench := s.annotator.workbench.silent
  pool := s.annotator.pool.anonymous
  locate := s.annotator.locate
  nextPass := s.annotator.nextPass
  recorded := s.recorded
  markers e := (s.annotator.markers.collect e server).map Marker.undated
  passes := s.passes.map (·.side server s.annotator.markers)
  shown := s.shownFrom server

/-! ### What is seen -/

/-- What is seen of an act from the side of a server. -/
inductive View where
  | opened (editor : EditorId) (d : Document)
  | closed (editor : EditorId)
  | edited (document : DocumentId) (range : Span) (text : List Char)
  | connected (c : Connection)
  | disconnected (id : ConnectionId)
  | published (params : PublishParams)
  | remarked (c : MarkerChange)
  | collected (editor : EditorId)
  | applied (onUi : Bool) (pass : Nat) (outcomes : List (List (Option (List Action))))
  | cleared (editor : EditorId)
  | released (editor : EditorId)

/-- What is seen of an act. Not seen are what other servers publish, which answers others give, and
what changes nothing that is shown. -/
inductive Seen (server : String) (s : Workflow) : Act → List View → Prop where
  | opened (editor : EditorId) (d : Document) : Seen server s (.opened editor d) [.opened editor d]
  | closed (editor : EditorId) : Seen server s (.closed editor) [.closed editor]
  | edited (id : DocumentId) (range : Span) (text : List Char) :
      Seen server s (.edited id range text) [.edited id range text]
  | connected (c : Connection) : Seen server s (.connected c) [.connected c.anonymous]
  | disconnected (id : ConnectionId) : Seen server s (.disconnected id) [.disconnected id]
  | published (params : PublishParams) (runtime : Bool) (editors : List EditorId) :
      Seen server s (.published server params runtime editors) [.published params]
  | publishedByOther {other : String} (hne : other ≠ server) (params : PublishParams)
      (runtime : Bool) (editors : List EditorId) :
      Seen server s (.published other params runtime editors) []
  | remarked (c : MarkerChange) : Seen server s (.remarked c) [.remarked c]
  | collected (p : Pass) : Seen server s (.collected p) [.collected p.editor]
  | skipped (editor : EditorId) : Seen server s (.skipped editor) []
  | resolved (p : Pass) (r : PassResult) : Seen server s (.resolved p r) []
  | applied {p : Pass} (made : p ∈ s.passes) (answers : Answers) (onUi hasShown : Bool) :
      Seen server s (.applied onUi (p.resolved answers) hasShown)
        [.applied onUi p.number (p.outcomes server answers)]
  | scheduled (r : PassResult) : Seen server s (.scheduled r) []
  | cleared (editor : EditorId) : Seen server s (.cleared editor) [.cleared editor]
  | released (editor : EditorId) (stillOpen : Bool) :
      Seen server s (.released editor stillOpen) [.released editor]

/-- A run with all that is seen of it from the side of a server. -/
inductive Observed (server : String) (s : Workflow) : List Act → List View → Workflow → Prop where
  | nil : Observed server s [] [] s
  | snoc {acts : List Act} {views seen : List View} {t u : Workflow} {act : Act}
      (run : Observed server s acts views t) (step : Step t act u) (sees : Seen server t act seen) :
      Observed server s (acts ++ [act]) (views ++ seen) u

/-! ### What a view does to the side of a server -/

namespace Side

/-- The side after the markers of the server have changed in some editors. -/
def remark (σ : Side) (touched : EditorId → Bool) (markers : EditorId → List Marker) : Side :=
  { σ with
    markers := fun e => if touched e then markers e else σ.markers e
    passes := σ.passes.map fun p => if touched p.editor then p.outdated else p }

/-- The side after a pass about an editor was made, unless that is closed. -/
def collect (server : String) (σ : Side) (editor : EditorId) : Side :=
  match σ.workbench.documentFor editor with
  | .error _ => σ
  | .ok d =>
    let connections := (σ.pool.resolve d fun _ => true).filter (·.server = server)
    let asked := connections.map fun c => (c.id, (σ.markers editor).map (·, true))
    { σ with nextPass := σ.nextPass + 1, passes := σ.passes ++ [⟨σ.nextPass, editor, asked⟩] }

/-- The side after annotations were shown in an editor as the outcome of a pass. -/
def present (σ : Side) (editor : EditorId) (pass : Nat) (annotations : List Annotation) : Side :=
  { σ with
    recorded := Function.update σ.recorded editor (some pass)
    shown := Function.update σ.shown editor annotations }

/-- The side after a result of a pass was handed over. -/
def apply (σ : Side) (onUi : Bool) (pass : Nat) (outcomes : List (List (Option (List Action)))) :
    Side :=
  match σ.passes.find? (·.number = pass) with
  | none => σ
  | some p =>
    if onUi && σ.workbench.isOpen p.editor && decide ((σ.recorded p.editor).getD 0 ≤ pass) then
      σ.present p.editor pass (p.render outcomes)
    else σ

/-- What a view does. -/
def next (server : String) (σ : Side) : View → Side
  | .opened editor d => { σ with workbench := (σ.workbench.openDocument editor d).silent }
  | .closed editor =>
    { σ with workbench := ((σ.workbench.close editor).toOption.getD σ.workbench).silent }
  | .edited id range text =>
    { σ with workbench := ((σ.workbench.edit id range text).toOption.getD σ.workbench).silent }
  | .connected c => { σ with pool := σ.pool.register c }
  | .disconnected id => { σ with pool := σ.pool.unregister id }
  | .published params =>
    σ.remark (fun e => decide (e ∈ σ.workbench.editorsFor params.uri)) fun e =>
      match σ.workbench.documentFor e with
      | .ok d => params.diagnostics.map (Marker.ofDiagnostic σ.locate e server 0 d)
      | .error _ => []
  | .remarked (.replace editor v d diagnostics) =>
    σ.remark (fun e => decide (editor = e ∧ v = server)) fun e =>
      diagnostics.map (Marker.ofDiagnostic σ.locate e server 0 d)
  | .remarked (.clear editor v) => σ.remark (fun e => decide (editor = e ∧ v = server)) fun _ => []
  | .remarked (.clearEditor editor) => σ.remark (fun e => decide (editor = e)) fun _ => []
  | .collected editor => σ.collect server editor
  | .applied onUi pass outcomes => σ.apply onUi pass outcomes
  | .cleared editor => { σ with shown := Function.update σ.shown editor [] }
  | .released editor =>
    { σ.remark (fun e => decide (editor = e)) (fun _ => []) with
      recorded := Function.update σ.recorded editor none }

/-- Where no editor gets new markers nothing changes. -/
theorem remark_none (σ : Side) (markers : EditorId → List Marker) :
    σ.remark (fun _ => false) markers = σ := by
  unfold remark
  simp

end Side

end Workflow

/-! ### Markers and passes -/

namespace Pass

variable {server : String} {p : Pass} {markers : MarkerStore}

/-- A later time keeps a pass attributed. -/
theorem Attributed.mono {n m : Nat} (h : p.Attributed n) (hle : n ≤ m) : p.Attributed m :=
  fun i hi q hq => ⟨(h i hi q hq).1, (h i hi q hq).2.1, Nat.lt_of_lt_of_le (h i hi q hq).2.2 hle⟩

/-- A pass that is made has the markers that its servers have in the store. -/
theorem attributed_of_collect {a : Annotator} {e : EditorId} (hs : a.markers.WellFormed)
    (made : (a.collect e).1 = some p) : p.Attributed a.markers.next := by
  unfold Annotator.collect at made
  cases hd : a.workbench.documentFor e with
  | error err => rw [hd] at made; cases made
  | ok d =>
    rw [hd] at made
    obtain rfl := Option.some.inj made
    intro i hi q hq
    have hmem := (mem_inquiriesFrom hi).2 q hq
    obtain ⟨b, hb, hbm⟩ := MarkerStore.mem_collect.1 hmem
    obtain ⟨heditor, hserver, hgeneration⟩ := hs.own _ _ b hb _ hbm
    exact ⟨heditor, hserver, hgeneration ▸ hs.generation_lt _ _ b hb⟩

/-- The side of a pass that is made: the markers of the server are all current. -/
theorem side_inquiriesFrom (hs : markers.WellFormed) (number : Nat) (e : EditorId) (d : Document)
    (connections : List Connection) :
    (Pass.mk number e d (inquiriesFrom number 0 (fun c => markers.collect e c.server)
      connections)).side server markers = ⟨number, e,
        (connections.filter (·.server = server)).map fun c =>
          (c.id, (markers.collect e server).map fun m => (m.undated, true))⟩ := by
  let seen (i : Connection × List Marker) : ConnectionId × List (Marker × Bool) :=
    (i.1.id, i.2.map fun m => (m.undated, markers.isCurrent m))
  have hall := congrArg (fun is => (is.filter (·.1.server = server)).map seen)
    (map_inquiriesFrom number 0 (fun c => markers.collect e c.server) connections)
  simp only [List.filter_map, List.map_map] at hall
  unfold side
  congr 1
  refine Eq.trans (List.map_congr_left fun i _ => ?_) (hall.trans (List.map_congr_left fun c hc => ?_))
  · simp [seen]
  · obtain rfl : c.server = server := of_decide_eq_true (List.mem_filter.1 hc).2
    refine congrArg (c.id, ·) (List.map_congr_left fun m hm => ?_)
    obtain ⟨heditor, hserver⟩ := hs.key_of_mem_collect hm
    rw [hs.isCurrent_of_mem_collect (by rw [heditor, hserver]; exact hm)]

/-- **What happens to the markers of a server shows in a pass by which of them are current**, and in
nothing else. -/
theorem side_changes (own : p.Attributed markers.next) (locate : Locator)
    {history : List MarkerChange} {touched : Bool}
    (htouched : touched = true ↔ ∃ c ∈ history, c.Touches p.editor server) :
    p.side server (markers.changes locate history) =
      if touched then (p.side server markers).outdated else p.side server markers := by
  have hcurrent : ∀ i ∈ p.inquiries.filter (·.connection.server = server), ∀ q ∈ i.requests,
      (markers.changes locate history).isCurrent q.marker =
        (!touched && markers.isCurrent q.marker) := by
    intro i hi q hq
    obtain ⟨hi, hserver⟩ := List.mem_filter.1 hi
    obtain ⟨heditor, hown, hold⟩ := own i hi q hq
    have hkey : q.marker.server = server := hown.trans (of_decide_eq_true hserver)
    rw [Bool.eq_iff_iff, MarkerStore.isCurrent_iff, Bool.and_eq_true, MarkerStore.isCurrent_iff,
      heditor, hkey]
    rcases MarkerStore.batch?_changes locate markers history (e := p.editor) (v := server) with
      ⟨hun, hsame⟩ | ⟨htouch, hnew⟩
    · have hfalse : touched = false := by
        rw [Bool.eq_false_iff]
        exact fun h => by
          obtain ⟨c, hc, ht⟩ := htouched.1 h
          exact hun c hc ht
      simp [hsame, hfalse]
    · simp only [htouched.2 htouch, Bool.not_true, Bool.false_eq_true, false_and, iff_false]
      rintro ⟨b, hb, hgeneration⟩
      have := hnew b hb
      omega
  unfold side PassSide.outdated
  cases touched with
  | false =>
    simp only [Bool.false_eq_true, if_false]
    congr 1
    refine List.map_congr_left fun i hi => congrArg (i.connection.id, ·) ?_
    refine List.map_congr_left fun q hq => congrArg (q.marker.undated, ·) ?_
    exact hcurrent i hi q hq
  | true =>
    simp only [if_true, List.map_map]
    congr 1
    refine List.map_congr_left fun i hi => congrArg (i.connection.id, ·) ?_
    rw [List.map_map]
    refine List.map_congr_left fun q hq => congrArg (q.marker.undated, ·) ?_
    exact hcurrent i hi q hq

/-- The annotations for what an inquiry has found are those for its questions and their answers. -/
theorem render_findings (markers : MarkerStore) (answers : Answers) (i : Inquiry) :
    (i.findings answers).render markers =
      ((i.requests.map fun q => (q.marker.undated, markers.isCurrent q.marker)).zip
        (i.requests.map fun q => answers.get? q.id)).filterMap
          fun q => PassSide.rendered? i.connection.id q.1 q.2 := by
  unfold Findings.render Inquiry.findings
  dsimp only
  induction i.requests with
  | nil => rfl
  | cons r rs ih =>
    rw [List.filterMap_cons, List.map_cons, List.map_cons, List.zip_cons_cons,
      List.filterMap_cons, ← ih]
    unfold Request.finding? PassSide.rendered?
    cases answers.get? r.id with
    | none => simp
    | some actions =>
      by_cases hc : markers.isCurrent r.marker = true
      · simp [hc, Finding.render, Marker.undated]
      · simp [hc]

/-- The annotations for what an inquiry has found carry the name of its server. -/
theorem source_of_mem_render {i : Inquiry} {answers : Answers} {shown : Annotation}
    (own : ∀ q ∈ i.requests, q.marker.server = i.connection.server)
    (h : shown ∈ (i.findings answers).render markers) :
    shown.source = i.connection.server := by
  obtain ⟨f, hf, rfl⟩ := List.mem_map.1 h
  obtain ⟨q, hq, hfind⟩ := List.mem_filterMap.1 (List.mem_filter.1 hf).1
  obtain ⟨actions, -, rfl⟩ := Option.map_eq_some_iff.1 hfind
  exact own q hq

/-- **The annotations of a server for a result** are those for the answers to its own requests. -/
theorem filter_render_resolved (own : p.Attributed markers.next) (answers : Answers) :
    ((p.resolved answers).render markers).filter (·.source = server) =
      (p.side server markers).render (p.outcomes server answers) := by
  have own' : ∀ i ∈ p.inquiries, ∀ q ∈ i.requests, q.marker.server = i.connection.server :=
    fun i hi q hq => (own i hi q hq).2.1
  unfold PassResult.render resolved side outcomes PassSide.render
  dsimp only
  rw [List.flatMap_map]
  generalize p.inquiries = is at own'
  induction is with
  | nil => rfl
  | cons i is ih =>
    rw [List.flatMap_cons, List.filter_append, ih fun j hj => own' j (List.mem_cons_of_mem i hj),
      List.filter_cons]
    have hsource : ∀ shown ∈ (i.findings answers).render markers,
        shown.source = i.connection.server := fun shown hmem =>
      source_of_mem_render (own' i List.mem_cons_self) hmem
    by_cases hi : i.connection.server = server
    · have hall : ((i.findings answers).render markers).filter (·.source = server) =
          (i.findings answers).render markers :=
        List.filter_eq_self.2 fun shown hmem => decide_eq_true ((hsource shown hmem).trans hi)
      rw [hall, if_pos (decide_eq_true hi), List.map_cons, List.map_cons, List.zip_cons_cons,
        List.flatMap_cons, render_findings]
    · have hnone : ((i.findings answers).render markers).filter (·.source = server) = [] :=
        List.filter_eq_nil_iff.2 fun shown hmem heq =>
          hi ((hsource shown hmem).symm.trans (of_decide_eq_true heq))
      rw [hnone, if_neg (by simpa using hi)]
      rfl

end Pass

namespace Workflow

variable {server : String} {s t u : Workflow} {act : Act} {acts : List Act} {seen views : List View}
  {workspace : Workspace} {pool : ConnectionPool} {locate : Locator} {config : AnnotatorConfig}

/-! ### Passes in a run -/

/-- A step keeps the passes attributed. -/
theorem Step.attributed (h : Step s act t) (hs : s.annotator.markers.WellFormed)
    (own : ∀ p ∈ s.passes, p.Attributed s.annotator.markers.next) :
    ∀ p ∈ t.passes, p.Attributed t.annotator.markers.next := by
  intro p hp
  obtain ⟨history, hmarkers, -⟩ := h.markers
  have hle : s.annotator.markers.next ≤ t.annotator.markers.next := by
    rw [hmarkers]
    exact MarkerStore.next_le_next_changes _ _ history
  rcases h.mem_passes hp with hp | rfl
  · exact (own p hp).mono hle
  · cases h with
    | collected made | begun owed made => exact (Pass.attributed_of_collect hs made).mono hle

/-- In a run all passes are attributed. -/
theorem Run.attributed (h : Run (start workspace pool locate config) acts t) :
    ∀ p ∈ t.passes, p.Attributed t.annotator.markers.next := by
  induction h with
  | nil => exact fun p hp => absurd hp List.not_mem_nil
  | snoc run step ih => exact step.attributed (run.sound .start).markers ih

/-! ### What a step does to the side of a server -/

/-- A history of marker changes, from the side of a server. -/
theorem side_changes (history : List MarkerChange) (touched : EditorId → Bool)
    (markers : EditorId → List Marker)
    (own : ∀ p ∈ s.passes, p.Attributed s.annotator.markers.next)
    (htouched : ∀ e, touched e = true ↔ ∃ c ∈ history, c.Touches e server)
    (hmarkers : ∀ e, touched e = true →
      ((s.annotator.markers.changes s.annotator.locate history).collect e server).map
        Marker.undated = markers e) :
    side server { s with annotator := { s.annotator with
        markers := s.annotator.markers.changes s.annotator.locate history } } =
      (s.side server).remark touched markers := by
  unfold side Side.remark
  dsimp only
  congr 1
  · funext e
    cases he : touched e with
    | true => rw [if_pos rfl, hmarkers e he]
    | false =>
      rw [if_neg Bool.false_ne_true]
      unfold MarkerStore.collect
      rcases MarkerStore.batch?_changes s.annotator.locate s.annotator.markers history (e := e)
        (v := server) with ⟨-, hsame⟩ | ⟨htouch, -⟩
      · rw [hsame]
      · cases he.symm.trans ((htouched e).2 htouch)
  · rw [List.map_map]
    exact List.map_congr_left fun p hp =>
      Pass.side_changes (own p hp) s.annotator.locate (htouched p.editor)

/-- A publish of the server, from its side. -/
theorem side_publish (own : ∀ p ∈ s.passes, p.Attributed s.annotator.markers.next)
    (params : PublishParams) :
    side server { s with annotator := (s.annotator.publish server params).2 } =
      (s.side server).next server (.published params) := by
  rw [Annotator.snd_publish]
  refine side_changes (s.annotator.replacements server params.diagnostics
    (s.annotator.workbench.editorsFor params.uri)) _ _ own (fun e => ?_) fun e he => ?_
  · rw [Annotator.touches_replacements_iff, decide_eq_true_iff]
    exact (and_iff_left rfl).symm
  · obtain ⟨n, hn⟩ := List.mem_iff_getElem?.1 (of_decide_eq_true he)
    obtain ⟨d, hd⟩ := Workbench.documentFor_of_mem_editorsFor (List.mem_of_getElem? hn)
    have hbatch : (s.annotator.publish server params).2.markers.batch? e server = _ :=
      Annotator.batch?_publish hn hd
    rw [Annotator.snd_publish] at hbatch
    unfold MarkerStore.collect
    rw [hbatch, show (s.side server).workbench.documentFor e = .ok d from hd]
    exact List.map_map

/-- A publish of another server, from the side of a server. -/
theorem side_publish_of_ne {other : String} (hne : other ≠ server)
    (own : ∀ p ∈ s.passes, p.Attributed s.annotator.markers.next) (params : PublishParams) :
    side server { s with annotator := (s.annotator.publish other params).2 } = s.side server := by
  rw [Annotator.snd_publish]
  refine (side_changes (s.annotator.replacements other params.diagnostics
    (s.annotator.workbench.editorsFor params.uri)) (fun _ => false) (fun _ => []) own (fun e => ?_)
      fun e he => ?_).trans (Side.remark_none _ _)
  · rw [Annotator.touches_replacements_iff]
    exact iff_of_false Bool.false_ne_true fun h => hne h.2.symm
  · cases he

/-- A change of the markers by a host, from the side of a server. -/
theorem side_change (own : ∀ p ∈ s.passes, p.Attributed s.annotator.markers.next)
    (c : MarkerChange) :
    side server { s with annotator := { s.annotator with
        markers := s.annotator.markers.change s.annotator.locate c } } =
      (s.side server).next server (.remarked c) := by
  have hone : ∀ {e}, (∃ c' ∈ [c], c'.Touches e server) ↔ c.Touches e server := by simp
  have hnone : ∀ {e}, (s.annotator.markers.change s.annotator.locate c).batch? e server = none →
      ((s.annotator.markers.changes s.annotator.locate [c]).collect e server).map Marker.undated =
        [] := by
    intro e h
    unfold MarkerStore.collect
    rw [MarkerStore.changes_cons, MarkerStore.changes_nil, h]
    rfl
  cases c with
  | replace editor v d diagnostics =>
    refine side_changes [.replace editor v d diagnostics] _ _ own
      (fun e => decide_eq_true_iff.trans hone.symm) fun e he => ?_
    obtain ⟨rfl, rfl⟩ := of_decide_eq_true he
    unfold MarkerStore.collect
    rw [MarkerStore.changes_cons, MarkerStore.changes_nil, MarkerStore.change,
      MarkerStore.batch?_replace, if_pos rfl]
    exact List.map_map
  | clear editor v =>
    refine side_changes [.clear editor v] _ _ own
      (fun e => decide_eq_true_iff.trans hone.symm) fun e he => hnone ?_
    obtain ⟨rfl, rfl⟩ := of_decide_eq_true he
    rw [MarkerStore.change, MarkerStore.batch?_clear, if_pos rfl]
  | clearEditor editor =>
    refine side_changes [.clearEditor editor] _ _ own
      (fun e => decide_eq_true_iff.trans hone.symm) fun e he => hnone ?_
    obtain rfl := of_decide_eq_true he
    rw [MarkerStore.change, MarkerStore.batch?_clearEditor, if_pos rfl]

/-- A pass that is made, from the side of a server. -/
theorem side_collect {editor : EditorId} {p : Pass} (hs : s.annotator.markers.WellFormed)
    (made : (s.annotator.collect editor).1 = some p) :
    side server { s with annotator := (s.annotator.collect editor).2, passes := s.passes ++ [p] } =
      (s.side server).next server (.collected editor) := by
  rw [Annotator.snd_collect, made]
  unfold Annotator.collect at made
  cases hd : s.annotator.workbench.documentFor editor with
  | error err => rw [hd] at made; cases made
  | ok d =>
    rw [hd] at made
    obtain rfl := Option.some.inj made
    show _ = (s.side server).collect server editor
    unfold Side.collect
    rw [show (s.side server).workbench.documentFor editor = .ok d from hd]
    unfold side
    dsimp only
    congr 1
    rw [List.map_append, List.map_singleton, Pass.side_inquiriesFrom hs,
      ← ConnectionPool.map_anonymous_resolve, List.filter_map, List.map_map]
    simp only [List.map_map]
    rfl

/-- The pass of a number, from the side of a server. -/
theorem find?_side {p : Pass} (hs : Sound s) (made : p ∈ s.passes) :
    (s.side server).passes.find? (·.number = p.number) =
      some (p.side server s.annotator.markers) := by
  unfold side
  rw [List.find?_map]
  have hfind : s.passes.find? ((·.number = p.number) ∘ Pass.side server s.annotator.markers) =
      some p := by
    cases h : s.passes.find? ((·.number = p.number) ∘ Pass.side server s.annotator.markers) with
    | none => exact absurd (decide_eq_true rfl) (List.find?_eq_none.1 h p made)
    | some q =>
      have hnumber := List.find?_some h
      exact congrArg some (hs.pass_unique q (List.mem_of_find?_eq_some h) p made
        (of_decide_eq_true hnumber))
  rw [hfind]
  rfl

/-- A result that is handed over, from the side of a server. -/
theorem side_apply {p : Pass} (hs : Sound s)
    (own : ∀ p ∈ s.passes, p.Attributed s.annotator.markers.next) (made : p ∈ s.passes)
    (answers : Answers) (onUi : Bool) :
    side server { s with annotator := (s.annotator.apply onUi (p.resolved answers)).2 } =
      (s.side server).next server (.applied onUi p.number (p.outcomes server answers)) := by
  show _ = (s.side server).apply onUi p.number (p.outcomes server answers)
  unfold Side.apply
  rw [find?_side hs made]
  dsimp only
  rw [show (onUi && (s.side server).workbench.isOpen (p.side server s.annotator.markers).editor &&
    decide (((s.side server).recorded (p.side server s.annotator.markers).editor).getD 0 ≤
      p.number)) = s.annotator.accepts onUi (p.resolved answers) from rfl]
  cases hacc : s.annotator.accepts onUi (p.resolved answers) with
  | false =>
    rw [Annotator.apply_of_not_accepts hacc]
    rfl
  | true =>
    rw [Annotator.apply_of_accepts hacc, if_pos rfl]
    unfold side Side.present Annotator.present
    dsimp only
    congr 1
    · funext e
      rw [Function.update_apply]
      exact FiniteMap.get?_insert s.annotator.applied p.editor p.number e
    · funext e
      unfold shownFrom
      rw [AnnotationStore.annotations_present, Function.update_apply]
      show List.filter _ (if e = p.editor then _ else _) = if e = p.editor then _ else _
      by_cases he : e = p.editor
      · rw [if_pos he, if_pos he]
        exact Pass.filter_render_resolved (own p made) answers
      · rw [if_neg he, if_neg he]

/-- An editor that is cleared, from the side of a server. -/
theorem side_clear (editor : EditorId) :
    side server { s with annotator := s.annotator.perform (.clear editor) true } =
      (s.side server).next server (.cleared editor) := by
  refine congrArg (fun shown => { s.side server with shown := shown }) (funext fun e => ?_)
  show List.filter _ (((s.annotator.sink.shown.erase editor).get? e).getD []) = _
  rw [FiniteMap.get?_erase, Function.update_apply]
  by_cases he : e = editor
  · rw [if_pos he, if_pos he]
    rfl
  · rw [if_neg he, if_neg he]
    rfl

/-- An editor that is released, from the side of a server. -/
theorem side_release (own : ∀ p ∈ s.passes, p.Attributed s.annotator.markers.next)
    (editor : EditorId) :
    side server { s with annotator := s.annotator.editorClosed editor } =
      (s.side server).next server (.released editor) := by
  have hmarkers : side server _ = (s.side server).next server _ :=
    side_change own (.clearEditor editor)
  have hrecorded : (fun e => (s.annotator.applied.erase editor).get? e) =
      Function.update (s.side server).recorded editor none := by
    funext e
    rw [Function.update_apply]
    exact FiniteMap.get?_erase s.annotator.applied editor e
  exact (congrArg (fun recorded => { side server _ with recorded := recorded }) hrecorded).trans
    (congrArg (fun σ : Side => { σ with
      recorded := Function.update (s.side server).recorded editor none }) hmarkers)

/-- **A step does to the side of a server what is seen of it**, and nothing else. -/
theorem Step.side_eq (h : Step s act t) (sees : Seen server s act seen) (hs : Sound s)
    (own : ∀ p ∈ s.passes, p.Attributed s.annotator.markers.next) :
    t.side server = seen.foldl (Side.next server) (s.side server) := by
  cases sees with
  | opened editor d =>
    cases h with
    | opened d fresh => rfl
  | closed editor =>
    cases h with
    | closed ok =>
      exact congrArg (fun w => { s.side server with workbench := w }) (Workbench.silent_close ok)
  | edited id range text =>
    cases h with
    | edited ok =>
      exact congrArg (fun w => { s.side server with workbench := w }) (Workbench.silent_edit ok)
  | connected c =>
    cases h with
    | connected c =>
      exact congrArg (fun p => { s.side server with pool := p })
        (s.annotator.pool.anonymous_register c)
  | disconnected id =>
    cases h with
    | disconnected id =>
      exact congrArg (fun p => { s.side server with pool := p })
        (s.annotator.pool.anonymous_unregister id)
  | published params runtime editors =>
    cases h with
    | published => exact side_publish own params
  | publishedByOther hne params runtime editors =>
    cases h with
    | published => exact side_publish_of_ne hne own params
  | remarked c =>
    cases h with
    | remarked c => exact side_change own c
  | collected p =>
    cases h with
    | collected made | begun owed made =>
      obtain ⟨-, rfl, -⟩ := Annotator.collect_eq_some made
      exact side_collect hs.markers made
  | skipped editor =>
    cases h with
    | skipped owed noPass =>
      rw [Annotator.snd_collect, noPass]
      rfl
  | resolved p r =>
    cases h with
    | resolved made answers => rfl
  | applied made answers onUi hasShown =>
    cases h with
    | applied onUi atHand => exact side_apply hs own made answers onUi
    | performed next =>
      rw [Annotator.perform_withPending]
      exact side_apply hs own made answers true
  | scheduled r =>
    cases h with
    | scheduled atHand => rfl
  | cleared editor =>
    cases h with
    | cleared next =>
      rw [Annotator.perform_withPending]
      exact side_clear editor
  | released editor stillOpen =>
    cases h with
    | released known => exact side_release own editor

/-! ### What is seen of a run -/

/-- A run that is observed is a run. -/
theorem Observed.run (h : Observed server s acts views t) : Run s acts t := by
  induction h with
  | nil => exact .nil
  | snoc _ step _ ih => exact ih.snoc step

/-- There is something to be seen of every run, if it is only nothing. -/
theorem Run.exists_observed (server : String)
    (h : Run (start workspace pool locate config) acts t) :
    ∃ views, Observed server (start workspace pool locate config) acts views t := by
  induction h with
  | nil => exact ⟨[], .nil⟩
  | @snoc acts t u act run step ih =>
    obtain ⟨views, observed⟩ := ih
    suffices h : ∃ seen, Seen server t act seen by
      obtain ⟨seen, sees⟩ := h
      exact ⟨_, observed.snoc step sees⟩
    cases act with
    | published other params runtime editors =>
      by_cases hne : other = server
      · obtain rfl := hne
        exact ⟨_, .published params runtime editors⟩
      · exact ⟨_, .publishedByOther hne params runtime editors⟩
    | applied onUi r hasShown =>
      obtain ⟨p, hp⟩ := (run.snoc step).exists_resolved
        (List.mem_append_right acts List.mem_cons_self)
      rcases List.mem_append.1 hp with hp | hp
      · obtain ⟨made, answers, rfl⟩ := run.resolved_spec hp
        exact ⟨_, .applied made answers onUi hasShown⟩
      · cases List.mem_singleton.1 hp
    | opened editor d => exact ⟨_, .opened editor d⟩
    | closed editor => exact ⟨_, .closed editor⟩
    | edited id range text => exact ⟨_, .edited id range text⟩
    | connected c => exact ⟨_, .connected c⟩
    | disconnected id => exact ⟨_, .disconnected id⟩
    | remarked c => exact ⟨_, .remarked c⟩
    | collected p => exact ⟨_, .collected p⟩
    | skipped editor => exact ⟨_, .skipped editor⟩
    | resolved p r => exact ⟨_, .resolved p r⟩
    | scheduled r => exact ⟨_, .scheduled r⟩
    | cleared editor => exact ⟨_, .cleared editor⟩
    | released editor stillOpen => exact ⟨_, .released editor stillOpen⟩

/-- **What there is on the side of a server after a run is decided by what was seen of the run.** -/
theorem Observed.side_eq (h : Observed server (start workspace pool locate config) acts views t) :
    t.side server =
      views.foldl (Side.next server) (side server (start workspace pool locate config)) := by
  induction h with
  | nil => rfl
  | snoc run step sees ih =>
    rw [step.side_eq sees (run.run.sound .start) run.run.attributed, ih, List.foldl_append]

end Workflow

/-! ### What is seen of the answers -/

/-- What becomes of the requests of a pass to the connections of a server, each connection with
whether it is asked at all. -/
def Pass.replies (server : String) (β : RequestId → Reply) (p : Pass) : List (Bool × List Reply) :=
  (p.inquiries.filter (·.connection.server = server)).map fun i =>
    (i.connection.support.isSupported, i.requests.map fun q => β q.id)

/-- **The answers that a pass has from a server depend on the deadline and on what becomes of its
own requests**, however long the pass waits for others. -/
theorem Exchange.Fresh.outcomes_resolve {x : Exchange} {p : Pass} {deadline : Nat}
    {β : RequestId → Reply} (server : String) (hfresh : x.Fresh p) (hβ : x.Behaves p β)
    (hnone : Exchange.NoneAt deadline p β) :
    ∃ answers, (x.resolve false deadline p).1 = .ok (p.resolved answers) ∧
      p.outcomes server answers = (p.replies server β).map fun i =>
        i.2.map fun reply => if i.1 then reply.offerBy deadline else some [] := by
  refine ⟨((x.ask p).2.join deadline (x.ask p).1).2.2.answers, rfl, ?_⟩
  unfold Pass.outcomes Pass.replies
  rw [List.map_map]
  refine List.map_congr_left fun i hi => ?_
  refine (List.map_congr_left fun q hq => ?_).trans List.map_map.symm
  exact hfresh.answer_of_join hβ hnone (List.mem_filter.1 hi).1 hq

namespace Workflow

variable {server : String} {s t t' : Workflow} {acts acts' : List Act} {views : List View}
  {workspace : Workspace} {pool pool' : ConnectionPool} {locate : Locator}
  {config config' : AnnotatorConfig}

/-- **Servers do not interfere.** If two runs look the same from the side of a server, every editor
shows the same annotations of that server after both, and so it does after any two parts of them
that look the same. What is seen of a result are the answers to the server's own requests; and when
a pass is waited for, these depend on nothing but what becomes of the requests: it does not matter
what the requests of other servers answer, or whether they fail, are lost or never end. -/
theorem Observed.noninterference
    (h : Observed server (start workspace pool locate config) acts views t)
    (h' : Observed server (start workspace pool' locate config') acts' views t')
    (same : pool.anonymous = pool'.anonymous) :
    (∀ e, (t.annotator.sink.annotations e).filter (·.source = server) =
        (t'.annotator.sink.annotations e).filter (·.source = server)) ∧
      ∀ (x x' : Exchange) (p p' : Pass) (deadline : Nat) (β β' : RequestId → Reply),
        x.Fresh p → x.Behaves p β → Exchange.NoneAt deadline p β →
        x'.Fresh p' → x'.Behaves p' β' → Exchange.NoneAt deadline p' β' →
        p.replies server β = p'.replies server β' →
        ∃ answers answers', (x.resolve false deadline p).1 = .ok (p.resolved answers) ∧
          (x'.resolve false deadline p').1 = .ok (p'.resolved answers') ∧
          p.outcomes server answers = p'.outcomes server answers' := by
  constructor
  · have hstart : side server (start workspace pool locate config) =
        side server (start workspace pool' locate config') :=
      congrArg (fun pool => { side server (start workspace pool' locate config') with pool := pool })
        same
    have hside : t.side server = t'.side server := by rw [h.side_eq, h'.side_eq, hstart]
    exact fun e => congrFun (congrArg Side.shown hside) e
  · intro x x' p p' deadline β β' fresh behaves none fresh' behaves' none' hreplies
    obtain ⟨answers, hresult, houtcomes⟩ := fresh.outcomes_resolve server behaves none
    obtain ⟨answers', hresult', houtcomes'⟩ := fresh'.outcomes_resolve server behaves' none'
    exact ⟨answers, answers', hresult, hresult', by rw [houtcomes, houtcomes', hreplies]⟩

/-! ### Two runs -/

namespace Sample

/-- What is seen of either run from the side of the first server. -/
def seen : List View :=
  [.opened editor document, .published (params "x"), .collected editor,
    .applied true 1 [[some [fix "x"]]]]

/-- A pass in which the first server is asked, and the second one if it has a marker. -/
def asked (generation : Nat) (others : List Request) : Pass :=
  ⟨1, editor, document,
    [⟨connection 1 "x", [⟨⟨1, 0⟩, marker "x" generation⟩]⟩, ⟨connection 2 "y", others⟩]⟩

/-- The second server publishes nothing. -/
theorem alone : ∃ acts t, Observed "x" initial acts seen t ∧
    (t.annotator.sink.annotations editor).map Annotation.message = ["x"] := by
  have h₁ := (Observed.nil : Observed "x" initial [] [] initial).snoc
    (.opened document (show editor ∉ initial.known by decide)) (.opened editor document)
  have h₂ := h₁.snoc (.published "x" (params "x") true) (.published _ _ _)
  have h₃ := h₂.snoc (.begun (p := asked 1 [])
    (show List.Perm _ (editor :: []) by cbv; exact .refl _) (by cbv)) (.collected _)
  have h₄ := h₃.snoc (.resolved (p := asked 1 []) (by cbv; exact List.mem_cons_self) (answers 1))
    (.resolved _ _)
  have h₅ := h₄.snoc (.applied true (r := (asked 1 []).resolved (answers 1))
    (show List.Perm _ (_ :: []) by cbv; exact .refl _))
    (.applied (p := asked 1 []) (by cbv; exact List.mem_cons_self) (answers 1) true _)
  refine ⟨_, _, Eq.mp (congrArg (Observed "x" initial _ · _) ?_) h₅, ?_⟩
  all_goals cbv

/-- The second server publishes once, before the first one, and answers. -/
theorem beside : ∃ acts t, Observed "x" initial acts seen t ∧
    (t.annotator.sink.annotations editor).map Annotation.message = ["x", "y"] := by
  have h₁ := (Observed.nil : Observed "x" initial [] [] initial).snoc
    (.opened document (show editor ∉ initial.known by decide)) (.opened editor document)
  have h₂ := h₁.snoc (.published "y" (params "y") false)
    (.publishedByOther (show "y" ≠ "x" by decide) _ _ _)
  have h₃ := h₂.snoc (.published "x" (params "x") true) (.published _ _ _)
  have h₄ := h₃.snoc (.begun (p := asked 2 [⟨⟨1, 1⟩, marker "y" 1⟩])
    (show List.Perm _ (editor :: []) by cbv; exact .refl _) (by cbv)) (.collected _)
  have h₅ := h₄.snoc (.resolved (p := asked 2 [⟨⟨1, 1⟩, marker "y" 1⟩])
    (by cbv; exact List.mem_cons_self) (answers 1)) (.resolved _ _)
  have h₆ := h₅.snoc (.applied true (r := (asked 2 [⟨⟨1, 1⟩, marker "y" 1⟩]).resolved (answers 1))
    (show List.Perm _ (_ :: []) by cbv; exact .refl _))
    (.applied (p := asked 2 [⟨⟨1, 1⟩, marker "y" 1⟩]) (by cbv; exact List.mem_cons_self)
      (answers 1) true _)
  refine ⟨_, _, Eq.mp (congrArg (Observed "x" initial _ · _) ?_) h₆, ?_⟩
  all_goals cbv

end Sample

/-- Two runs show the same of a server, one in which the other server has published nothing, and one
in which it has published before and its annotation is shown as well. -/
theorem noninterference_two_servers :
    ∃ acts acts' t t', Observed "x" Sample.initial acts Sample.seen t ∧
      Observed "x" Sample.initial acts' Sample.seen t' ∧
      (t.annotator.sink.annotations Sample.editor).map Annotation.message = ["x"] ∧
      (t'.annotator.sink.annotations Sample.editor).map Annotation.message = ["x", "y"] ∧
      (t.annotator.sink.annotations Sample.editor).filter (·.source = "x") =
        (t'.annotator.sink.annotations Sample.editor).filter (·.source = "x") := by
  obtain ⟨acts, t, alone, hx⟩ := Sample.alone
  obtain ⟨acts', t', beside, hxy⟩ := Sample.beside
  exact ⟨acts, acts', t, t', alone, beside, hx, hxy,
    (Observed.noninterference alone beside rfl).1 Sample.editor⟩

end Workflow

end AnnotationBridge
