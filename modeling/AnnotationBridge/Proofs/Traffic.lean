import AnnotationBridge.Proofs.Session
import Mathlib

/-!
# What a pass asks, and whom

A pass puts one question about each marker to each connection that may be asked about its document.
Which questions these are is settled when the pass is made.

* `Pass.traffic`: the questions of a pass, each with the connection to which it goes.
  `Exchange.received_resolve`: these are sent when the pass is waited for, and no others.
* `ConnectionPool.mayAsk`: whether a connection may be asked about a document.
  `Annotator.traffic_of_collect`: the questions of a pass that is made now.
* `Session.Numbered`: connections are told apart by numbers that are given out once.
* `Session.Reached.pass_traffic`: what each client receives in a pass.

All of Mathlib is imported for the equations of core functions by which `cbv` evaluates the session
at the end.
-/

namespace AnnotationBridge

open Lsp

/-! ### Questions that are sent -/

/-- The questions that an inquiry puts to its server. -/
def Inquiry.traffic (uri : Uri) (i : Inquiry) : List (ConnectionId × CodeActionParams) :=
  i.asked.map fun q => (i.connection.id, .about uri q.marker.diagnostic)

/-- The questions of a pass, in order. -/
def Pass.traffic (p : Pass) : List (ConnectionId × CodeActionParams) :=
  p.inquiries.flatMap (·.traffic p.document.uri)

namespace Exchange

variable (x : Exchange)

/-- Sending the requests for one connection puts each of them into the log, in order. -/
theorem received_sendAll (uri : Uri) (c : Connection) (rs : List Request) :
    (x.sendAll uri c rs).2.received =
      x.received ++ rs.map fun q => (c.id, .about uri q.marker.diagnostic) := by
  induction rs generalizing x with
  | nil => exact (List.append_nil _).symm
  | cons r rs ih =>
    show ((x.send uri c r).2.sendAll uri c rs).2.received = _
    rw [ih]
    exact List.append_assoc _ _ _

/-- An inquiry puts its questions into the log. -/
theorem received_inquire (uri : Uri) (i : Inquiry) :
    (x.inquire uri i).2.received = x.received ++ i.traffic uri := by
  unfold inquire Inquiry.traffic Inquiry.asked
  by_cases hsupport : i.connection.support.isSupported = true
  · rw [if_pos hsupport, if_pos hsupport]
    exact x.received_sendAll uri i.connection i.requests
  · rw [if_neg hsupport, if_neg hsupport]
    exact (List.append_nil _).symm

/-- Several inquiries put theirs in, one after the other. -/
theorem received_inquireAll (uri : Uri) (is : List Inquiry) :
    (x.inquireAll uri is).2.received = x.received ++ is.flatMap (·.traffic uri) := by
  induction is generalizing x with
  | nil => exact (List.append_nil _).symm
  | cons i is ih =>
    rw [inquireAll_cons, ih, received_inquire, List.flatMap_cons, List.append_assoc]

/-- **Asking sends the questions of the pass.** -/
theorem received_ask (p : Pass) : (x.ask p).2.received = x.received ++ p.traffic :=
  x.received_inquireAll p.document.uri p.inquiries

/-! ### Waiting sends nothing -/

/-- Noting which requests have ended sends nothing. -/
theorem received_finish (batch noticed : List Sent) :
    (x.finish batch noticed).2.received = x.received := by
  rw [snd_finish]
  rfl

/-- The end of waits sends nothing. -/
theorem received_settleAll (ws : List Waiting) : (x.settleAll ws).2.received = x.received := by
  induction ws generalizing x with
  | nil => rfl
  | cons w ws ih =>
    show ((x.settle w).2.settleAll ws).2.received = _
    rw [ih]
    exact received_finish _ _ _

/-- The passing of time sends nothing. -/
theorem received_advanceTo (time : Nat) : (x.advanceTo time).2.received = x.received :=
  received_settleAll _ _

/-- Waiting for a batch sends nothing. -/
theorem received_join (deadline : Nat) (batch : List Sent) :
    (x.join deadline batch).2.2.received = x.received := by
  unfold join
  cases x.waitEnd? deadline batch with
  | none =>
    dsimp only
    unfold endAtOnce
    split
    · exact x.received_finish _ _
    · exact x.received_finish _ _
  | some time => exact (received_finish (x.advanceTo time).2 _ _).trans (x.received_advanceTo time)

/-- **Waiting for a pass off the UI thread sends the questions of the pass, and no others.** -/
theorem received_resolve (deadline : Nat) (p : Pass) :
    (x.resolve false deadline p).2.2.received = x.received ++ p.traffic :=
  (received_join _ _ _).trans (x.received_ask p)

end Exchange

/-! ### The questions of a pass that is made now -/

/-- The inquiries of a pass, each with the markers that it is about. -/
theorem Pass.map_inquiriesFrom (pass start : Nat) (markersOf : Connection → List Marker)
    (connections : List Connection) :
    (inquiriesFrom pass start markersOf connections).map
        (fun i => (i.connection, i.requests.map Request.marker)) =
      connections.map fun c => (c, markersOf c) := by
  induction connections generalizing start with
  | nil => rfl
  | cons c cs ih =>
    rw [inquiriesFrom, List.map_cons, List.map_cons, ih, map_marker_requestsFrom]

/-- Whether a connection may be asked about a document: the document is in the workspace, the server
looks at it, and the server offers code actions. -/
def ConnectionPool.mayAsk (p : ConnectionPool) (d : Document) (c : Connection) : Bool :=
  (p.workspace.resourceFor d.uri).isOk && p.appliesTo c d && c.support.isSupported

/-- The connections that are asked about a document are, in some order, the live ones that may
be. -/
theorem ConnectionPool.perm_mayAsk (p : ConnectionPool) (d : Document) :
    ((p.resolve d fun _ => true).filter (·.support.isSupported)).Perm
      (p.live.filter (p.mayAsk d)) := by
  unfold resolve mayAsk
  cases p.workspace.resourceFor d.uri with
  | error e => simp [Except.isOk, Except.toBool]
  | ok path =>
    have hsorted := (List.mergeSort_perm
      (p.live.filter fun c => p.appliesTo c d && true) Connection.before).filter
        (·.support.isSupported)
    refine hsorted.trans (.of_eq ?_)
    rw [List.filter_filter]
    refine List.filter_congr fun c _ => ?_
    simp [Except.isOk, Except.toBool, Bool.and_comm]

/-- Connections with different identifiers are found by them. -/
theorem ConnectionPool.filter_id_eq {p : ConnectionPool}
    (distinct : (p.live.map Connection.id).Nodup) (id : ConnectionId) :
    p.live.filter (fun c => decide (c.id = id)) = (p.get? id).toList := by
  unfold get?
  generalize p.live = live at distinct
  induction live with
  | nil => rfl
  | cons c cs ih =>
    obtain ⟨hfirst, hrest⟩ := List.nodup_cons.1 distinct
    rw [List.filter_cons, List.find?_cons]
    by_cases hid : c.id = id
    · have hnone : cs.filter (fun c => decide (c.id = id)) = [] := by
        refine List.filter_eq_nil_iff.2 fun c' hc' heq => hfirst ?_
        rw [hid, ← of_decide_eq_true heq]
        exact List.mem_map_of_mem hc'
      simp [hid, hnone]
    · simp [hid, ih hrest]

/-- Of questions to several connections, those to one. -/
theorem Connection.filter_flatMap_to (id : ConnectionId) (connections : List Connection)
    (questions : Connection → List CodeActionParams) :
    ((connections.flatMap fun c => (questions c).map (c.id, ·)).filter (·.1 = id)).map Prod.snd =
      (connections.filter fun c => decide (c.id = id)).flatMap questions := by
  induction connections with
  | nil => rfl
  | cons c cs ih =>
    rw [List.flatMap_cons, List.filter_append, List.map_append, ih, List.filter_cons]
    by_cases hid : c.id = id
    · have hall : ((questions c).map (c.id, ·)).filter (·.1 = id) = (questions c).map (c.id, ·) :=
        List.filter_eq_self.2 fun e he => by
          obtain ⟨q, -, rfl⟩ := List.mem_map.1 he
          exact decide_eq_true hid
      rw [hall, if_pos (decide_eq_true hid), List.flatMap_cons, List.map_map]
      exact congrArg (· ++ (cs.filter fun c => decide (c.id = id)).flatMap questions) (List.map_id _)
    · have hnone : ((questions c).map (c.id, ·)).filter (·.1 = id) = [] :=
        List.filter_eq_nil_iff.2 fun e he => by
          obtain ⟨q, -, rfl⟩ := List.mem_map.1 he
          exact fun heq => hid (of_decide_eq_true heq)
      simp [hnone, hid]

namespace Annotator

variable {a : Annotator} {editor : EditorId} {d : Document} {p : Pass}

/-- **The questions of a pass that is made now**: one for each connection that may be asked and each
marker that the store holds for the editor and the connection's server. -/
theorem traffic_of_collect (hd : a.workbench.documentFor editor = .ok d)
    (made : (a.collect editor).1 = some p) :
    p.traffic = ((a.pool.resolve d fun _ => true).filter (·.support.isSupported)).flatMap fun c =>
      (a.markers.collect editor c.server).map fun m => (c.id, .about d.uri m.diagnostic) := by
  unfold collect at made
  rw [hd] at made
  obtain rfl := Option.some.inj made
  generalize a.pool.resolve d (fun _ => true) = connections
  let asks (e : Connection × List Marker) : List (ConnectionId × CodeActionParams) :=
    if e.1.support.isSupported then e.2.map fun m => (e.1.id, .about d.uri m.diagnostic) else []
  have hasks : ∀ i : Inquiry, i.traffic d.uri =
      asks (i.connection, i.requests.map Request.marker) := fun i => by
    unfold Inquiry.traffic Inquiry.asked
    by_cases hsupport : i.connection.support.isSupported = true <;> simp [asks, hsupport]
  unfold Pass.traffic
  rw [funext hasks, ← List.flatMap_map, Pass.map_inquiriesFrom, List.flatMap_map]
  induction connections with
  | nil => rfl
  | cons c cs ih =>
    rw [List.flatMap_cons, ih, List.filter_cons]
    by_cases hsupport : c.support.isSupported = true <;> simp [asks, hsupport]

/-- What a pass puts to one client: nothing unless its connection is live and may be asked. -/
theorem traffic_to (distinct : (a.pool.live.map Connection.id).Nodup)
    (hd : a.workbench.documentFor editor = .ok d) (made : (a.collect editor).1 = some p)
    (id : ConnectionId) :
    (p.traffic.filter (·.1 = id)).map Prod.snd =
      ((a.pool.get? id).toList.filter (a.pool.mayAsk d)).flatMap fun c =>
        (a.markers.collect editor c.server).map fun m => .about d.uri m.diagnostic := by
  have hperm := (a.pool.perm_mayAsk d).filter fun c => decide (c.id = id)
  rw [List.filter_comm (l := a.pool.live), ConnectionPool.filter_id_eq distinct] at hperm
  have hsame : (((a.pool.resolve d fun _ => true).filter (·.support.isSupported)).filter
      fun c => decide (c.id = id)) = (a.pool.get? id).toList.filter (a.pool.mayAsk d) := by
    -- At most one connection has the identifier, so its place among the others does not matter.
    cases hget : a.pool.get? id with
    | none =>
      rw [hget] at hperm
      exact hperm.eq_nil
    | some c =>
      rw [hget, Option.toList_some] at hperm
      rw [Option.toList_some]
      rcases List.sublist_singleton.1 (List.filter_sublist (p := a.pool.mayAsk d) (l := [c])) with
        hnone | hone
      · rw [hnone] at hperm ⊢
        exact hperm.eq_nil
      · rw [hone] at hperm ⊢
        exact hperm.eq_singleton
  have hto := Connection.filter_flatMap_to id
    ((a.pool.resolve d fun _ => true).filter (·.support.isSupported)) fun c =>
      (a.markers.collect editor c.server).map fun m => .about d.uri m.diagnostic
  simp only [List.map_map, Function.comp_def] at hto
  rw [traffic_of_collect hd made, ← hsame]
  exact hto

/-- The number of questions of a pass. -/
theorem length_traffic (hd : a.workbench.documentFor editor = .ok d)
    (made : (a.collect editor).1 = some p) :
    p.traffic.length = ((a.pool.live.filter (a.pool.mayAsk d)).map fun c =>
      (a.markers.collect editor c.server).length).sum := by
  rw [traffic_of_collect hd made, List.length_flatMap]
  simp only [List.length_map]
  exact ((a.pool.perm_mayAsk d).map _).sum_eq

end Annotator

/-! ### Acts that leave the connections alone -/

namespace Annotator

variable (a : Annotator)

/-- A publish leaves the connections as they are. -/
theorem pool_publish (server : String) (params : PublishParams) :
    (a.publish server params).2.pool = a.pool := by
  rw [snd_publish]

/-- Making a pass leaves the connections as they are. -/
theorem pool_collect (editor : EditorId) : (a.collect editor).2.pool = a.pool := by
  rw [snd_collect]

/-- Showing a pass leaves the connections as they are. -/
theorem pool_apply (onUi : Bool) (r : PassResult) : (a.apply onUi r).2.pool = a.pool := by
  rw [snd_apply]

/-- So does each task on the UI thread. -/
theorem pool_perform (action : UiAction) (onUi : Bool) : (a.perform action onUi).pool = a.pool := by
  cases action with
  | apply r => exact a.pool_apply onUi r
  | clear editor => rfl

/-- So do all the tasks that wait there. -/
theorem pool_runUi : a.runUi.2.pool = a.pool := by
  unfold runUi
  dsimp only
  generalize (a.ui.runPending false).1.log = log
  generalize (a.ui.runPending false).2 = ui
  suffices h : ∀ b : Annotator, (log.foldl (fun b entry => b.perform entry.1 entry.2) b).pool = b.pool
    from h { a with ui := ui }
  induction log with
  | nil => exact fun _ => rfl
  | cons entry log ih => exact fun b => (ih _).trans (b.pool_perform _ _)

/-- So does what an event has the annotator do. -/
theorem pool_react (event : Event) : (a.react event).2.pool = a.pool := by
  cases event with
  | changed document =>
    unfold react
    dsimp only
    split <;> rfl
  | _ => rfl

/-- So do passes that are scheduled to be shown. -/
theorem pool_scheduleAll (results : List PassResult) :
    (results.foldl schedule a).pool = a.pool := by
  induction results generalizing a with
  | nil => rfl
  | cons r rs ih => exact (ih _).trans rfl

end Annotator

namespace Session

variable {root : Path} {config : Config} {locate : Locator} {s t : Session} {ps : List Pass}
  {rs : List PassResult}

/-- The connections of a session, and how many have been made. -/
def connections (s : Session) : ConnectionPool × Nat :=
  (s.annotator.pool, s.connectionCount)

section

variable (s)

/-- A step of the annotator that keeps the pool keeps the connections of the session. -/
theorem connections_withAnnotator {a : Annotator} (h : a.pool = s.annotator.pool) :
    connections { s with annotator := a } = s.connections :=
  congrArg (·, s.connectionCount) h

/-- A publish in a session keeps the connections. -/
theorem connections_publish (server : String) (params : PublishParams) (runtime : Bool) :
    (s.publish server params runtime).2.connections = s.connections :=
  s.connections_withAnnotator (s.annotator.pool_publish server params)

/-- Making a pass in a session keeps the connections. -/
theorem connections_collect (editor : EditorId) :
    (s.collect editor).2.connections = s.connections :=
  s.connections_withAnnotator (s.annotator.pool_collect editor)

/-- Showing a pass in a session keeps the connections. -/
theorem connections_apply (onUi : Bool) (r : PassResult) :
    (s.apply onUi r).2.connections = s.connections :=
  s.connections_withAnnotator (s.annotator.pool_apply onUi r)

/-- Passes that have ended are scheduled, and the connections are kept. -/
theorem connections_withExchange (results : List PassResult) (x : Exchange) :
    (s.withExchange results x).connections = s.connections :=
  s.connections_withAnnotator (s.annotator.pool_scheduleAll results)

/-- A whole pass keeps the connections. -/
theorem connections_annotate (editor : EditorId) :
    (s.annotate editor).connections = s.connections := by
  have hcollect := s.connections_collect editor
  unfold annotate
  rcases hc : s.collect editor with ⟨_ | p, t⟩ <;> rw [hc] at hcollect
  · exact hcollect
  · have hresolve : (t.resolve false p).2.connections = t.connections :=
      t.connections_withExchange _ _
    dsimp only
    rcases hr : t.resolve false p with ⟨err | r, u⟩ <;> rw [hr] at hresolve
    · exact hresolve.trans hcollect
    · exact hresolve.trans hcollect

/-- An event loop that handles events keeps the connections. -/
theorem connections_follow (events : List Event) : (s.follow events).2.connections = s.connections := by
  induction events generalizing s with
  | nil => rfl
  | cons event events ih =>
    unfold follow
    split
    · exact (ih _).trans (s.connections_withAnnotator (s.annotator.pool_react event))
    · rfl

/-- All event loops together keep them. -/
theorem connections_readEvents (loops : List EventLoop) :
    (s.readEvents loops).2.connections = s.connections := by
  induction loops generalizing s with
  | nil => rfl
  | cons l ls ih =>
    unfold readEvents
    refine (ih _).trans ?_
    split
    · exact s.connections_follow _
    · rfl

/-- A pass that starts in the background keeps the connections. -/
theorem connections_startPass (editor : EditorId) :
    (s.startPass editor).connections = s.connections := by
  cases hp : (s.annotator.collect editor).1 with
  | none => rw [startPass_of_none hp, connections_collect]
  | some p => rw [startPass_of_some hp, connections_withExchange, connections_collect]

/-- All that happens in the background keeps the connections. -/
theorem connections_background : s.background.connections = s.connections := by
  have hpasses : ∀ (editors : List EditorId) (s : Session),
      (editors.foldl startPass s).connections = s.connections := by
    intro editors
    induction editors with
    | nil => exact fun _ => rfl
    | cons editor editors ih => exact fun s => (ih _).trans (s.connections_startPass editor)
  unfold background
  dsimp only
  refine (connections_withExchange _ _ _).trans ((hpasses _ _).trans ?_)
  exact (connections_readEvents _ _).trans (connections_readEvents _ _)

end

/-! ### Numbers of connections -/

/-- Live connections have different identifiers, and these were given out. -/
structure Numbered (s : Session) : Prop where
  distinct : (s.annotator.pool.live.map Connection.id).Nodup
  given : ∀ c ∈ s.annotator.pool.live, c.id.number ≤ s.connectionCount

/-- Whether connections are told apart is a matter of the connections alone. -/
theorem Numbered.congr (h : s.Numbered) (same : t.connections = s.connections) : t.Numbered := by
  obtain ⟨hpool, hcount⟩ := Prod.mk.inj same
  exact ⟨hpool ▸ h.distinct, hpool ▸ hcount ▸ h.given⟩

/-- Ending a connection gives out none. -/
theorem Numbered.disconnect (h : s.Numbered) (connection : ConnectionId) :
    (s.disconnect connection).Numbered where
  distinct := ConnectionPool.nodup_id_unregister h.distinct connection
  given c hc := h.given c (ConnectionPool.mem_live_unregister_iff.1 hc).1

/-- Making a connection gives out the next identifier. -/
theorem Numbered.connect (h : s.Numbered) (server : String) (capabilities : Capabilities)
    (client : Client) : (s.connect server capabilities client).Numbered := by
  constructor
  · exact ConnectionPool.nodup_id_register h.distinct _
  · intro c hc
    rcases ConnectionPool.mem_live_register_iff.1 hc with ⟨hold, -⟩ | rfl
    · exact Nat.le_succ_of_le (h.given c hold)
    · exact Nat.le_refl _

/-- **In every session connections are told apart by identifiers that are given out once.** -/
theorem Reached.numbered (h : Reached root config locate s ps rs) : s.Numbered := by
  induction h with
  | start => exact ⟨List.nodup_nil, fun c hc => absurd hc List.not_mem_nil⟩
  | openFile _ ok ih =>
    obtain ⟨w, -, rfl⟩ := exists_of_map_eq_ok ok
    exact ih.congr rfl
  | close _ ok ih | edit _ ok ih =>
    obtain ⟨w, -, rfl⟩ := exists_of_map_eq_ok ok
    exact ih.congr rfl
  | connect _ server capabilities client ih => exact ih.connect server capabilities client
  | disconnect _ connection ih => exact ih.disconnect connection
  | publish _ server params runtime ih => exact ih.congr (connections_publish _ _ _ _)
  | collect _ editor ih => exact ih.congr (connections_collect _ _)
  | ask | join | resolve | wait =>
    rename_i ih
    exact ih.congr (connections_withExchange _ _ _)
  | apply _ onUi atHand ih => exact ih.congr (connections_apply _ _ _)
  | annotate _ editor ih => exact ih.congr (connections_annotate _ _)
  | runUi _ ih => exact ih.congr (connections_withAnnotator _ (Annotator.pool_runUi _))
  | background _ ih => exact ih.congr (connections_background _)
  | openDocument | schedule | editorClosed | startLoop | stopLoop | drop =>
    rename_i ih
    exact ih.congr rfl

/-- No connection has an identifier that was not given out yet. -/
theorem Numbered.get?_eq_none (h : s.Numbered) {id : ConnectionId}
    (later : s.connectionCount < id.number) : s.annotator.pool.get? id = none :=
  List.find?_eq_none.2 fun c hc heq => by
    have hle := h.given c hc
    rw [of_decide_eq_true heq] at hle
    exact absurd hle (Nat.not_le_of_lt later)

/-! ### The traffic of a pass -/

/-- **The traffic of a pass.** In every session a pass about an open editor asks each connection
that is live when the pass is made and may be asked about the document one question for each marker
of its server, with the URI of the document, the range of the diagnostic and the diagnostic alone.
No other client receives anything, in particular not that of a connection made later; and nothing
that happens before the pass is waited for changes what is asked. -/
theorem Reached.pass_traffic {editor : EditorId} (h : Reached root config locate s ps rs)
    (ho : s.workbench.isOpen editor = true) :
    ∃ d p, s.workbench.documentFor editor = .ok d ∧ (s.collect editor).1 = some p ∧
      ∀ t : Session,
        (∃ result, (t.resolve false p).1 = .ok result) ∧
        (∀ id, (t.resolve false p).2.exchange.receivedBy id = t.exchange.receivedBy id ++
          ((s.annotator.pool.get? id).toList.filter (s.annotator.pool.mayAsk d)).flatMap fun c =>
            (s.annotator.markers.collect editor c.server).map fun m =>
              ⟨d.uri, m.diagnostic.range, [m.diagnostic]⟩) ∧
        (t.resolve false p).2.exchange.received.length = t.exchange.received.length +
          ((s.annotator.pool.live.filter (s.annotator.pool.mayAsk d)).map fun c =>
            (s.annotator.markers.collect editor c.server).length).sum ∧
        ∀ id, s.connectionCount < id.number →
          (t.resolve false p).2.exchange.receivedBy id = t.exchange.receivedBy id := by
  obtain ⟨d, hd⟩ := h.documentFor_of_isOpen ho
  obtain ⟨p, made⟩ : ∃ p, (s.annotator.collect editor).1 = some p := by
    unfold Annotator.collect
    rw [show s.annotator.workbench.documentFor editor = .ok d from hd]
    exact ⟨_, rfl⟩
  refine ⟨d, p, hd, made, fun t => ?_⟩
  have hreceived : (t.resolve false p).2.exchange.received = t.exchange.received ++ p.traffic :=
    t.exchange.received_resolve t.deadline p
  have hto : ∀ id, (t.resolve false p).2.exchange.receivedBy id = t.exchange.receivedBy id ++ _ :=
    fun id => by
      unfold Exchange.receivedBy
      rw [hreceived, List.filter_append, List.map_append,
        Annotator.traffic_to h.numbered.distinct hd made id]
  refine ⟨⟨_, rfl⟩, hto, ?_, fun id later => ?_⟩
  · rw [hreceived, List.length_append, Annotator.length_traffic hd made]
  · rw [hto, h.numbered.get?_eq_none later]
    exact List.append_nil _

/-! ### An example -/

namespace Sample

/-- The document of the session. -/
def uri : Uri := ⟨"file:///w/notes", by decide⟩

/-- A diagnostic about the whole text. -/
def diagnostic (message : String) : Diagnostic :=
  { range := ⟨⟨0, 0⟩, ⟨0, 4⟩⟩, message := message }

/-- Two connections to one server may be asked. A third does not offer code actions, and the server
of the last looks at documents of another language. -/
def published : Session :=
  let s := (start (.ofString "/w") {} tokenLocator).openDocument uri "text"
  let s := s.connect "x" ⟨some (.simple true)⟩ .echo
  let s := s.connect "x" ⟨some (.simple true)⟩ .silent
  let s := s.connect "x" ⟨none⟩ .echo
  let s := s.connect "lsp4jakarta" ⟨some (.simple true)⟩ .echo
  let s := (s.publish "x" ⟨uri, [diagnostic "one", diagnostic "two"], none⟩ true).2
  (s.publish "lsp4jakarta" ⟨uri, [diagnostic "three"], none⟩ true).2

/-- After the pass is made a fifth connection is, and the server publishes anew. -/
def later : Session :=
  let s := (published.collect ⟨1⟩).2.connect "x" ⟨some (.simple true)⟩ .echo
  (s.publish "x" ⟨uri, [diagnostic "four"], none⟩ true).2

end Sample

/-- Of five connections the two that may be asked receive the two questions of their server. -/
theorem pass_traffic_five_connections :
    ∃ p, (Sample.published.collect ⟨1⟩).1 = some p ∧
      let x := (Sample.later.resolve false p).2.exchange
      let asked := [.about Sample.uri (Sample.diagnostic "one"),
        .about Sample.uri (Sample.diagnostic "two")]
      x.receivedBy ⟨1⟩ = asked ∧ x.receivedBy ⟨2⟩ = asked ∧ x.receivedBy ⟨3⟩ = [] ∧
        x.receivedBy ⟨4⟩ = [] ∧ x.receivedBy ⟨5⟩ = [] ∧ x.received.length = 4 := by
  have reached : Reached (.ofString "/w") {} tokenLocator Sample.published [] [] :=
    ((((((Reached.start.openDocument Sample.uri "text").connect _ _ _).connect _ _ _).connect
      _ _ _).connect _ _ _).publish _ _ true).publish _ _ true
  obtain ⟨d, p, hd, made, htraffic⟩ :=
    Reached.pass_traffic reached (show Sample.published.workbench.isOpen ⟨1⟩ = true by cbv)
  have hdocument : Sample.published.workbench.documentFor ⟨1⟩ =
      .ok (.ofText ⟨1⟩ Sample.uri "text") := by cbv
  obtain rfl := Except.ok.inj (hd.symm.trans hdocument)
  obtain ⟨-, hto, hlength, hnew⟩ := htraffic Sample.later
  refine ⟨p, made, (hto ⟨1⟩).trans ?_, (hto ⟨2⟩).trans ?_, (hto ⟨3⟩).trans ?_, (hto ⟨4⟩).trans ?_,
    hnew ⟨5⟩ (show 4 < 5 by decide), hlength.trans ?_⟩
  all_goals cbv

end Session

end AnnotationBridge
