import AnnotationBridge.Proofs.Reachable
import Mathlib

/-!
# Only current markers are shown, and all of them

Between the making of a pass and the showing of its result, publishes and releases may replace or
clear some of the batches that the pass is about.

* `Workflow.Run.marker_iff`: a marker of a pass is current exactly as long as nothing that happened
  since is about its key.
* `Workflow.Run.shown_fresh`: a result that is shown is shown without the items that are no longer
  current, and with all others as they are.
* `Workflow.Sample.run`: a run in which one of two servers publishes while a pass is under way.

The run is evaluated by `cbv`. All of Mathlib is imported for the equations of core functions, such
as `List.lookup`, that the evaluation goes by.
-/

namespace AnnotationBridge

open Lsp

/-- The annotations for a result if exactly the markers with some property are current. -/
theorem PassResult.render_eq {markers : MarkerStore} {r : PassResult} (keep : Marker → Bool)
    (h : ∀ fs ∈ r.findings, ∀ f ∈ fs.items, markers.isCurrent f.marker = keep f.marker) :
    r.render markers = r.findings.flatMap fun fs =>
      (fs.items.filter (keep ·.marker)).map (·.render fs.connection.id) := by
  unfold render
  rw [List.flatMap_def, List.flatMap_def]
  congr 1
  refine List.map_congr_left fun fs hfs => ?_
  rw [Findings.render, List.filter_congr (h fs hfs)]

/-- The annotations for all items of a result. -/
def PassResult.renderAll (r : PassResult) : List Annotation :=
  r.findings.flatMap fun fs => fs.items.map (·.render fs.connection.id)

/-- A result of which all markers are current is rendered as a whole. -/
theorem PassResult.render_eq_renderAll {markers : MarkerStore} {r : PassResult}
    (h : ∀ fs ∈ r.findings, ∀ f ∈ fs.items, markers.isCurrent f.marker = true) :
    r.render markers = r.renderAll := by
  rw [PassResult.render_eq (fun _ => true) h]
  unfold renderAll
  congr 1
  funext fs
  rw [List.filter_eq_self.2 fun _ _ => rfl]

namespace Workflow

variable {s t u : Workflow} {act : Act} {acts : List Act} {p : Pass} {r : PassResult}
  {workspace : Workspace} {pool : ConnectionPool} {locate : Locator} {config : AnnotatorConfig}

/-- **A marker of a pass is in the batch of its key exactly as long as nothing since the making of
the pass is about that key**, and then its generation is that of the batch, and only then. -/
theorem Run.marker_iff (hs : s.annotator.markers.WellFormed) (made : Step s (.collected p) t)
    (after : Run t acts u) {q : Request} (hq : q ∈ p.requests) :
    (q.marker ∈ u.annotator.markers.collect q.marker.editor q.marker.server ↔
        ∀ act ∈ acts, ¬ act.Touches q.marker.editor q.marker.server) ∧
      (u.annotator.markers.isCurrent q.marker = true ↔
        q.marker ∈ u.annotator.markers.collect q.marker.editor q.marker.server) := by
  obtain ⟨-, -, -, -, hkept, hown⟩ := made.collected_spec
  have ht : t.annotator.markers.WellFormed := hkept ▸ hs
  have hmem : q.marker ∈ t.annotator.markers.collect q.marker.editor q.marker.server :=
    hkept ▸ (hown hs q hq).2
  obtain ⟨history, hu, htouch⟩ := after.markers
  rw [hu]
  refine ⟨?_, MarkerStore.isCurrent_changes_iff ht hmem history⟩
  rw [MarkerStore.mem_collect_changes_iff ht hmem]
  constructor
  · intro hun act hact hta
    obtain ⟨c, hc, htc⟩ := (htouch _ _).2 ⟨act, hact, hta⟩
    exact hun c hc htc
  · intro hun c hc htc
    obtain ⟨act, hact, hta⟩ := (htouch _ _).1 ⟨c, hc, htc⟩
    exact hun act hact hta

/-- A result that was handed over comes from a pass that was made before in the run. -/
theorem Run.exists_collected (h : Run (start workspace pool locate config) acts s)
    {onUi hasShown : Bool} (step : Step s (.applied onUi r hasShown) t) :
    ∃ p before after m m', acts = before ++ .collected p :: after ∧ .resolved p r ∈ after ∧
      (∃ answers, r = p.resolved answers) ∧
      Run (start workspace pool locate config) before m ∧ Step m (.collected p) m' ∧
      Run m' after s := by
  obtain ⟨p, hp⟩ := (h.snoc step).exists_resolved (List.mem_append_right _ List.mem_cons_self)
  have hp : .resolved p r ∈ acts := by
    rcases List.mem_append.1 hp with hp | hp
    · exact hp
    · cases List.mem_singleton.1 hp
  obtain ⟨first, last, k, k', rfl, toK, stepK, fromK⟩ := h.exists_step hp
  have hmem : p ∈ k.passes ∧ ∃ answers, r = p.resolved answers := by
    cases stepK with
    | resolved made answers => exact ⟨made, answers, rfl⟩
  obtain ⟨before, mid, m, m', rfl, toM, stepM, fromM⟩ :=
    toK.exists_step (toK.collected_of_mem hmem.1)
  refine ⟨p, before, mid ++ .resolved p r :: last, m, m', ?_, ?_, hmem.2, toM, stepM, ?_⟩
  · rw [List.append_assoc, List.cons_append]
  · exact List.mem_append_right _ List.mem_cons_self
  · rw [← List.singleton_append, ← List.append_assoc]
    exact (fromM.snoc stepK).append fromK

open Classical in
/-- **Only fresh markers are shown, and all of them.** A result that the UI thread is given for an
open editor to which no later pass was applied replaces what the editor shows: there is one
annotation for each item whose marker is in the batch that its key holds at that time, in order of
connection and marker, with the marker's span, message and source and one fix for each action. These
are the items whose key nothing was about since the pass was made. -/
theorem Run.shown_fresh (h : Run (start workspace pool locate config) acts s) {hasShown : Bool}
    (step : Step s (.applied true r hasShown) t) (ho : s.isOpen r.editor = true)
    (hn : ∀ n, s.recorded r.editor = some n → n ≤ r.pass) :
    hasShown = true ∧
      t.shown r.editor = some (r.findings.flatMap fun fs =>
        (fs.items.filter fun f =>
            f.marker ∈ s.annotator.markers.collect f.marker.editor f.marker.server).map fun f =>
          { severity := .ofSeverity f.marker.diagnostic.severity
            message := f.marker.diagnostic.message
            tooltip := some f.marker.diagnostic.message
            range := f.marker.span
            source := f.marker.server
            fixes := f.actions.map fun action => ⟨action.title, fs.connection.id, action⟩ }) ∧
      ∃ p before after, acts = before ++ .collected p :: after ∧ .resolved p r ∈ after ∧
        ∀ fs ∈ r.findings, ∀ f ∈ fs.items,
          (f.marker ∈ s.annotator.markers.collect f.marker.editor f.marker.server ↔
            ∀ act ∈ after, ¬ act.Touches f.marker.editor f.marker.server) := by
  obtain rfl : hasShown = true := by
    rw [step.shown_eq_accepts]
    exact Annotator.accepts_eq_true_iff.2 ⟨rfl, ho, hn⟩
  obtain ⟨p, before, after, m, m', hacts, hresolved, ⟨answers, rfl⟩, toM, made, rest⟩ :=
    h.exists_collected step
  -- Both parts come down to the requests of the pass.
  have hmarker : ∀ fs ∈ (p.resolved answers).findings, ∀ f ∈ fs.items,
      (f.marker ∈ s.annotator.markers.collect f.marker.editor f.marker.server ↔
          ∀ act ∈ after, ¬ act.Touches f.marker.editor f.marker.server) ∧
        (s.annotator.markers.isCurrent f.marker = true ↔
          f.marker ∈ s.annotator.markers.collect f.marker.editor f.marker.server) := by
    intro fs hfs f hf
    obtain ⟨q, hq, hqf, -⟩ := Pass.exists_request hfs hf
    rw [← hqf]
    exact rest.marker_iff (toM.sound .start).markers made hq
  refine ⟨rfl, ?_, p, before, after, hacts, hresolved, fun fs hfs f hf => (hmarker fs hfs f hf).1⟩
  rw [step.shown_of_applied, PassResult.render_eq
    (fun marker => decide (marker ∈ s.annotator.markers.collect marker.editor marker.server))
    fun fs hfs f hf => by
      rw [Bool.eq_iff_iff, decide_eq_true_iff]
      exact (hmarker fs hfs f hf).2]
  rfl

/-! ### A run with two servers

Two servers publish about one editor, and the first of them once more while a pass is under way. -/

namespace Sample

/-- The editor of the run. -/
def editor : EditorId := ⟨1⟩

/-- The document that it shows. -/
def document : Document :=
  ⟨⟨1⟩, ⟨"file:///w/a", by decide⟩, none, "a", none, ⟨"text".toList, 0⟩⟩

/-- A connection to a server that offers code actions. -/
def connection (number : Nat) (server : String) : Connection :=
  ⟨⟨number⟩, server, ⟨some (.simple true)⟩, .echo⟩

/-- What a server publishes: one diagnostic about the whole text. -/
def params (server : String) : PublishParams :=
  ⟨document.uri, [{ range := ⟨⟨0, 0⟩, ⟨0, 4⟩⟩, message := server }], none⟩

/-- Nothing has happened yet. -/
def initial : Workflow :=
  start ⟨.ofString "/w"⟩ ⟨⟨.ofString "/w"⟩, [], [connection 1 "x", connection 2 "y"]⟩ tokenLocator
    ⟨1000, true⟩

/-- The marker of a server's diagnostic. -/
def marker (server : String) (generation : Nat) : Marker :=
  ⟨editor, server, generation, { range := ⟨⟨0, 0⟩, ⟨0, 4⟩⟩, message := server }, ⟨0, 4⟩, "text"⟩

/-- A pass about the editor. -/
def pass (number generation : Nat) : Pass :=
  ⟨number, editor, document,
    [⟨connection 1 "x", [⟨⟨number, 0⟩, marker "x" generation⟩]⟩,
      ⟨connection 2 "y", [⟨⟨number, 1⟩, marker "y" 2⟩]⟩]⟩

/-- What a server offers. -/
def fix (server : String) : Action :=
  .action { title := "Fix " ++ server }

/-- The answers of both servers to a pass. -/
def answers (number : Nat) : Answers :=
  (Answers.empty.record ⟨number, 0⟩ [fix "x"]).record ⟨number, 1⟩ [fix "y"]

/-- The result of a pass that both servers have answered. -/
def result (number generation : Nat) : PassResult :=
  (pass number generation).resolved (answers number)

/-- A pass is resolved that the first server has superseded. -/
def begun : List Act :=
  [.opened editor document, .published "x" (params "x") true [editor],
    .published "y" (params "y") true [editor], .collected (pass 1 1),
    .published "x" (params "x") true [editor], .resolved (pass 1 1) (result 1 1)]

/-- Two more passes are made and resolved, and the results are handed over in another order. -/
def ended : List Act :=
  [.collected (pass 2 3), .collected (pass 3 3), .resolved (pass 3 3) (result 3 3),
    .resolved (pass 2 3) (result 2 3), .applied true (result 1 1) true,
    .applied true (result 3 3) true, .applied true (result 2 3) false]

/-- The run, with the states in which it is half done and in which nothing is left to be done. -/
theorem run : ∃ t u, Run initial begun t ∧ Run t ended u ∧
    (t.results = [result 1 1] ∧ t.isOpen editor = true ∧ t.recorded editor = none ∧
      t.annotator.markers.collect editor "x" = [marker "x" 3] ∧
      t.annotator.markers.collect editor "y" = [marker "y" 2]) ∧
    u.isOpen editor = true ∧ u.due = [] ∧ u.passes = [pass 1 1, pass 2 3, pass 3 3] ∧
      u.inFlight = [] := by
  have h₁ := (Run.nil (s := initial)).snoc
    (.opened document (show editor ∉ initial.known by decide))
  have h₂ := h₁.snoc (.published "x" (params "x") true)
  have h₃ := h₂.snoc (.published "y" (params "y") true)
  have h₄ := h₃.snoc (.begun (p := pass 1 1)
    (show List.Perm _ (editor :: [editor]) by cbv; exact .refl _) (by cbv))
  have h₅ := h₄.snoc (.published "x" (params "x") true)
  have h₆ := h₅.snoc (.resolved (p := pass 1 1) (by cbv; exact List.mem_cons_self) (answers 1))
  have fresh : ∀ {s t : Workflow} {acts : List Act}, Run s acts t → Run t [] t := fun _ => .nil
  have k₁ := (fresh h₆).snoc (.begun (p := pass 2 3)
    (show List.Perm _ (editor :: [editor]) by cbv; exact .refl _) (by cbv))
  have k₂ := k₁.snoc (.begun (p := pass 3 3)
    (show List.Perm _ (editor :: []) by cbv; exact .refl _) (by cbv))
  have k₃ := k₂.snoc (.resolved (p := pass 3 3)
    (by cbv; exact List.mem_cons_of_mem _ (List.mem_cons_of_mem _ List.mem_cons_self)) (answers 3))
  have k₄ := k₃.snoc (.resolved (p := pass 2 3)
    (by cbv; exact List.mem_cons_of_mem _ List.mem_cons_self) (answers 2))
  have k₅ := k₄.snoc (.applied true (r := result 1 1)
    (show List.Perm _ (result 1 1 :: [result 3 3, result 2 3]) by cbv; exact .refl _))
  have k₆ := k₅.snoc (.applied true (r := result 3 3)
    (show List.Perm _ (result 3 3 :: [result 2 3]) by cbv; exact .refl _))
  have k₇ := k₆.snoc (.applied true (r := result 2 3)
    (show List.Perm _ (result 2 3 :: []) by cbv; exact .refl _))
  refine ⟨_, _, Eq.mp (congrArg (Run initial · _) ?_) h₆, Eq.mp (congrArg (Run _ · _) ?_) k₇, ?_, ?_⟩
  all_goals cbv

end Sample

/-- In the run of two servers the first pass is shown without the marker of the first server, which
has published once more, although what it published is the same. -/
theorem shown_fresh_two_servers :
    ∃ t u, Run Sample.initial Sample.begun t ∧ Step t (.applied true (Sample.result 1 1) true) u ∧
      u.shown Sample.editor =
        some [⟨.information, "y", some "y", ⟨0, 4⟩, "y", [⟨"Fix y", ⟨2⟩, Sample.fix "y"⟩]⟩] := by
  obtain ⟨t, -, run, -, ⟨hresults, hopen, hrecord, hx, hy⟩, -⟩ := Sample.run
  have step := Step.applied true (show t.results.Perm (Sample.result 1 1 :: []) by rw [hresults])
  have hnone : ∀ n, t.recorded (Sample.result 1 1).editor = some n → n ≤ 1 := fun n hn => by
    cases hrecord.symm.trans hn
  obtain ⟨hshown, hlist, -⟩ := Run.shown_fresh run step hopen hnone
  rw [hshown] at step
  have hstale : (Sample.marker "x" 1 ∈ t.annotator.markers.collect
      (Sample.marker "x" 1).editor (Sample.marker "x" 1).server) = False := by
    show (_ ∈ t.annotator.markers.collect Sample.editor "x") = False
    rw [hx]
    simp [Sample.marker]
  have hfresh : (Sample.marker "y" 2 ∈ t.annotator.markers.collect
      (Sample.marker "y" 2).editor (Sample.marker "y" 2).server) = True := by
    show (_ ∈ t.annotator.markers.collect Sample.editor "y") = True
    rw [hy]
    simp
  have hfindings : (Sample.result 1 1).findings =
      [⟨Sample.connection 1 "x", [⟨Sample.marker "x" 1, [Sample.fix "x"]⟩]⟩,
        ⟨Sample.connection 2 "y", [⟨Sample.marker "y" 2, [Sample.fix "y"]⟩]⟩] := rfl
  refine ⟨t, _, run, step, hlist.trans ?_⟩
  rw [hfindings]
  simp only [List.flatMap_cons, List.flatMap_nil, List.filter_cons, List.filter_nil, hstale, hfresh,
    decide_false, decide_true, if_true]
  rfl

end Workflow

end AnnotationBridge
