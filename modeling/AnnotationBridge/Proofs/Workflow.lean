import AnnotationBridge.Proofs.Annotator

/-!
# Runs of an annotator

A `Workflow` is an annotator with the passes that are under way. Hosts, servers, background tasks
and the UI thread act on it one at a time and in any order.

* `Workflow.Act`: what happened in a step, with what came of it. `Workflow.Step`: the steps.
  `Workflow.Run`: any number of steps, with all that happened.
* `Workflow.Step.workbench_cases`: what a step does to the workbench.
* `Workflow.Act.Touches`, `Workflow.Step.markers`, `Workflow.Run.markers`: the markers change by
  publishes, by the host's own changes and by releasing editors, and in no other way.
* `Workflow.Step.shown_cases`: what a step does to what an editor shows and to the record of it.
* `Workflow.Step.inFlight_perm`, `Workflow.Run.inFlight_perm`: each result that is made is at hand,
  queued or used, and it is used once.
-/

namespace AnnotationBridge

open Lsp Text

/-- An annotator with the passes that are under way. -/
structure Workflow where
  annotator : Annotator
  /-- The editors that were opened so far. -/
  known : List EditorId
  /-- The editors for which a pass is due that has not looked at them yet. -/
  due : List EditorId
  /-- The passes made so far. -/
  passes : List Pass
  /-- The results at hand, neither shown nor queued. -/
  results : List PassResult

namespace Workflow

/-- An annotator for which nothing happened yet. -/
def start (workspace : Workspace) (pool : ConnectionPool) (locate : Locator)
    (config : AnnotatorConfig) : Workflow :=
  ⟨.empty (.empty workspace) pool locate config, [], [], [], []⟩

/-- Whether an editor is open. -/
def isOpen (s : Workflow) (e : EditorId) : Bool :=
  s.annotator.workbench.isOpen e

/-- The results that were made and not used yet. -/
def inFlight (s : Workflow) : List PassResult :=
  s.results ++ s.annotator.queuedResults

/-! ### Steps -/

/-- What happened in a step, with what came of it. -/
inductive Act where
  | opened (editor : EditorId) (d : Document)
  | closed (editor : EditorId)
  | edited (document : DocumentId) (range : Span) (text : List Char)
  | connected (c : Connection)
  | disconnected (id : ConnectionId)
  /-- A server published, with or without a runtime, and the given editors show the document. -/
  | published (server : String) (params : PublishParams) (runtime : Bool) (editors : List EditorId)
  /-- The host changed the markers by itself. -/
  | remarked (c : MarkerChange)
  | collected (p : Pass)
  /-- A pass that was due found its editor closed. -/
  | skipped (editor : EditorId)
  | resolved (p : Pass) (result : PassResult)
  /-- A result was handed over to be shown, on the UI thread or not, and was shown or not. -/
  | applied (onUi : Bool) (result : PassResult) (shown : Bool)
  | scheduled (result : PassResult)
  /-- The UI thread cleared an editor. -/
  | cleared (editor : EditorId)
  /-- The annotator was told that an editor was closed, while it was still open or not. -/
  | released (editor : EditorId) (stillOpen : Bool)

/-- The results that something that happened has made. -/
def Act.made : Act → List PassResult
  | .resolved _ r => [r]
  | _ => []

/-- The results that something that happened has used up. -/
def Act.used : Act → List PassResult
  | .applied _ r _ => [r]
  | _ => []

/-- One step. Identifiers of editors are given out once, and only then can they be named. A pass can
be resolved any number of times, with any answers; a result is used once. -/
inductive Step : Workflow → Act → Workflow → Prop where
  | opened {s : Workflow} {editor : EditorId} (d : Document) (fresh : editor ∉ s.known) :
      Step s (.opened editor d)
        { s with
          annotator := { s.annotator with workbench := s.annotator.workbench.openDocument editor d }
          known := editor :: s.known }
  | closed {s : Workflow} {editor : EditorId} {w : Workbench}
      (ok : s.annotator.workbench.close editor = .ok w) :
      Step s (.closed editor) { s with annotator := { s.annotator with workbench := w } }
  | edited {s : Workflow} {id : DocumentId} {range : Span} {text : List Char} {w : Workbench}
      (ok : s.annotator.workbench.edit id range text = .ok w) :
      Step s (.edited id range text) { s with annotator := { s.annotator with workbench := w } }
  | connected {s : Workflow} (c : Connection) :
      Step s (.connected c)
        { s with annotator := { s.annotator with pool := s.annotator.pool.register c } }
  | disconnected {s : Workflow} (id : ConnectionId) :
      Step s (.disconnected id)
        { s with annotator := { s.annotator with pool := s.annotator.pool.unregister id } }
  | published {s : Workflow} (server : String) (params : PublishParams) (runtime : Bool) :
      Step s (.published server params runtime (s.annotator.publish server params).1)
        { s with
          annotator := (s.annotator.publish server params).2
          due := s.due ++ (s.annotator.publish server params).2.passesDue runtime
            (s.annotator.publish server params).1 }
  | remarked {s : Workflow} (c : MarkerChange) :
      Step s (.remarked c)
        { s with annotator := { s.annotator with
          markers := s.annotator.markers.change s.annotator.locate c } }
  | collected {s : Workflow} {editor : EditorId} {p : Pass}
      (made : (s.annotator.collect editor).1 = some p) :
      Step s (.collected p)
        { s with annotator := (s.annotator.collect editor).2, passes := s.passes ++ [p] }
  | begun {s : Workflow} {editor : EditorId} {due : List EditorId} {p : Pass}
      (owed : s.due.Perm (editor :: due)) (made : (s.annotator.collect editor).1 = some p) :
      Step s (.collected p)
        { s with
          annotator := (s.annotator.collect editor).2, due := due, passes := s.passes ++ [p] }
  | skipped {s : Workflow} {editor : EditorId} {due : List EditorId}
      (owed : s.due.Perm (editor :: due)) (noPass : (s.annotator.collect editor).1 = none) :
      Step s (.skipped editor)
        { s with annotator := (s.annotator.collect editor).2, due := due }
  | resolved {s : Workflow} {p : Pass} (made : p ∈ s.passes) (answers : Answers) :
      Step s (.resolved p (p.resolved answers))
        { s with results := s.results ++ [p.resolved answers] }
  | applied {s : Workflow} {r : PassResult} {results : List PassResult} (onUi : Bool)
      (atHand : s.results.Perm (r :: results)) :
      Step s (.applied onUi r (s.annotator.accepts onUi r))
        { s with annotator := (s.annotator.apply onUi r).2, results := results }
  | scheduled {s : Workflow} {r : PassResult} {results : List PassResult}
      (atHand : s.results.Perm (r :: results)) :
      Step s (.scheduled r) { s with annotator := s.annotator.schedule r, results := results }
  | performed {s : Workflow} {r : PassResult} {tasks : List (UiTask UiAction)}
      (next : s.annotator.ui.pending = .perform (.apply r) [] :: tasks) :
      Step s (.applied true r (s.annotator.accepts true r))
        { s with annotator := (s.annotator.withPending tasks).perform (.apply r) true }
  | cleared {s : Workflow} {editor : EditorId} {tasks : List (UiTask UiAction)}
      (next : s.annotator.ui.pending = .perform (.clear editor) [] :: tasks) :
      Step s (.cleared editor)
        { s with annotator := (s.annotator.withPending tasks).perform (.clear editor) true }
  | released {s : Workflow} {editor : EditorId} (known : editor ∈ s.known) :
      Step s (.released editor (s.isOpen editor))
        { s with annotator := s.annotator.editorClosed editor }

/-- Any number of steps, with all that happened in them. -/
inductive Run (s : Workflow) : List Act → Workflow → Prop where
  | nil : Run s [] s
  | snoc {acts : List Act} {t u : Workflow} {act : Act} (run : Run s acts t) (step : Step t act u) :
      Run s (acts ++ [act]) u

variable {s t u : Workflow} {act : Act} {acts : List Act} {e : EditorId} {v : String}

/-- A run goes on with another one. -/
theorem Run.append {later : List Act} (h : Run s acts t) (h' : Run t later u) :
    Run s (acts ++ later) u := by
  induction h' with
  | nil => rwa [List.append_nil]
  | snoc _ step ih =>
    rw [← List.append_assoc]
    exact ih.snoc step

/-! ### What a step leaves alone -/

/-- No step changes the locator or the settings, or takes the UI thread away. -/
theorem Step.static (h : Step s act t) :
    t.annotator.locate = s.annotator.locate ∧ t.annotator.config = s.annotator.config ∧
      t.annotator.ui.attached = s.annotator.ui.attached := by
  cases h with
  | published | collected | begun | skipped | applied | performed =>
    simp only [Annotator.perform, Annotator.withPending, Annotator.snd_publish,
      Annotator.snd_collect, Annotator.snd_apply, and_self]
  | scheduled | released => exact ⟨rfl, rfl, Annotator.attached_queue _ _⟩
  | _ => exact ⟨rfl, rfl, rfl⟩

/-- No run does. -/
theorem Run.static (h : Run s acts t) :
    t.annotator.locate = s.annotator.locate ∧ t.annotator.config = s.annotator.config ∧
      t.annotator.ui.attached = s.annotator.ui.attached := by
  induction h with
  | nil => exact ⟨rfl, rfl, rfl⟩
  | snoc _ step ih =>
    obtain ⟨hlocate, hconfig, hattached⟩ := step.static
    exact ⟨hlocate.trans ih.1, hconfig.trans ih.2.1, hattached.trans ih.2.2⟩

/-- An identifier that was given out stays known. -/
theorem Step.known_subset (h : Step s act t) : s.known ⊆ t.known := by
  cases h with
  | opened d fresh => exact List.subset_cons_self _ _
  | _ => exact List.Subset.refl _

/-- A pass that was made stays. -/
theorem Step.passes_subset (h : Step s act t) : s.passes ⊆ t.passes := by
  cases h with
  | collected | begun => exact List.subset_append_left _ _
  | _ => exact List.Subset.refl _

/-- **What a step does to the workbench**: a new editor is opened, an editor is closed, a document
is edited, or nothing is done but that something may be announced. -/
theorem Step.workbench_cases (h : Step s act t) :
    (∃ editor d, act = .opened editor d ∧ editor ∉ s.known ∧
        t.annotator.workbench = s.annotator.workbench.openDocument editor d) ∨
      (∃ editor, act = .closed editor ∧
        s.annotator.workbench.close editor = .ok t.annotator.workbench) ∨
      (∃ id range text, act = .edited id range text ∧
        s.annotator.workbench.edit id range text = .ok t.annotator.workbench) ∨
      t.annotator.workbench = s.annotator.workbench ∨
      ∃ event, t.annotator.workbench = s.annotator.workbench.emit event := by
  cases h with
  | opened d fresh => exact .inl ⟨_, d, rfl, fresh, rfl⟩
  | closed ok => exact .inr (.inl ⟨_, rfl, ok⟩)
  | edited ok => exact .inr (.inr (.inl ⟨_, _, _, rfl, ok⟩))
  | published server params =>
    refine .inr (.inr (.inr (.inr ⟨.published params.uri.text server, ?_⟩)))
    rw [Annotator.snd_publish]
  | collected | begun | skipped =>
    refine .inr (.inr (.inr (.inl ?_)))
    rw [Annotator.snd_collect]
  | applied | performed =>
    simp only [Annotator.perform, Annotator.snd_apply]
    split
    · exact .inr (.inr (.inr (.inr ⟨_, rfl⟩)))
    · exact .inr (.inr (.inr (.inl rfl)))
  | _ => exact .inr (.inr (.inr (.inl rfl)))

/-- A step keeps the documents of the open editors stored. -/
theorem Step.stored (h : Step s act t) (hs : s.annotator.workbench.Stored) :
    t.annotator.workbench.Stored := by
  rcases h.workbench_cases with
    ⟨editor, d, -, -, hw⟩ | ⟨editor, -, ok⟩ | ⟨id, range, text, -, ok⟩ | hw | ⟨event, hw⟩
  · rw [hw]
    exact hs.openDocument editor d
  · exact hs.close ok
  · exact hs.edit ok
  · rwa [hw]
  · rw [hw]
    exact hs.emit event

/-! ### Open editors -/

/-- Which editors are open after a step. -/
theorem Step.isOpen_eq (h : Step s act t) (e : EditorId) :
    t.isOpen e = match act with
      | .opened editor _ => decide (e = editor) || s.isOpen e
      | .closed editor => decide (e ≠ editor) && s.isOpen e
      | _ => s.isOpen e := by
  unfold isOpen
  cases h with
  | opened d fresh => exact Workbench.isOpen_openDocument _ _ _ _
  | closed ok => exact Workbench.isOpen_close ok e
  | edited ok => exact Workbench.isOpen_edit ok e
  | published | collected | begun | skipped =>
    simp only [Annotator.snd_publish, Annotator.snd_collect, Workbench.isOpen_emit]
  | applied | performed =>
    simp only [Annotator.perform, Annotator.snd_apply]
    split <;> rfl
  | _ => rfl

/-- An editor that is open after a step was open before, or is one that was not known. -/
theorem Step.isOpen_of_isOpen (h : Step s act t) (ho : t.isOpen e = true) :
    s.isOpen e = true ∨ e ∉ s.known ∧ ∃ d, act = .opened e d := by
  rw [h.isOpen_eq] at ho
  cases h with
  | @opened editor d fresh =>
    rcases Bool.or_eq_true_iff.1 ho with he | ho
    · obtain rfl := of_decide_eq_true he
      exact .inr ⟨fresh, d, rfl⟩
    · exact .inl ho
  | closed ok => exact .inl (Bool.and_eq_true_iff.1 ho).2
  | _ => exact .inl ho

/-! ### Passes -/

/-- A step that makes a pass gives it the next number and the markers that the store holds for its
editor, and leaves the markers as they are. -/
theorem Step.collected_spec {p : Pass} (h : Step s (.collected p) t) :
    s.isOpen p.editor = true ∧ p.number = s.annotator.nextPass ∧ t.passes = s.passes ++ [p] ∧
      t.annotator.nextPass = s.annotator.nextPass + 1 ∧
      t.annotator.markers = s.annotator.markers ∧
      (s.annotator.markers.WellFormed → ∀ q ∈ p.requests, q.marker.editor = p.editor ∧
        q.marker ∈ s.annotator.markers.collect q.marker.editor q.marker.server) := by
  cases h with
  | collected made | begun owed made =>
    obtain ⟨hnum, rfl, hopen⟩ := Annotator.collect_eq_some made
    refine ⟨hopen, hnum, rfl, ?_, ?_, fun hs q hq => Annotator.mem_collect_of_collected hs made hq⟩
    · simp only [Annotator.snd_collect, made, Option.isSome_some, if_true]
    · simp only [Annotator.snd_collect]

/-- Any other step makes no pass. -/
theorem Step.passes_eq (h : Step s act t) (hact : ∀ p, act ≠ .collected p) :
    t.passes = s.passes ∧ t.annotator.nextPass = s.annotator.nextPass := by
  cases h with
  | published | applied | performed =>
    simp only [Annotator.perform, Annotator.withPending, Annotator.snd_publish,
      Annotator.snd_apply, and_self]
  | collected | begun => exact absurd rfl (hact _)
  | skipped owed noPass =>
    refine ⟨rfl, ?_⟩
    simp only [Annotator.snd_collect, noPass]
    rfl
  | _ => exact ⟨rfl, rfl⟩

/-! ### Markers -/

/-- Whether something that happened is about the markers of an editor and a server. -/
def Act.Touches (e : EditorId) (v : String) : Act → Prop
  | .published server _ _ editors => e ∈ editors ∧ v = server
  | .remarked c => c.Touches e v
  | .released editor _ => editor = e
  | _ => False

/-- A step changes the markers of the keys that it is about, and no others. -/
theorem Step.markers (h : Step s act t) :
    ∃ history, t.annotator.markers = s.annotator.markers.changes s.annotator.locate history ∧
      ∀ e v, (∃ c ∈ history, c.Touches e v) ↔ act.Touches e v := by
  have quiet : ∀ {act : Act}, (∀ e v, ¬ act.Touches e v) → ∃ history,
      s.annotator.markers = s.annotator.markers.changes s.annotator.locate history ∧
        ∀ e v, (∃ c ∈ history, c.Touches e v) ↔ act.Touches e v := fun hact =>
    ⟨[], rfl, fun e v => iff_of_false (fun ⟨_, hc, _⟩ => List.not_mem_nil hc) (hact e v)⟩
  cases h with
  | published server params runtime =>
    simp only [Annotator.snd_publish]
    exact ⟨_, rfl, fun e v => s.annotator.touches_replacements_iff server params⟩
  | remarked c => exact ⟨[c], rfl, fun e v => by simp [Act.Touches]⟩
  | @released editor known =>
    exact ⟨[.clearEditor editor], rfl, fun e v => by simp [Act.Touches, MarkerChange.Touches]⟩
  | collected | begun | skipped | applied | performed =>
    simp only [Annotator.perform, Annotator.snd_collect, Annotator.snd_apply]
    exact quiet fun _ _ => id
  | _ => exact quiet fun _ _ => id

/-- A run changes the markers of the keys that something in it is about, and no others. -/
theorem Run.markers (h : Run s acts t) :
    ∃ history, t.annotator.markers = s.annotator.markers.changes s.annotator.locate history ∧
      ∀ e v, (∃ c ∈ history, c.Touches e v) ↔ ∃ act ∈ acts, act.Touches e v := by
  induction h with
  | nil => exact ⟨[], rfl, fun e v => by simp⟩
  | snoc run step ih =>
    obtain ⟨earlier, hearlier, htouch⟩ := ih
    obtain ⟨later, hlater, htouch'⟩ := step.markers
    refine ⟨earlier ++ later, ?_, fun e v => ?_⟩
    · rw [hlater, hearlier, run.static.1, MarkerStore.changes_append]
    · simp only [List.mem_append, List.mem_singleton, or_and_right, exists_or, exists_eq_left,
        htouch, htouch']

/-- A step keeps the markers of a key that it is not about. -/
theorem Step.batch?_eq (h : Step s act t) (ht : ¬ act.Touches e v) :
    t.annotator.markers.batch? e v = s.annotator.markers.batch? e v := by
  obtain ⟨history, hm, htouch⟩ := h.markers
  rw [hm]
  rcases MarkerStore.batch?_changes s.annotator.locate s.annotator.markers history with
    ⟨-, hsame⟩ | ⟨htouched, -⟩
  · exact hsame
  · exact absurd ((htouch e v).1 htouched) ht

/-- A step keeps the markers well-formed. -/
theorem Step.markers_wellFormed (h : Step s act t) (hs : s.annotator.markers.WellFormed) :
    t.annotator.markers.WellFormed := by
  obtain ⟨history, hm, -⟩ := h.markers
  rw [hm]
  exact hs.changes history

/-! ### What editors show -/

/-- The number of the last pass that was applied to an editor. -/
def recorded (s : Workflow) (e : EditorId) : Option Nat :=
  s.annotator.appliedPass? e

/-- What an editor shows, unless it was cleared or nothing was shown yet. -/
def shown (s : Workflow) (e : EditorId) : Option (List Annotation) :=
  s.annotator.sink.shown.get? e

/-- What handing over a result does to what an editor shows and to the record of it. -/
theorem shown_apply_cases (a : Annotator) (onUi : Bool) (r : PassResult) (e : EditorId) :
    (r.editor = e ∧ a.accepts onUi r = true ∧ (a.apply onUi r).2.appliedPass? e = some r.pass ∧
        (a.apply onUi r).2.sink.shown.get? e = some (r.render a.markers)) ∨
      ((a.accepts onUi r = true → r.editor ≠ e) ∧
        (a.apply onUi r).2.appliedPass? e = a.appliedPass? e ∧
        (a.apply onUi r).2.sink.shown.get? e = a.sink.shown.get? e) := by
  cases hacc : a.accepts onUi r with
  | false =>
    rw [Annotator.apply_of_not_accepts hacc]
    exact .inr ⟨fun h => absurd h Bool.false_ne_true, rfl, rfl⟩
  | true =>
    rw [Annotator.apply_of_accepts hacc]
    by_cases he : r.editor = e
    · obtain rfl := he
      exact .inl ⟨rfl, rfl, FiniteMap.get?_insert_self _ _ _, FiniteMap.get?_insert_self _ _ _⟩
    · refine .inr ⟨fun _ => he, ?_, ?_⟩
      · exact (FiniteMap.get?_insert _ _ _ _).trans (if_neg fun h => he h.symm)
      · exact (FiniteMap.get?_insert _ _ _ _).trans (if_neg fun h => he h.symm)

/-- **What a step does to an editor**: it shows a result that is accepted; it drops the record when
the editor is released; it clears the editor when the UI thread comes to that; or it does
nothing. -/
theorem Step.shown_cases (h : Step s act t) (e : EditorId) :
    (∃ onUi r, act = .applied onUi r true ∧ r.editor = e ∧ s.annotator.accepts onUi r = true ∧
        t.recorded e = some r.pass ∧ t.shown e = some (r.render s.annotator.markers)) ∨
      (act = .released e (s.isOpen e) ∧ t.recorded e = none ∧ t.shown e = s.shown e) ∨
      (act = .cleared e ∧ .perform (.clear e) [] ∈ s.annotator.ui.pending ∧
        t.recorded e = s.recorded e ∧ t.shown e = none) ∨
      ((∀ onUi r, act = .applied onUi r true → r.editor ≠ e) ∧ t.recorded e = s.recorded e ∧
        t.shown e = s.shown e) := by
  have quiet : ∀ {act : Act}, act.used = [] →
      ∀ onUi r, act = .applied onUi r true → r.editor ≠ e := by
    rintro act hused onUi r rfl
    cases hused
  unfold recorded shown
  cases h with
  | published | collected | begun | skipped =>
    refine .inr (.inr (.inr ⟨quiet rfl, ?_⟩))
    simp only [Annotator.appliedPass?, Annotator.snd_publish, Annotator.snd_collect, and_self]
  | @applied r results onUi atHand =>
    rcases shown_apply_cases s.annotator onUi r e with ⟨he, hacc, hrec, hshown⟩ | ⟨hne, hrec, hshown⟩
    · exact .inl ⟨onUi, r, by rw [hacc], he, hacc, hrec, hshown⟩
    · refine .inr (.inr (.inr ⟨fun onUi' r' heq => ?_, hrec, hshown⟩))
      obtain ⟨-, rfl, hacc⟩ := Act.applied.inj heq
      exact hne hacc
  | @performed r tasks next =>
    rcases shown_apply_cases (s.annotator.withPending tasks) true r e with
      ⟨he, hacc, hrec, hshown⟩ | ⟨hne, hrec, hshown⟩
    · exact .inl ⟨true, r, congrArg _ hacc, he, hacc, hrec, hshown⟩
    · refine .inr (.inr (.inr ⟨fun onUi' r' heq => ?_, hrec, hshown⟩))
      obtain ⟨-, rfl, hacc⟩ := Act.applied.inj heq
      exact hne hacc
  | @cleared editor tasks next =>
    by_cases he : editor = e
    · obtain rfl := he
      refine .inr (.inr (.inl ⟨rfl, ?_, rfl, FiniteMap.get?_erase_self _ _⟩))
      rw [next]
      exact List.mem_cons_self
    · refine .inr (.inr (.inr ⟨quiet rfl, rfl, ?_⟩))
      exact (FiniteMap.get?_erase _ _ _).trans (if_neg fun h => he h.symm)
  | @released editor known =>
    by_cases he : editor = e
    · obtain rfl := he
      exact .inr (.inl ⟨rfl, FiniteMap.get?_erase_self _ _, rfl⟩)
    · refine .inr (.inr (.inr ⟨quiet rfl, ?_, rfl⟩))
      exact (FiniteMap.get?_erase _ _ _).trans (if_neg fun h => he h.symm)
  | _ => exact .inr (.inr (.inr ⟨quiet rfl, rfl, rfl⟩))

/-- Whether a result was shown is decided by the annotator. -/
theorem Step.shown_eq_accepts {onUi hasShown : Bool} {r : PassResult}
    (h : Step s (.applied onUi r hasShown) t) : hasShown = s.annotator.accepts onUi r := by
  cases h with
  | applied | performed => rfl

/-- A result that is shown is rendered with the markers that there are then. -/
theorem Step.shown_of_applied {onUi : Bool} {r : PassResult} (h : Step s (.applied onUi r true) t) :
    t.shown r.editor = some (r.render s.annotator.markers) := by
  rcases h.shown_cases r.editor with
    ⟨onUi', r', hact, -, -, -, hshown⟩ | ⟨hact, -⟩ | ⟨hact, -⟩ | ⟨hother, -⟩
  · obtain ⟨-, rfl, -⟩ := Act.applied.inj hact
    exact hshown
  · cases hact
  · cases hact
  · exact absurd rfl (hother onUi r rfl)

/-! ### Results under way -/

/-- **A result that was there or is made is used or still there.** -/
theorem Step.inFlight_perm (h : Step s act t) (ha : s.annotator.ui.attached = true) :
    (act.used ++ t.inFlight).Perm (act.made ++ s.inFlight) := by
  unfold inFlight
  cases h with
  | published | collected | begun | skipped =>
    simp only [Annotator.snd_publish, Annotator.snd_collect]
    exact .refl _
  | resolved made answers =>
    simp only [List.append_assoc, List.singleton_append]
    exact List.perm_middle
  | @applied r results onUi atHand =>
    simp only [Annotator.snd_apply]
    exact (atHand.append_right s.annotator.queuedResults).symm
  | @scheduled r results atHand =>
    simp only [Annotator.queuedResults_schedule ha]
    have hback : (results ++ (s.annotator.queuedResults ++ [r])).Perm
        (r :: results ++ s.annotator.queuedResults) := by
      rw [← List.append_assoc]
      exact List.perm_append_singleton _ _
    exact hback.trans (atHand.append_right _).symm
  | @performed r tasks next =>
    have hqueued : s.annotator.queuedResults =
        r :: (s.annotator.withPending tasks).queuedResults := by
      rw [Annotator.queuedResults, next]
      rfl
    simp only [Annotator.perform, Annotator.snd_apply, hqueued]
    show (r :: (s.results ++ (s.annotator.withPending tasks).queuedResults)).Perm
      (s.results ++ r :: (s.annotator.withPending tasks).queuedResults)
    exact List.perm_middle.symm
  | @cleared editor tasks next =>
    have hqueued : s.annotator.queuedResults = (s.annotator.withPending tasks).queuedResults := by
      rw [Annotator.queuedResults, next]
      rfl
    simp only [hqueued]
    exact .refl _
  | released known =>
    simp only [Annotator.queuedResults_editorClosed ha]
    exact .refl _
  | _ => exact .refl _

/-- **Each result that is made is used once or still there.** -/
theorem Run.inFlight_perm {workspace : Workspace} {pool : ConnectionPool} {locate : Locator}
    {config : AnnotatorConfig} (h : Run (start workspace pool locate config) acts t) :
    (acts.flatMap Act.used ++ t.inFlight).Perm (acts.flatMap Act.made) := by
  induction h with
  | nil => exact .refl _
  | @snoc acts t u act run step ih =>
    rw [List.flatMap_append, List.flatMap_append, List.flatMap_singleton, List.flatMap_singleton,
      List.append_assoc]
    have hstep := (step.inFlight_perm run.static.2.2).append_left (acts.flatMap Act.used)
    have hswap : (acts.flatMap Act.used ++ (act.made ++ t.inFlight)).Perm
        (acts.flatMap Act.used ++ t.inFlight ++ act.made) := by
      rw [List.append_assoc]
      exact List.perm_append_comm.append_left _
    exact (hstep.trans hswap).trans (ih.append_right _)

end Workflow

end AnnotationBridge
