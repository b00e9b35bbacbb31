import AnnotationBridge.Proofs.Freshness
import AnnotationBridge.Proofs.OpenDocuments

/-!
# Releasing an editor

When an editor is closed, the annotator is told to release it: it drops the markers and the record
of the editor at once, and has the UI thread clear what the editor shows. Meanwhile and afterwards
there may be passes about the editor under way, results that wait for the UI thread, and publishes
about the document that it showed.

* `Workflow.Run.isOpen_of_closed`: an editor that was closed is known and not open.
* `Workflow.Step.batch?_eq_none`: a key of a closed editor gets a batch from the host's own changes
  only.
* `Workflow.Gone`: a closed editor without a record. `Workflow.Gone.step`, `Workflow.Gone.run`.
* `Workflow.Gone.shown_step`: what it shows can only go away. `Workflow.Gone.cleared_run`: it waits
  to be cleared until it is.
* `Workflow.Act.ClosesDown`, `Workflow.Step.others_kept`: what the closing of an editor leaves
  alone.
* `Workflow.Run.released_for_good`: nothing is left of an editor that was closed and released,
  whatever happens afterwards.
-/

namespace AnnotationBridge

open Lsp

/-- An open editor can be closed. -/
theorem Workbench.close_of_isOpen {w : Workbench} {editor : EditorId}
    (h : w.isOpen editor = true) : w.close editor = .ok (w.call (.close editor)) := by
  obtain ⟨id, hid⟩ := Option.isSome_iff_exists.1 h
  rw [call, close, hid]
  rfl

namespace Workflow

variable {s t u w : Workflow} {act : Act} {acts before mid after : List Act} {e : EditorId}
  {v : String} {workspace : Workspace} {pool : ConnectionPool} {locate : Locator}
  {config : AnnotatorConfig}

/-! ### Closed editors -/

/-- An editor that was closed is known and not open. -/
theorem Run.isOpen_of_closed (h : Run (start workspace pool locate config) acts s)
    (closed : .closed e ∈ acts) : e ∈ s.known ∧ s.isOpen e = false := by
  obtain ⟨earlier, later, m, m', -, toM, step, fromM⟩ := h.exists_step closed
  have hopen : m.isOpen e = true := by
    cases step with
    | closed ok => exact (Workbench.emitted_close ok).2
  refine fromM.isOpen_eq_false (step.known_subset ((toM.sound .start).open_known e hopen)) ?_
  rw [step.isOpen_eq]
  simp

/-! ### Markers of a closed editor -/

/-- A publish reaches open editors. -/
theorem Step.isOpen_of_published {server : String} {params : PublishParams} {runtime : Bool}
    {editors : List EditorId} (h : Step s (.published server params runtime editors) t)
    (he : e ∈ editors) : s.isOpen e = true := by
  cases h with
  | published =>
    obtain ⟨d, hd⟩ := Workbench.documentFor_of_mem_editorsFor he
    exact Workbench.isOpen_of_documentFor hd

/-- A key of a closed editor that holds no batch gets none, unless the host puts one there
itself. -/
theorem Step.batch?_eq_none (h : Step s act t) (closed : s.isOpen e = false)
    (direct : ∀ d diagnostics, act ≠ .remarked (.replace e v d diagnostics))
    (hb : s.annotator.markers.batch? e v = none) : t.annotator.markers.batch? e v = none := by
  by_cases ht : act.Touches e v
  · cases act with
    | published server params runtime editors =>
      cases (h.isOpen_of_published ht.1).symm.trans closed
    | remarked c =>
      cases h with
      | remarked =>
        rcases MarkerStore.batch?_change_of_touches s.annotator.locate s.annotator.markers ht with
          hnone | ⟨d, diagnostics, rfl, -⟩
        · exact hnone
        · exact absurd rfl (direct d diagnostics)
    | released editor stillOpen =>
      obtain rfl : editor = e := ht
      cases h with
      | released =>
        exact (MarkerStore.batch?_clearEditor _ _ _ _).trans (if_pos rfl)
    | _ => exact ht.elim
  · rw [h.batch?_eq ht, hb]

/-- A key of a closed editor that holds no batch never gets one, unless the host puts one there
itself. -/
theorem Run.batch?_eq_none (h : Run s acts t) (known : e ∈ s.known) (closed : s.isOpen e = false)
    (direct : ∀ d diagnostics, .remarked (.replace e v d diagnostics) ∉ acts)
    (hb : s.annotator.markers.batch? e v = none) : t.annotator.markers.batch? e v = none := by
  induction h with
  | nil => exact hb
  | @snoc acts t u act run step ih =>
    refine step.batch?_eq_none (run.isOpen_eq_false known closed).2 (fun d diagnostics heq => ?_)
      (ih fun d diagnostics hmem => direct d diagnostics (List.mem_append_left _ hmem))
    exact direct d diagnostics (List.mem_append_right _ (List.mem_singleton.2 heq.symm))

/-! ### What a closed editor shows -/

/-- A closed editor without a record of what was applied to it. -/
structure Gone (s : Workflow) (e : EditorId) : Prop where
  known : e ∈ s.known
  closed : s.isOpen e = false
  unrecorded : s.recorded e = none

/-- A result about a closed editor is not shown. -/
theorem Gone.not_accepts (hg : Gone s e) {onUi : Bool} {r : PassResult} (he : r.editor = e) :
    s.annotator.accepts onUi r ≠ true := by
  intro hacc
  have hopen := (Annotator.accepts_eq_true_iff.1 hacc).2.1
  rw [he] at hopen
  cases hopen.symm.trans hg.closed

/-- What such an editor shows can only go away, and no record of it comes back. -/
theorem Gone.shown_step (hg : Gone s e) (h : Step s act t) :
    t.recorded e = none ∧ (t.shown e = s.shown e ∨ t.shown e = none) := by
  rcases h.shown_cases e with
    ⟨onUi, r, -, hed, hacc, -⟩ | ⟨-, hrec, hshown⟩ | ⟨-, -, hrec, hshown⟩ | ⟨-, hrec, hshown⟩
  · exact absurd hacc (hg.not_accepts hed)
  · exact ⟨hrec, .inl hshown⟩
  · exact ⟨hrec.trans hg.unrecorded, .inr hshown⟩
  · exact ⟨hrec.trans hg.unrecorded, .inl hshown⟩

/-- No step brings such an editor back. -/
theorem Gone.step (hg : Gone s e) (h : Step s act t) : Gone t e where
  known := h.known_subset hg.known
  closed := h.isOpen_eq_false hg.known hg.closed
  unrecorded := (hg.shown_step h).1

/-- No run brings such an editor back, and if it shows nothing that stays so. -/
theorem Gone.run (hg : Gone s e) (h : Run s acts t) :
    Gone t e ∧ (s.shown e = none → t.shown e = none) := by
  induction h with
  | nil => exact ⟨hg, id⟩
  | snoc _ step ih =>
    refine ⟨ih.1.step step, fun hnone => ?_⟩
    rcases (ih.1.shown_step step).2 with hsame | hgone
    · rw [hsame, ih.2 hnone]
    · exact hgone

/-- A pass about such an editor is not made. -/
theorem Gone.collect_eq_none (hg : Gone s e) : (s.annotator.collect e).1 = none := by
  cases hp : (s.annotator.collect e).1 with
  | none => rfl
  | some p => cases (Annotator.collect_eq_some hp).2.2.symm.trans hg.closed

/-! ### Clearing -/

/-- A task that clears an editor waits until the editor is cleared. -/
theorem Step.clear_stays (h : Step s act t) (ha : s.annotator.ui.attached = true)
    (hc : .perform (.clear e) [] ∈ s.annotator.ui.pending) :
    .perform (.clear e) [] ∈ t.annotator.ui.pending ∨ t.shown e = none := by
  cases h with
  | published | collected | begun | skipped | applied =>
    simp only [Annotator.snd_publish, Annotator.snd_collect, Annotator.snd_apply]
    exact .inl hc
  | scheduled =>
    refine .inl ?_
    rw [Annotator.schedule, Annotator.pending_queue ha]
    exact List.mem_append_left _ hc
  | performed next =>
    simp only [Annotator.perform, Annotator.withPending, Annotator.snd_apply]
    rw [next] at hc
    rcases List.mem_cons.1 hc with heq | hc
    · cases heq
    · exact .inl hc
  | @cleared editor tasks next =>
    rw [next] at hc
    rcases List.mem_cons.1 hc with heq | hc
    · cases heq
      exact .inr (FiniteMap.get?_erase_self _ _)
    · exact .inl hc
  | @released editor known =>
    refine .inl ?_
    rw [Annotator.pending_editorClosed ha]
    exact List.mem_append_left _ hc
  | _ => exact .inl hc

/-- What an editor without a record shows waits to be cleared until it is. -/
theorem Gone.cleared_run (hg : Gone s e) (ha : s.annotator.ui.attached = true) (h : Run s acts t)
    (hc : .perform (.clear e) [] ∈ s.annotator.ui.pending) :
    .perform (.clear e) [] ∈ t.annotator.ui.pending ∨ t.shown e = none := by
  induction h with
  | nil => exact .inl hc
  | snoc run step ih =>
    rcases ih with hwaits | hnone
    · exact step.clear_stays (run.static.2.2.trans ha) hwaits
    · exact .inr (((hg.run run).1.run (Run.nil.snoc step)).2 hnone)

/-- What a release leaves of a closed editor: no batch, no record, and what it shows waits to be
cleared. -/
theorem Step.gone_of_released {stillOpen : Bool} (h : Step s (.released e stillOpen) t)
    (ha : s.annotator.ui.attached = true) (closed : s.isOpen e = false) :
    Gone t e ∧ (∀ v, t.annotator.markers.batch? e v = none) ∧
      .perform (.clear e) [] ∈ t.annotator.ui.pending := by
  have hclosed := h.isOpen_eq e
  cases h with
  | released known =>
    refine ⟨⟨known, hclosed.trans closed, FiniteMap.get?_erase_self _ _⟩, fun v => ?_, ?_⟩
    · exact (MarkerStore.batch?_clearEditor _ _ _ _).trans (if_pos rfl)
    · rw [Annotator.pending_editorClosed ha]
      exact List.mem_append_right _ List.mem_cons_self

/-! ### Other editors -/

/-- Whether something that happened is part of the closing of an editor: the editor is closed, the
annotator is told so, or what the editor shows is cleared. -/
def Act.ClosesDown (e : EditorId) : Act → Prop
  | .closed editor | .released editor _ | .cleared editor => editor = e
  | _ => False

/-- **The closing of an editor leaves the markers, the annotations and the records of all other
editors as they are.** -/
theorem Step.others_kept (h : Step s act t) (closes : act.ClosesDown e) {other : EditorId}
    (hne : other ≠ e) :
    (∀ v, t.annotator.markers.batch? other v = s.annotator.markers.batch? other v) ∧
      t.shown other = s.shown other ∧ t.recorded other = s.recorded other := by
  refine ⟨fun v => h.batch?_eq ?_, ?_⟩
  · cases act with
    | released editor stillOpen =>
      obtain rfl : editor = e := closes
      exact fun ht => hne ht.symm
    | closed | cleared => exact id
    | _ => exact closes.elim
  · rcases h.shown_cases other with
      ⟨_, _, rfl, -⟩ | ⟨rfl, -, -⟩ | ⟨rfl, -, -, -⟩ | ⟨-, hrec, hshown⟩
    · exact closes.elim
    · exact absurd closes hne
    · exact absurd closes hne
    · exact ⟨hshown, hrec⟩

/-! ### For good -/

/-- **An editor that was closed and released leaves nothing behind, for good.** Once the queue of
the UI thread was empty after the release, the editor has no markers, shows nothing, has no record
and no pass, and so it stays, whatever happens: passes that were under way are resolved and their
results queued or handed over, servers publish about the document, and the document is edited or
opened in a new editor. A key gets markers again only if the host puts them there itself. No step
that is part of the closing reaches the markers, the annotations or the record of another editor. -/
theorem Run.released_for_good (h : Run (start workspace pool locate config) before s)
    (closed : .closed e ∈ before) {stillOpen : Bool} (release : Step s (.released e stillOpen) t)
    (between : Run t mid u) (drained : u.annotator.ui.pending = []) (later : Run u after w) :
    w.isOpen e = false ∧
      (∀ v, (∀ d diagnostics, .remarked (.replace e v d diagnostics) ∉ mid ++ after) →
        w.annotator.markers.batch? e v = none) ∧
      w.annotator.sink.contains e = false ∧
      w.annotator.applied.contains e = false ∧
      (w.annotator.collect e).1 = none ∧
      ∀ m m' act, Step m act m' → act.ClosesDown e → ∀ other, other ≠ e →
        (∀ v, m'.annotator.markers.batch? other v = m.annotator.markers.batch? other v) ∧
          m'.shown other = m.shown other ∧ m'.recorded other = m.recorded other := by
  have hattached := (h.sound .start).attached
  obtain ⟨hgone, hbatches, hwaits⟩ :=
    release.gone_of_released hattached (h.isOpen_of_closed closed).2
  -- The queue was empty, so the editor has been cleared.
  have hcleared : u.shown e = none := by
    rcases hgone.cleared_run (release.static.2.2.trans hattached) between hwaits with hwaits | hnone
    · rw [drained] at hwaits
      cases hwaits
    · exact hnone
  obtain ⟨hgone', hshown⟩ := (hgone.run between).1.run later
  refine ⟨hgone'.closed, fun v direct => ?_, ?_, ?_, hgone'.collect_eq_none,
    fun _ _ _ step closes _ hne => step.others_kept closes hne⟩
  · exact (between.append later).batch?_eq_none hgone.known hgone.closed direct (hbatches v)
  · exact Option.isSome_eq_false_iff.2 (Option.isNone_iff_eq_none.2 (hshown hcleared))
  · exact Option.isSome_eq_false_iff.2 (Option.isNone_iff_eq_none.2 hgone'.unrecorded)

namespace Sample

/-- The editor is closed while one result about it waits for the UI thread and another is at
hand. -/
def closing : List Act :=
  [.opened editor document, .published "x" (params "x") true [editor],
    .published "y" (params "y") true [editor], .collected (pass 1 1),
    .resolved (pass 1 1) (result 1 1), .resolved (pass 1 1) (result 1 1), .scheduled (result 1 1),
    .closed editor]

/-- The queue is run after the release: the result is dropped, and then the editor is cleared. -/
def draining : List Act :=
  [.applied true (result 1 1) false, .cleared editor]

/-- The document is opened again and published about, and what was under way comes to its end. -/
def aftermath : List Act :=
  [.opened ⟨2⟩ document, .published "x" (params "x") true [⟨2⟩], .applied true (result 1 1) false,
    .skipped editor]

/-- The run of a closing, a release and what follows. -/
theorem release_run : ∃ s t u w, Run initial closing s ∧ Step s (.released editor false) t ∧
    Run t draining u ∧ u.annotator.ui.pending = [] ∧ Run u aftermath w ∧
    w.annotator.markers.generation ⟨2⟩ "x" = some 3 := by
  have h₁ := (Run.nil (s := initial)).snoc
    (.opened document (show editor ∉ initial.known by decide))
  have h₂ := h₁.snoc (.published "x" (params "x") true)
  have h₃ := h₂.snoc (.published "y" (params "y") true)
  have h₄ := h₃.snoc (.begun (p := pass 1 1)
    (show List.Perm _ (editor :: [editor]) by cbv; exact .refl _) (by cbv))
  have h₅ := h₄.snoc (.resolved (p := pass 1 1) (by cbv; exact List.mem_cons_self) (answers 1))
  have h₆ := h₅.snoc (.resolved (p := pass 1 1) (by cbv; exact List.mem_cons_self) (answers 1))
  have h₇ := h₆.snoc (.scheduled (r := result 1 1)
    (show List.Perm _ (result 1 1 :: [result 1 1]) by cbv; exact .refl _))
  have h₈ := h₇.snoc (.closed (Workbench.close_of_isOpen
    (show Workbench.isOpen _ editor = true by cbv)))
  have fresh : ∀ {s t : Workflow} {acts : List Act}, Run s acts t → Run t [] t := fun _ => .nil
  have next : ∀ {s t u : Workflow} {acts : List Act} {act : Act},
      Run s acts t → Step t act u → Step t act u := fun _ => id
  have r := next h₈ (.released (show editor ∈ [editor] from List.mem_cons_self))
  have k₁ := (fresh (h₈.snoc r)).snoc (.performed (r := result 1 1)
    (show _ = _ :: [UiTask.perform (UiAction.clear editor) []] by cbv))
  have k₂ := k₁.snoc (.cleared (show _ = UiTask.perform (UiAction.clear editor) [] :: [] by cbv))
  have l₁ := (fresh k₂).snoc (.opened document (show ⟨2⟩ ∉ [editor] by decide))
  have l₂ := l₁.snoc (.published "x" (params "x") true)
  have l₃ := l₂.snoc (.applied true (r := result 1 1)
    (show List.Perm _ (result 1 1 :: []) by cbv; exact .refl _))
  have l₄ := l₃.snoc (.skipped
    (show List.Perm _ (editor :: [⟨2⟩]) by cbv; exact .refl _) (by cbv))
  refine ⟨_, _, _, _, Eq.mp (congrArg (Run initial · _) ?_) h₈,
    Eq.mp (congrArg (Step _ · _) ?_) r, Eq.mp (congrArg (Run _ · _) ?_) k₂, ?_,
    Eq.mp (congrArg (Run _ · _) ?_) l₄, ?_⟩
  all_goals cbv

end Sample

/-- A result that waited for the UI thread when the editor was closed, one that was handed over
later, a pass that was due and a publish about the same document leave nothing for the editor. -/
theorem released_for_good_late_results :
    ∃ t u w, Run t Sample.draining u ∧ Run u Sample.aftermath w ∧
      w.annotator.markers.generation ⟨2⟩ "x" = some 3 ∧
      w.annotator.markers.batch? Sample.editor "x" = none ∧
      w.annotator.sink.contains Sample.editor = false := by
  obtain ⟨s, t, u, w, run, release, between, drained, later, hother⟩ := Sample.release_run
  have closed : .closed Sample.editor ∈ Sample.closing := by simp [Sample.closing]
  obtain ⟨-, markers, sink, -⟩ := run.released_for_good closed release between drained later
  refine ⟨t, u, w, between, later, hother, markers "x" fun d diagnostics => ?_, sink⟩
  simp [Sample.draining, Sample.aftermath]

end Workflow

end AnnotationBridge
