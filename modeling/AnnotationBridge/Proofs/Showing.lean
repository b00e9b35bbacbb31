import AnnotationBridge.Proofs.EventLoop
import AnnotationBridge.Proofs.PassOrder

/-!
# What is shown, on record and announced

When a result is shown, three parts take that down: the sink holds the annotations, the annotator
has the pass on record, and the workbench announces how many annotations there are. When an editor
is released, they forget it at different times: the record at once, the sink when the UI thread
comes to that, and what was announced stays. For an open editor the three still say the same.

* `Workflow.announcedCounts`, `Workflow.Step.announcedCounts_eq`: the counts announced for an editor
  grow with the results that are shown in it.
* `Workflow.Blank`, `Workflow.Reflects`: the three parts know of nothing, or of the same result.
  `Workflow.Blank.step`, `Workflow.Reflects.step`: a step that shows nothing in the editor and does
  not close it down keeps that; `Workflow.Step.reflects` is about one that shows something.
* `Workflow.Run.blank_or_reflects`: one of the two holds of every editor that was not closed.
* `Workflow.Run.shown_recorded_announced`: so the three parts agree about every open editor.
-/

namespace AnnotationBridge

open Lsp

namespace Workflow

variable {s t : Workflow} {act : Act} {acts : List Act} {e : EditorId} {r : PassResult}
  {markers : MarkerStore} {workspace : Workspace} {pool : ConnectionPool} {locate : Locator}
  {config : AnnotatorConfig}

/-! ### The counts that are announced -/

/-- The count that an event tells for an editor. -/
def appliedCount? (e : EditorId) : Event → Option Nat
  | .applied editor n => if editor = e then some n else none
  | _ => none

/-- The counts that were announced for an editor, in order. -/
def announcedCounts (s : Workflow) (e : EditorId) : List Nat :=
  s.announced.filterMap (appliedCount? e)

/-- The counts announced for an editor are those of its events. -/
theorem mem_announcedCounts {n : Nat} : n ∈ s.announcedCounts e ↔ .applied e n ∈ s.announced := by
  unfold announcedCounts
  rw [List.mem_filterMap]
  constructor
  · rintro ⟨event, hmem, hcount⟩
    cases event with
    | applied editor m =>
      obtain ⟨rfl, heq⟩ := Option.ite_none_right_eq_some.1 hcount
      obtain rfl := Option.some.inj heq
      exact hmem
    | _ => cases hcount
  · exact fun hmem => ⟨_, hmem, if_pos rfl⟩

/-- A count is announced for an editor exactly when a result is shown in it. -/
theorem Step.announcedCounts_eq (h : Step s act t) (e : EditorId) :
    t.announcedCounts e = s.announcedCounts e ++ match act with
      | .applied _ r true => if r.editor = e then [(r.render s.annotator.markers).length] else []
      | _ => [] := by
  unfold announcedCounts
  rw [h.announced_eq, List.filterMap_append]
  congr 1
  cases act with
  | applied onUi r hasShown =>
    cases hasShown with
    | false => rfl
    | true =>
      by_cases he : r.editor = e
      · simp [Act.event?, appliedCount?, he]
      · simp [Act.event?, appliedCount?, he]
  | _ => rfl

/-- No count is announced for an editor in which nothing is shown. -/
theorem Step.announcedCounts_of_not_shown (h : Step s act t)
    (hact : ∀ onUi r, act = .applied onUi r true → r.editor ≠ e) :
    t.announcedCounts e = s.announcedCounts e := by
  rw [h.announcedCounts_eq]
  cases act with
  | applied onUi r hasShown =>
    cases hasShown with
    | false => exact List.append_nil _
    | true =>
      simp only [if_neg (hact onUi r rfl)]
      exact List.append_nil _
  | _ => exact List.append_nil _

/-! ### The three parts -/

/-- Nothing is shown, on record or announced for an editor. -/
structure Blank (s : Workflow) (e : EditorId) : Prop where
  shown : s.shown e = none
  recorded : s.recorded e = none
  counts : s.announcedCounts e = []

/-- A result, rendered with the given markers, is what an editor shows, its pass is on record, and
its number of annotations is what was announced last. -/
structure Reflects (s : Workflow) (e : EditorId) (r : PassResult) (markers : MarkerStore) : Prop where
  shown : s.shown e = some (r.render markers)
  recorded : s.recorded e = some r.pass
  count : (s.announcedCounts e).getLast? = some (r.render markers).length

/-- A result that is shown is what the three parts know of its editor then. -/
theorem Step.reflects {onUi : Bool} (h : Step s (.applied onUi r true) t) :
    t.Reflects r.editor r s.annotator.markers := by
  have hcounts := h.announcedCounts_eq r.editor
  simp only [if_true] at hcounts
  refine ⟨h.shown_of_applied, ?_, by rw [hcounts, List.getLast?_concat]⟩
  rcases h.shown_cases r.editor with
    ⟨_, r', hact, -, -, hrec, -⟩ | ⟨hact, -⟩ | ⟨hact, -⟩ | ⟨hother, -⟩
  · obtain ⟨-, rfl, -⟩ := Act.applied.inj hact
    exact hrec
  · cases hact
  · cases hact
  · exact absurd rfl (hother onUi r rfl)

/-- A step that shows nothing in an editor and does not close it down leaves the three parts
alone. -/
theorem Step.parts_eq (h : Step s act t) (hact : act.shownPass? e = none)
    (stays : ¬ act.ClosesDown e) :
    t.shown e = s.shown e ∧ t.recorded e = s.recorded e ∧
      t.announcedCounts e = s.announcedCounts e := by
  have hother : ∀ onUi r, act = .applied onUi r true → r.editor ≠ e := by
    rintro onUi r rfl rfl
    cases (if_pos rfl).symm.trans hact
  rcases h.shown_cases e with
    ⟨onUi, r, rfl, he, -⟩ | ⟨rfl, -⟩ | ⟨rfl, -⟩ | ⟨-, hrec, hshown⟩
  · exact absurd he (hother onUi r rfl)
  · exact absurd rfl stays
  · exact absurd rfl stays
  · exact ⟨hshown, hrec, h.announcedCounts_of_not_shown hother⟩

/-- An editor that shows nothing goes on so until a result is shown. -/
theorem Blank.step (hb : Blank s e) (h : Step s act t) (hact : act.shownPass? e = none)
    (stays : ¬ act.ClosesDown e) : Blank t e := by
  obtain ⟨hshown, hrec, hcounts⟩ := h.parts_eq hact stays
  exact ⟨hshown.trans hb.shown, hrec.trans hb.recorded, hcounts.trans hb.counts⟩

/-- An editor goes on showing a result until another one is shown or it is closed. -/
theorem Reflects.step (hr : Reflects s e r markers) (h : Step s act t)
    (hact : act.shownPass? e = none) (stays : ¬ act.ClosesDown e) : Reflects t e r markers := by
  obtain ⟨hshown, hrec, hcounts⟩ := h.parts_eq hact stays
  exact ⟨hshown.trans hr.shown, hrec.trans hr.recorded, hcounts ▸ hr.count⟩

/-! ### Editors that were not closed -/

/-- An editor that is open or was never opened is not closed down, if the annotator is told of the
closing of closed editors only. -/
theorem Run.not_closesDown (h : Run (start workspace pool locate config) acts s)
    (closing : ∀ e, .released e true ∉ acts ++ [act]) (step : Step s act t)
    (live : t.isOpen e = true ∨ e ∉ t.known) : ¬ act.ClosesDown e := by
  have hearlier : ∀ e, .released e true ∉ acts :=
    fun e he => closing e (List.mem_append_left _ he)
  -- An editor that is known and not open stays so, but this one is open or not known.
  have hdead : e ∈ s.known → s.isOpen e = false → False := fun known hclosed => by
    rcases live with ho | hnew
    · cases ho.symm.trans (step.isOpen_eq_false known hclosed)
    · exact hnew (step.known_subset known)
  intro closes
  cases step with
  | @closed editor w ok =>
    obtain rfl : editor = e := closes
    have hclosed := Workbench.isOpen_close ok editor
    simp only [ne_eq, not_true_eq_false, decide_false, Bool.false_and] at hclosed
    have ho := (h.sound .start).open_known _ (Workbench.emitted_close ok).2
    rcases live with live | hnew
    · cases live.symm.trans hclosed
    · exact hnew ho
  | @released editor known =>
    obtain rfl : editor = e := closes
    refine hdead known (Bool.eq_false_iff.2 fun ho => closing editor (List.mem_append_right _ ?_))
    rw [ho]
    exact List.mem_cons_self
  | @cleared editor tasks next =>
    obtain rfl : editor = e := closes
    obtain ⟨known, hclosed⟩ := h.clear_closed hearlier (next ▸ List.mem_cons_self)
    exact hdead known hclosed
  | _ => exact closes

/-- An editor that is open or unknown after a step was so before. -/
theorem Step.live_of_live (h : Step s act t) (live : t.isOpen e = true ∨ e ∉ t.known) :
    s.isOpen e = true ∨ e ∉ s.known := by
  rcases live with ho | hnew
  · exact (h.isOpen_of_isOpen ho).imp_right And.left
  · exact .inr fun known => hnew (h.known_subset known)

/-- **The three parts know of nothing, or of the last result that was shown in the editor**, as long
as the editor was not closed. -/
theorem Run.blank_or_reflects (h : Run (start workspace pool locate config) acts t)
    (closing : ∀ e, .released e true ∉ acts) (live : t.isOpen e = true ∨ e ∉ t.known) :
    t.Blank e ∨ ∃ before after m m' r, acts = before ++ .applied true r true :: after ∧
      Run (start workspace pool locate config) before m ∧ Step m (.applied true r true) m' ∧
      Run m' after t ∧ shownPasses e after = [] ∧ r.editor = e ∧
      t.Reflects e r m.annotator.markers := by
  induction h with
  | nil => exact .inl ⟨rfl, rfl, rfl⟩
  | @snoc acts s t act run step ih =>
    have hearlier : ∀ e, .released e true ∉ acts :=
      fun e he => closing e (List.mem_append_left _ he)
    have stays := run.not_closesDown closing step live
    cases hact : act.shownPass? e with
    | some n =>
      obtain ⟨onUi, r, rfl, rfl, -⟩ := Act.shownPass?_eq_some_iff.1 hact
      obtain rfl : onUi = true :=
        (Annotator.accepts_eq_true_iff.1 step.shown_eq_accepts.symm).1
      exact .inr ⟨acts, [], s, t, r, rfl, run, step, .nil, rfl, rfl, step.reflects⟩
    | none =>
      rcases ih hearlier (step.live_of_live live) with
        hblank | ⟨before, after, m, m', r, rfl, toM, stepM, fromM, hlast, he, hreflects⟩
      · exact .inl (hblank.step step hact stays)
      · refine .inr ⟨before, after ++ [act], m, m', r, ?_, toM, stepM, fromM.snoc step, ?_, he,
          hreflects.step step hact stays⟩
        · rw [List.append_assoc, List.cons_append]
        · unfold shownPasses at hlast ⊢
          rw [List.filterMap_append, hlast, List.nil_append]
          simp [hact]

/-- **What is shown, on record and announced agrees.** For an open editor, the sink holds something
exactly if a pass is on record, and exactly if a count was announced. Then the count that was
announced last is the number of annotations that the editor shows, and these are those of the result
that was shown in it last, with the markers that there were then; the result comes from a pass about
the editor, and that is the pass on record. The annotator is to be told of the closing of closed
editors only. -/
theorem Run.shown_recorded_announced (h : Run (start workspace pool locate config) acts t)
    (closing : ∀ e, .released e true ∉ acts) (ho : t.isOpen e = true) :
    (t.annotator.sink.contains e = true ↔ t.annotator.applied.contains e = true) ∧
      (t.annotator.applied.contains e = true ↔ ∃ n, .applied e n ∈ t.announced) ∧
      (t.annotator.sink.contains e = true →
        (t.announcedCounts e).getLast? = some (t.annotator.sink.annotations e).length ∧
        ∃ before after m m' p r, acts = before ++ .applied true r true :: after ∧
          Run (start workspace pool locate config) before m ∧ Step m (.applied true r true) m' ∧
          Run m' after t ∧ shownPasses e after = [] ∧ .resolved p r ∈ before ∧ p.editor = e ∧
          t.annotator.sink.annotations e = r.render m.annotator.markers ∧
          t.annotator.appliedPass? e = some p.number) := by
  rcases h.blank_or_reflects closing (.inl ho) with
    hblank | ⟨before, after, m, m', r, hacts, toM, stepM, fromM, hlast, he, hreflects⟩
  · have hsink : t.annotator.sink.contains e = false :=
      Option.isSome_eq_false_iff.2 (Option.isNone_iff_eq_none.2 hblank.shown)
    have happlied : t.annotator.applied.contains e = false :=
      Option.isSome_eq_false_iff.2 (Option.isNone_iff_eq_none.2 hblank.recorded)
    have hnone : ¬ ∃ n, .applied e n ∈ t.announced := by
      rintro ⟨n, hn⟩
      have hmem := mem_announcedCounts.2 hn
      rw [hblank.counts] at hmem
      cases hmem
    rw [hsink, happlied]
    exact ⟨Iff.rfl, iff_of_false Bool.false_ne_true hnone, fun h => absurd h Bool.false_ne_true⟩
  · have hsink : t.annotator.sink.contains e = true := Option.isSome_of_eq_some hreflects.shown
    have happlied : t.annotator.applied.contains e = true :=
      Option.isSome_of_eq_some hreflects.recorded
    have hshown : t.annotator.sink.annotations e = r.render m.annotator.markers :=
      congrArg (Option.getD · []) hreflects.shown
    have hcount := mem_announcedCounts.1 (List.mem_of_getLast? hreflects.count)
    refine ⟨iff_of_true hsink happlied, iff_of_true happlied ⟨_, hcount⟩, fun _ => ⟨?_, ?_⟩⟩
    · rw [hshown]
      exact hreflects.count
    · -- The result was made before it was shown, so its pass is one of the run.
      obtain ⟨p, hres⟩ := (toM.snoc stepM).exists_resolved (List.mem_append_right _ List.mem_cons_self)
      have hbefore : .resolved p r ∈ before := by
        rcases List.mem_append.1 hres with hres | hres
        · exact hres
        · cases List.mem_singleton.1 hres
      obtain ⟨-, answers, rfl⟩ := toM.resolved_spec hbefore
      exact ⟨before, after, m, m', p, _, hacts, toM, stepM, fromM, hlast, hbefore, he, hshown,
        hreflects.recorded⟩

/-- In the run of two servers two results are shown, the third pass is on record, and the count that
was announced last is the number of annotations shown. -/
theorem shown_recorded_announced_two_servers :
    ∃ u, Run Sample.initial (Sample.begun ++ Sample.ended) u ∧
      u.annotator.sink.contains Sample.editor = true ∧
      u.annotator.appliedPass? Sample.editor = some 3 ∧
      (u.announcedCounts Sample.editor).getLast? =
        some (u.annotator.sink.annotations Sample.editor).length := by
  obtain ⟨t, u, begun, ended, -, hopen, -, hpasses, -⟩ := Sample.run
  have run := begun.append ended
  have closing : ∀ e, .released e true ∉ Sample.begun ++ Sample.ended := by
    intro e
    simp [Sample.begun, Sample.ended]
  have third : .applied true (Sample.result 3 3) true ∈ Sample.begun ++ Sample.ended := by
    simp [Sample.ended]
  obtain ⟨hsink, -, hagree⟩ := Run.shown_recorded_announced run closing hopen
  obtain ⟨n, hrec, hle⟩ := run.le_recorded closing third hopen
  have hshown := hsink.2 (Option.isSome_of_eq_some hrec)
  obtain ⟨hcount, before, after, m, m', p, r, hacts, toM, -, -, -, hres, -, -, hpass⟩ :=
    hagree hshown
  -- The pass on record is one of the three, and not before the third.
  have hmem : .resolved p r ∈ Sample.begun ++ Sample.ended :=
    hacts ▸ List.mem_append_left _ hres
  have hp := (run.resolved_spec hmem).1
  obtain rfl : n = p.number := Option.some.inj (hrec.symm.trans hpass)
  have hthree : p.number = 3 := by
    rw [hpasses] at hp
    rcases List.mem_cons.1 hp with rfl | hp
    · exact absurd hle (by decide)
    · rcases List.mem_cons.1 hp with rfl | hp
      · exact absurd hle (by decide)
      · rw [List.mem_singleton.1 hp]
        rfl
  exact ⟨u, run, hshown, hthree ▸ hpass, hcount⟩

end Workflow

end AnnotationBridge
