import AnnotationBridge.Proofs.Freshness

/-!
# The order in which results are shown

Passes finish in any order, and results wait in a queue. What an editor shows still never goes back
to an older pass, as long as the annotator is told of the closing of closed editors only.

* `Workflow.shownPasses`: the passes that were shown in an editor, in order.
* `Workflow.Run.pairwise_shownPasses`, `Workflow.Run.nodup_shownPasses`: they do not decrease, and
  none comes twice if no pass is resolved twice.
* `Workflow.Run.shown_in_order`: both, and what becomes of a result that is not shown.
-/

namespace AnnotationBridge

namespace Workflow

/-- The pass of a result that was shown in an editor. -/
def Act.shownPass? (e : EditorId) : Act → Option Nat
  | .applied _ r true => if r.editor = e then some r.pass else none
  | _ => none

/-- The passes of the results that were shown in an editor, in order. -/
def shownPasses (e : EditorId) (acts : List Act) : List Nat :=
  acts.filterMap (Act.shownPass? e)

variable {s t u : Workflow} {act : Act} {acts : List Act} {e : EditorId} {r : PassResult} {n : Nat}
  {workspace : Workspace} {pool : ConnectionPool} {locate : Locator} {config : AnnotatorConfig}

/-- An act shows a pass if a result of that pass is applied to the editor. -/
theorem Act.shownPass?_eq_some_iff :
    act.shownPass? e = some n ↔ ∃ onUi r, act = .applied onUi r true ∧ r.editor = e ∧ r.pass = n := by
  constructor
  · intro h
    cases act with
    | applied onUi r hasShown =>
      cases hasShown with
      | false => cases h
      | true =>
        by_cases he : r.editor = e
        · rw [Act.shownPass?, if_pos he] at h
          exact ⟨onUi, r, rfl, he, Option.some.inj h⟩
        · rw [Act.shownPass?, if_neg he] at h
          cases h
    | _ => cases h
  · rintro ⟨onUi, r, rfl, he, rfl⟩
    exact if_pos he

/-- The passes that an editor has shown are those of the results that were applied to it. -/
theorem mem_shownPasses :
    n ∈ shownPasses e acts ↔ ∃ onUi r, .applied onUi r true ∈ acts ∧ r.editor = e ∧ r.pass = n := by
  unfold shownPasses
  rw [List.mem_filterMap]
  constructor
  · rintro ⟨act, ha, hn⟩
    obtain ⟨onUi, r, rfl, hr⟩ := Act.shownPass?_eq_some_iff.1 hn
    exact ⟨onUi, r, ha, hr⟩
  · rintro ⟨onUi, r, ha, hr⟩
    exact ⟨_, ha, Act.shownPass?_eq_some_iff.2 ⟨onUi, r, rfl, hr⟩⟩

/-- What was shown was shown by the UI thread. -/
theorem Run.onUi_of_shown (h : Run s acts t) {onUi : Bool} (ha : .applied onUi r true ∈ acts) :
    onUi = true := by
  obtain ⟨-, -, m, m', -, -, step, -⟩ := h.exists_step ha
  exact (Annotator.accepts_eq_true_iff.1 step.shown_eq_accepts.symm).1

/-- A pass that was shown in an editor that is still open is at most the one on record. -/
theorem Run.le_recorded_of_shown (h : Run (start workspace pool locate config) acts t)
    (closing : ∀ e, .released e true ∉ acts) (hn : n ∈ shownPasses e acts) (ho : t.isOpen e = true) :
    ∃ m, t.recorded e = some m ∧ n ≤ m := by
  obtain ⟨onUi, r, ha, rfl, rfl⟩ := mem_shownPasses.1 hn
  obtain rfl := h.onUi_of_shown ha
  exact h.le_recorded closing ha ho

/-- **What an editor shows does not go back to an older pass.** -/
theorem Run.pairwise_shownPasses (h : Run (start workspace pool locate config) acts t)
    (closing : ∀ e, .released e true ∉ acts) (e : EditorId) :
    (shownPasses e acts).Pairwise (· ≤ ·) := by
  induction h with
  | nil => exact .nil
  | @snoc acts t u act run step ih =>
    have earlier : ∀ e, .released e true ∉ acts :=
      fun e he => closing e (List.mem_append_left _ he)
    unfold shownPasses
    rw [List.filterMap_append, List.pairwise_append]
    refine ⟨ih earlier, ?_, fun n hn m hm => ?_⟩
    · cases hact : act.shownPass? e with
      | none => simp [hact]
      | some m => simp [hact]
    · obtain ⟨onUi, r, ha, rfl, rfl⟩ := mem_shownPasses.1 hm
      obtain rfl := List.mem_singleton.1 ha
      -- The record lies between what was shown before and what is shown now.
      obtain ⟨-, ho, hle⟩ := Annotator.accepts_eq_true_iff.1 step.shown_eq_accepts.symm
      obtain ⟨k, hk, hnk⟩ := run.le_recorded_of_shown earlier hn ho
      exact Nat.le_trans hnk (hle k hk)

/-- The passes that were shown are among those of the results that were handed over. -/
theorem sublist_shownPasses (e : EditorId) (acts : List Act) :
    (shownPasses e acts).Sublist ((acts.flatMap Act.used).map PassResult.pass) := by
  induction acts with
  | nil => exact .refl _
  | cons act acts ih =>
    unfold shownPasses
    rw [List.flatMap_cons, List.map_append, List.filterMap_cons]
    cases hact : act.shownPass? e with
    | none => exact ih.trans (List.sublist_append_right _ _)
    | some n =>
      obtain ⟨onUi, r, rfl, -, rfl⟩ := Act.shownPass?_eq_some_iff.1 hact
      exact ih.cons_cons r.pass

/-- No pass is shown twice in an editor, if none is resolved twice. -/
theorem Run.nodup_shownPasses (h : Run (start workspace pool locate config) acts t)
    (once : ((acts.flatMap Act.made).map PassResult.pass).Nodup) (e : EditorId) :
    (shownPasses e acts).Nodup := by
  have hperm := (h.inFlight_perm.map PassResult.pass).nodup_iff.2 once
  rw [List.map_append] at hperm
  exact (List.nodup_append.1 hperm).1.sublist (sublist_shownPasses e acts)

/-- What handing over a result leaves as it was when the result is not shown. -/
theorem Step.unchanged_of_not_shown {onUi : Bool} (h : Step s (.applied onUi r false) t) :
    t.annotator.sink = s.annotator.sink ∧ t.annotator.applied = s.annotator.applied ∧
      t.annotator.markers = s.annotator.markers ∧ t.annotator.workbench = s.annotator.workbench := by
  have hacc := h.shown_eq_accepts.symm
  generalize hact : Act.applied onUi r false = act at h
  cases h with
  | applied onUi' atHand =>
    obtain ⟨rfl, rfl, -⟩ := Act.applied.inj hact
    rw [Annotator.apply_of_not_accepts hacc]
    exact ⟨rfl, rfl, rfl, rfl⟩
  | @performed r' tasks next =>
    obtain ⟨rfl, rfl, -⟩ := Act.applied.inj hact
    have hacc' : (s.annotator.withPending tasks).accepts true r = false := hacc
    rw [Annotator.perform, Annotator.apply_of_not_accepts hacc']
    exact ⟨rfl, rfl, rfl, rfl⟩
  | _ => cases hact

/-- **Older passes never overwrite newer ones.** In each editor the passes that are shown do not
decrease, and increase if no pass is resolved twice. A result is not shown exactly off the UI
thread, for a closed editor, and after a later pass in its editor; then what is shown and on record,
the markers and the events stay as they were. -/
theorem Run.shown_in_order (h : Run (start workspace pool locate config) acts t)
    (closing : ∀ e, .released e true ∉ acts) :
    (∀ e, (shownPasses e acts).Pairwise (· ≤ ·)) ∧
      (((acts.flatMap Act.made).map PassResult.pass).Nodup →
        ∀ e, (shownPasses e acts).Pairwise (· < ·)) ∧
      ∀ onUi r hasShown u, Step t (.applied onUi r hasShown) u →
        (hasShown = true → u.shown r.editor = some (r.render t.annotator.markers)) ∧
        (hasShown = false ↔ onUi = false ∨ t.isOpen r.editor = false ∨
          ∃ n ∈ shownPasses r.editor acts, r.pass < n) ∧
        (hasShown = false → u.annotator.sink = t.annotator.sink ∧
          u.annotator.applied = t.annotator.applied ∧ u.annotator.markers = t.annotator.markers ∧
          u.annotator.workbench = t.annotator.workbench) := by
  refine ⟨h.pairwise_shownPasses closing, fun once e => ?_, fun onUi r hasShown u step => ?_⟩
  · exact (h.pairwise_shownPasses closing e).imp₂ (fun _ _ => Nat.lt_of_le_of_ne)
      (h.nodup_shownPasses once e)
  · refine ⟨?_, ?_, ?_⟩
    · rintro rfl
      exact step.shown_of_applied
    · rw [step.shown_eq_accepts, Annotator.accepts_eq_false_iff]
      by_cases ho : t.isOpen r.editor = true
      · refine or_congr_right (or_congr_right ⟨?_, ?_⟩)
        · rintro ⟨n, hn, hlt⟩
          exact ⟨n, mem_shownPasses.2 (h.exists_shown_of_recorded hn), hlt⟩
        · rintro ⟨n, hn, hlt⟩
          obtain ⟨m, hm, hle⟩ := h.le_recorded_of_shown closing hn ho
          exact ⟨m, hm, Nat.lt_of_lt_of_le hlt hle⟩
      · rw [Bool.not_eq_true] at ho
        exact iff_of_true (.inr (.inl ho)) (.inr (.inl ho))
    · rintro rfl
      exact step.unchanged_of_not_shown

/-- In the run of two servers the first and the third pass are shown, and the second is not. -/
theorem shown_in_order_two_servers :
    ∃ u, Run Sample.initial (Sample.begun ++ Sample.ended) u ∧
      shownPasses Sample.editor (Sample.begun ++ Sample.ended) = [1, 3] ∧
      (shownPasses Sample.editor (Sample.begun ++ Sample.ended)).Pairwise (· < ·) := by
  obtain ⟨t, u, begun, ended, -⟩ := Sample.run
  have run := begun.append ended
  have closing : ∀ e, .released e true ∉ Sample.begun ++ Sample.ended := by
    intro e
    simp [Sample.begun, Sample.ended]
  have once : (((Sample.begun ++ Sample.ended).flatMap Act.made).map PassResult.pass).Nodup := by
    decide
  exact ⟨u, run, by cbv, (Run.shown_in_order run closing).2.1 once Sample.editor⟩

end Workflow

end AnnotationBridge
