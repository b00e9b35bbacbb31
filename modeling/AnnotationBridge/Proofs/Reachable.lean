import AnnotationBridge.Proofs.Workflow

/-!
# What holds in every run

* `Workflow.Sound`: open editors are known and have a document, the markers are well-formed, and the
  passes are told apart by their numbers. `Workflow.Sound.step`, `Workflow.Run.sound`.
* `Workflow.Run.resolved_spec`, `Workflow.Run.exists_resolved`: each result in a run comes from a
  pass of the run.
* `Workflow.Run.isOpen_eq_false`: an editor that is known and not open is never open again.
* `Workflow.Run.clear_closed`: what waits to be cleared is closed.
* `Workflow.Run.le_recorded`: an open editor has a record that is at least the pass of any result
  that was handed over for it.
-/

namespace AnnotationBridge

namespace Workflow

/-- What holds of an annotator and its passes at any time. -/
structure Sound (s : Workflow) : Prop where
  open_known : ∀ e, s.isOpen e = true → e ∈ s.known
  stored : s.annotator.workbench.Stored
  markers : s.annotator.markers.WellFormed
  attached : s.annotator.ui.attached = true
  pass_lt : ∀ p ∈ s.passes, p.number < s.annotator.nextPass
  pass_unique : ∀ p ∈ s.passes, ∀ q ∈ s.passes, p.number = q.number → p = q
  pass_known : ∀ p ∈ s.passes, p.editor ∈ s.known
  pass_own : ∀ p ∈ s.passes, ∀ q ∈ p.requests, q.marker.editor = p.editor

variable {s t u : Workflow} {act : Act} {acts : List Act} {e : EditorId} {p : Pass} {r : PassResult}
  {workspace : Workspace} {pool : ConnectionPool} {locate : Locator} {config : AnnotatorConfig}

/-- A pass after a step was there before or has just been made. -/
theorem Step.mem_passes (h : Step s act t) (hp : p ∈ t.passes) :
    p ∈ s.passes ∨ act = .collected p := by
  by_cases hact : ∃ q, act = .collected q
  · obtain ⟨q, rfl⟩ := hact
    rw [h.collected_spec.2.2.1] at hp
    rcases List.mem_append.1 hp with hp | hp
    · exact .inl hp
    · exact .inr (by rw [List.mem_singleton.1 hp])
  · rw [(h.passes_eq fun q hq => hact ⟨q, hq⟩).1] at hp
    exact .inl hp

/-- The count of passes does not go down. -/
theorem Step.nextPass_le (h : Step s act t) : s.annotator.nextPass ≤ t.annotator.nextPass := by
  by_cases hact : ∃ q, act = .collected q
  · obtain ⟨q, rfl⟩ := hact
    rw [h.collected_spec.2.2.2.1]
    exact Nat.le_succ _
  · exact Nat.le_of_eq (h.passes_eq fun q hq => hact ⟨q, hq⟩).2.symm

/-- A pass that a step makes is none of those that were there. -/
theorem Sound.number_lt (hs : Sound s) (h : Step s (.collected p) t) {q : Pass}
    (hq : q ∈ s.passes) : q.number < p.number := by
  rw [h.collected_spec.2.1]
  exact hs.pass_lt q hq

/-- An annotator for which nothing happened yet is sound. -/
theorem Sound.start : Sound (start workspace pool locate config) where
  open_known := fun _ h => by cases h
  stored := .empty workspace
  markers := .empty
  attached := rfl
  pass_lt := fun _ h => absurd h List.not_mem_nil
  pass_unique := fun _ h => absurd h List.not_mem_nil
  pass_known := fun _ h => absurd h List.not_mem_nil
  pass_own := fun _ h => absurd h List.not_mem_nil

/-- A step keeps an annotator sound. -/
theorem Sound.step (hs : Sound s) (h : Step s act t) : Sound t where
  open_known e ho := by
    rcases h.isOpen_of_isOpen ho with ho | ⟨-, d, rfl⟩
    · exact h.known_subset (hs.open_known e ho)
    · cases h with
      | opened d fresh => exact List.mem_cons_self
  stored := h.stored hs.stored
  markers := h.markers_wellFormed hs.markers
  attached := h.static.2.2.trans hs.attached
  pass_lt p hp := by
    rcases h.mem_passes hp with hp | rfl
    · exact Nat.lt_of_lt_of_le (hs.pass_lt p hp) h.nextPass_le
    · obtain ⟨-, hnum, -, hnext, -⟩ := h.collected_spec
      rw [hnum, hnext]
      exact Nat.lt_succ_self _
  pass_unique p hp q hq heq := by
    rcases h.mem_passes hp with hp | rfl
    · rcases h.mem_passes hq with hq | rfl
      · exact hs.pass_unique p hp q hq heq
      · exact absurd heq (Nat.ne_of_lt (hs.number_lt h hp))
    · rcases h.mem_passes hq with hq | hq
      · exact absurd heq (Nat.ne_of_gt (hs.number_lt h hq))
      · exact Act.collected.inj hq
  pass_known p hp := by
    rcases h.mem_passes hp with hp | rfl
    · exact h.known_subset (hs.pass_known p hp)
    · exact h.known_subset (hs.open_known _ h.collected_spec.1)
  pass_own p hp q hq := by
    rcases h.mem_passes hp with hp | rfl
    · exact hs.pass_own p hp q hq
    · exact (h.collected_spec.2.2.2.2.2 hs.markers q hq).1

/-- A run keeps an annotator sound. -/
theorem Run.sound (h : Run s acts t) (hs : Sound s) : Sound t := by
  induction h with
  | nil => exact hs
  | snoc _ step ih => exact ih.step step

/-- What happened in a run happened in a step of it. -/
theorem Run.exists_step (h : Run s acts u) (ha : act ∈ acts) :
    ∃ earlier later t t', acts = earlier ++ act :: later ∧ Run s earlier t ∧ Step t act t' ∧
      Run t' later u := by
  induction h with
  | nil => cases ha
  | @snoc acts t u last run step ih =>
    rcases List.mem_append.1 ha with ha | ha
    · obtain ⟨earlier, later, m, m', rfl, before, stepm, after⟩ := ih ha
      exact ⟨earlier, later ++ [last], m, m', List.append_assoc _ _ _, before, stepm,
        after.snoc step⟩
    · obtain rfl := List.mem_singleton.1 ha
      exact ⟨acts, [], t, u, rfl, run, step, .nil⟩

/-! ### Results come from passes -/

/-- A result that was made is that of a pass of the run, with some answers. -/
theorem Run.resolved_spec (h : Run s acts t) (ha : .resolved p r ∈ acts) :
    p ∈ t.passes ∧ ∃ answers, r = p.resolved answers := by
  induction h with
  | nil => cases ha
  | snoc _ step ih =>
    rcases List.mem_append.1 ha with ha | ha
    · exact ⟨step.passes_subset (ih ha).1, (ih ha).2⟩
    · obtain rfl := List.mem_singleton.1 ha
      cases step with
      | resolved made answers => exact ⟨made, answers, rfl⟩

/-- A pass of a run was made in a step of it. -/
theorem Run.collected_of_mem (h : Run (start workspace pool locate config) acts t)
    (hp : p ∈ t.passes) : .collected p ∈ acts := by
  induction h with
  | nil => cases hp
  | snoc _ step ih =>
    rcases step.mem_passes hp with hp | rfl
    · exact List.mem_append_left _ (ih hp)
    · exact List.mem_append_right _ List.mem_cons_self

/-- The results that were made come from passes. -/
theorem mem_flatMap_made : r ∈ acts.flatMap Act.made ↔ ∃ p, .resolved p r ∈ acts := by
  rw [List.mem_flatMap]
  constructor
  · rintro ⟨act, ha, hr⟩
    cases act with
    | resolved p r' =>
      obtain rfl := List.mem_singleton.1 hr
      exact ⟨p, ha⟩
    | _ => cases hr
  · rintro ⟨p, hp⟩
    exact ⟨_, hp, List.mem_singleton_self r⟩

/-- The results that were used up were handed over. -/
theorem mem_flatMap_used :
    r ∈ acts.flatMap Act.used ↔ ∃ onUi hasShown, .applied onUi r hasShown ∈ acts := by
  rw [List.mem_flatMap]
  constructor
  · rintro ⟨act, ha, hr⟩
    cases act with
    | applied onUi r' hasShown =>
      obtain rfl := List.mem_singleton.1 hr
      exact ⟨onUi, hasShown, ha⟩
    | _ => cases hr
  · rintro ⟨onUi, hasShown, ha⟩
    exact ⟨_, ha, List.mem_singleton_self r⟩

/-- A result that was handed over comes from a pass. -/
theorem Run.exists_resolved (h : Run (start workspace pool locate config) acts t) {onUi hasShown}
    (ha : .applied onUi r hasShown ∈ acts) : ∃ p, .resolved p r ∈ acts :=
  mem_flatMap_made.1 (h.inFlight_perm.mem_iff.1
    (List.mem_append_left _ (mem_flatMap_used.2 ⟨onUi, hasShown, ha⟩)))

/-- A result that was handed over is about an editor that is known. -/
theorem Run.applied_known (h : Run (start workspace pool locate config) acts t) {onUi hasShown}
    (ha : .applied onUi r hasShown ∈ acts) : r.editor ∈ t.known := by
  obtain ⟨p, hp⟩ := h.exists_resolved ha
  obtain ⟨hmem, answers, rfl⟩ := h.resolved_spec hp
  exact (h.sound .start).pass_known p hmem

/-! ### Closed editors stay closed -/

/-- An editor that is known and not open stays so: only new editors are opened. -/
theorem Step.isOpen_eq_false (h : Step s act t) (known : e ∈ s.known) (closed : s.isOpen e = false) :
    t.isOpen e = false := by
  rw [Bool.eq_false_iff]
  intro ho
  rcases h.isOpen_of_isOpen ho with ho | ⟨hnew, -⟩
  · cases ho.symm.trans closed
  · exact hnew known

/-- An editor that is known and not open is never open again. -/
theorem Run.isOpen_eq_false (h : Run s acts t) (known : e ∈ s.known) (closed : s.isOpen e = false) :
    e ∈ t.known ∧ t.isOpen e = false := by
  induction h with
  | nil => exact ⟨known, closed⟩
  | snoc _ step ih => exact ⟨step.known_subset ih.1, step.isOpen_eq_false ih.1 ih.2⟩

/-- A task that clears an editor was queued before or is queued by releasing the editor. -/
theorem Step.clear_mem (h : Step s act t) (ha : s.annotator.ui.attached = true)
    (hc : .perform (.clear e) [] ∈ t.annotator.ui.pending) :
    .perform (.clear e) [] ∈ s.annotator.ui.pending ∨
      act = .released e (s.isOpen e) ∧ e ∈ s.known := by
  cases h with
  | published | collected | begun | skipped | applied =>
    simp only [Annotator.snd_publish, Annotator.snd_collect, Annotator.snd_apply] at hc
    exact .inl hc
  | scheduled =>
    rw [Annotator.schedule, Annotator.pending_queue ha] at hc
    rcases List.mem_append.1 hc with hc | hc
    · exact .inl hc
    · cases List.mem_singleton.1 hc
  | performed next =>
    simp only [Annotator.perform, Annotator.withPending, Annotator.snd_apply] at hc
    rw [next]
    exact .inl (List.mem_cons_of_mem _ hc)
  | cleared next =>
    rw [next]
    exact .inl (List.mem_cons_of_mem _ hc)
  | @released editor known =>
    rw [Annotator.pending_editorClosed ha] at hc
    rcases List.mem_append.1 hc with hc | hc
    · exact .inl hc
    · cases List.mem_singleton.1 hc
      exact .inr ⟨rfl, known⟩
  | _ => exact .inl hc

/-- **What waits to be cleared is closed**, if the annotator is told of the closing of closed
editors only. -/
theorem Run.clear_closed (h : Run (start workspace pool locate config) acts t)
    (closing : ∀ e, .released e true ∉ acts)
    (hc : .perform (.clear e) [] ∈ t.annotator.ui.pending) :
    e ∈ t.known ∧ t.isOpen e = false := by
  induction h with
  | nil => cases hc
  | @snoc acts t u act run step ih =>
    have hsound := run.sound .start
    have earlier : ∀ e, .released e true ∉ acts :=
      fun e he => closing e (List.mem_append_left _ he)
    have hclosed : e ∈ t.known ∧ t.isOpen e = false := by
      rcases step.clear_mem hsound.attached hc with hc | ⟨rfl, hknown⟩
      · exact ih earlier hc
      · refine ⟨hknown, Bool.eq_false_iff.2 fun ho => ?_⟩
        rw [ho] at closing
        exact closing e (List.mem_append_right _ List.mem_cons_self)
    exact ⟨step.known_subset hclosed.1, step.isOpen_eq_false hclosed.1 hclosed.2⟩

/-! ### The record of what was applied -/

/-- **An open editor has a record that is at least the pass of any result that was handed over for
it**, if the annotator is told of the closing of closed editors only. -/
theorem Run.le_recorded (h : Run (start workspace pool locate config) acts t)
    (closing : ∀ e, .released e true ∉ acts) {hasShown : Bool}
    (ha : .applied true r hasShown ∈ acts) (ho : t.isOpen r.editor = true) :
    ∃ n, t.recorded r.editor = some n ∧ r.pass ≤ n := by
  induction h with
  | nil => cases ha
  | @snoc acts t u act run step ih =>
    have earlier : ∀ e, .released e true ∉ acts :=
      fun e he => closing e (List.mem_append_left _ he)
    -- Either the result was handed over before, or that is what happens now.
    have hbefore : t.isOpen r.editor = true ∧
        ((∃ n, t.recorded r.editor = some n ∧ r.pass ≤ n) ∨ act = .applied true r hasShown) := by
      rcases List.mem_append.1 ha with ha | ha
      · rcases step.isOpen_of_isOpen ho with ho | ⟨hnew, -⟩
        · exact ⟨ho, .inl (ih earlier ha ho)⟩
        · exact absurd (run.applied_known ha) hnew
      · obtain rfl := List.mem_singleton.1 ha
        rw [step.isOpen_eq] at ho
        exact ⟨ho, .inr rfl⟩
    obtain ⟨hopen, hbefore⟩ := hbefore
    rcases step.shown_cases r.editor with
      ⟨onUi, r', rfl, hed, hacc, hrec, -⟩ | ⟨rfl, -, -⟩ | ⟨rfl, -, hrec, -⟩ | ⟨hother, hrec, -⟩
    · refine ⟨r'.pass, hrec, ?_⟩
      rcases hbefore with ⟨n, hn, hle⟩ | heq
      · rw [← hed] at hn
        exact Nat.le_trans hle ((Annotator.accepts_eq_true_iff.1 hacc).2.2 n hn)
      · obtain ⟨-, rfl, -⟩ := Act.applied.inj heq
        exact Nat.le_refl _
    · rw [hopen] at closing
      exact absurd (List.mem_append_right _ List.mem_cons_self) (closing r.editor)
    · rcases hbefore with ⟨n, hn, hle⟩ | heq
      · exact ⟨n, hrec.trans hn, hle⟩
      · cases heq
    · rcases hbefore with ⟨n, hn, hle⟩ | rfl
      · exact ⟨n, hrec.trans hn, hle⟩
      · -- It was not shown, although its editor is open: the record is greater.
        have hnot : t.annotator.accepts true r = false := by
          rw [← step.shown_eq_accepts, Bool.eq_false_iff]
          rintro rfl
          exact hother true r rfl rfl
        rcases Annotator.accepts_eq_false_iff.1 hnot with hui | hclosed | ⟨n, hn, hlt⟩
        · cases hui
        · cases hopen.symm.trans hclosed
        · exact ⟨n, hrec.trans hn, Nat.le_of_lt hlt⟩

/-- What is on record for an editor is the pass of a result that was shown in it. -/
theorem Run.exists_shown_of_recorded (h : Run (start workspace pool locate config) acts t) {n : Nat}
    (hn : t.recorded e = some n) :
    ∃ onUi r, .applied onUi r true ∈ acts ∧ r.editor = e ∧ r.pass = n := by
  induction h with
  | nil => cases hn
  | @snoc acts t u act _ step ih =>
    have hpast : t.recorded e = some n →
        ∃ onUi r, .applied onUi r true ∈ acts ++ [act] ∧ r.editor = e ∧ r.pass = n := fun hn =>
      let ⟨onUi, r, ha, hr⟩ := ih hn
      ⟨onUi, r, List.mem_append_left _ ha, hr⟩
    rcases step.shown_cases e with
      ⟨onUi, r, rfl, hed, -, hrec, -⟩ | ⟨-, hrec, -⟩ | ⟨-, -, hrec, -⟩ | ⟨-, hrec, -⟩
    · exact ⟨onUi, r, List.mem_append_right _ List.mem_cons_self, hed,
        Option.some.inj (hrec.symm.trans hn)⟩
    · cases hrec.symm.trans hn
    · exact hpast (hrec.symm.trans hn)
    · exact hpast (hrec.symm.trans hn)

end Workflow

end AnnotationBridge
