import AnnotationBridge.Proofs.Freshness

/-!
# What is shown in the end

Three counts go on side by side: the numbers of passes, the generations of batches, and the record
of what was applied to each editor. However passes, publishes and results interleave, an editor ends
up with the whole result of its latest pass.

* `Workflow.Act.Regular`: what is expected of hosts and servers. `Workflow.Settled`: nothing is left
  to be done.
* `Workflow.Step.due_of_touches`: a change of the markers of an open editor leaves a pass due.
  `Workflow.Step.due_cases`: it stays due until it is made.
* `Workflow.UpToDate`, `Workflow.Run.upToDate`: the invariant that relates the three counts.
* `Workflow.Run.converges`: the main result.
-/

namespace AnnotationBridge

open Lsp

namespace Workflow

/-- What is expected of hosts and servers: publishes come in while there is a runtime, nothing but
publishes and the closing of editors changes the markers, results are handed over on the UI thread,
and the annotator is told that an editor was closed when it is. -/
def Act.Regular : Act → Prop
  | .published _ _ runtime _ => runtime = true
  | .remarked _ => False
  | .applied onUi _ _ => onUi = true
  | .released _ stillOpen => stillOpen = false
  | _ => True

/-- Nothing is left to be done: no pass is due, each pass was resolved, and each result was handed
over. -/
structure Settled (s : Workflow) (acts : List Act) : Prop where
  due : s.due = []
  resolved : ∀ p ∈ s.passes, ∃ r, .resolved p r ∈ acts
  used : s.inFlight = []

/-- A pass is the one with the highest number among those about an editor. -/
structure IsLatest (s : Workflow) (e : EditorId) (p : Pass) : Prop where
  mem : p ∈ s.passes
  editor : p.editor = e
  le : ∀ q ∈ s.passes, q.editor = e → q.number ≤ p.number

variable {s t u : Workflow} {act : Act} {acts : List Act} {e : EditorId} {v : String} {p : Pass}
  {workspace : Workspace} {pool : ConnectionPool} {locate : Locator} {config : AnnotatorConfig}

/-! ### Passes that are due -/

/-- **A step that is about the markers of an open editor leaves a pass about it due.** -/
theorem Step.due_of_touches (h : Step s act t) (hr : act.Regular)
    (hc : s.annotator.config.renderOnPublish = true) (ho : s.isOpen e = true)
    (ht : act.Touches e v) : e ∈ t.due := by
  cases h with
  | published server params runtime =>
    obtain rfl : runtime = true := hr
    have hconfig : (s.annotator.publish server params).2.config = s.annotator.config := by
      rw [Annotator.snd_publish]
    refine List.mem_append_right _ ?_
    rw [Annotator.passesDue, hconfig, hc]
    exact ht.1
  | remarked c => exact hr.elim
  | released known =>
    obtain rfl := ht
    cases ho.symm.trans hr
  | _ => exact ht.elim

/-- **A pass that is due about an open editor stays due until it is made.** -/
theorem Step.due_cases (h : Step s act t) (hs : Sound s) (ho : s.isOpen e = true) (hd : e ∈ s.due) :
    e ∈ t.due ∨ ∃ p, act = .collected p ∧ p.editor = e := by
  cases h with
  | published => exact .inl (List.mem_append_left _ hd)
  | @begun editor due p owed made =>
    rcases List.mem_cons.1 (owed.mem_iff.1 hd) with rfl | hd
    · exact .inr ⟨p, rfl, (Annotator.collect_eq_some made).2.1⟩
    · exact .inl hd
  | @skipped editor due owed noPass =>
    rcases List.mem_cons.1 (owed.mem_iff.1 hd) with rfl | hd
    · have hsome := Annotator.collect_of_isOpen hs.stored ho
      rw [noPass] at hsome
      cases hsome
    · exact .inl hd
  | _ => exact .inl hd

/-- What a regular step means to an editor that is open after it and has no pass due: it has just
been opened, a pass about it has just been made, or nothing that concerns it has happened. -/
theorem Step.settled_cases (h : Step s act t) (hs : Sound s) (hr : act.Regular)
    (hc : s.annotator.config.renderOnPublish = true) (ho : t.isOpen e = true) (hd : e ∉ t.due) :
    (e ∉ s.known ∧ (∃ d, act = .opened e d) ∧ ∀ p ∈ t.passes, p.editor ≠ e) ∨
      (∃ p, act = .collected p ∧ p.editor = e) ∨
      (s.isOpen e = true ∧ e ∉ s.due ∧ (∀ v, ¬ act.Touches e v) ∧
        ∀ p, t.IsLatest e p ↔ s.IsLatest e p) := by
  rcases h.isOpen_of_isOpen ho with hopen | ⟨hnew, d, rfl⟩
  · by_cases hmade : ∃ p, act = .collected p ∧ p.editor = e
    · exact .inr (.inl hmade)
    · refine .inr (.inr ⟨hopen, fun hdue => ?_, fun v ht => hd (h.due_of_touches hr hc hopen ht), ?_⟩)
      · exact (h.due_cases hs hopen hdue).elim hd hmade
      · have hsame : ∀ q : Pass, q.editor = e → (q ∈ t.passes ↔ q ∈ s.passes) := fun q hq =>
          ⟨fun hmem => (h.mem_passes hmem).resolve_right fun hact => hmade ⟨q, hact, hq⟩,
            fun hmem => h.passes_subset hmem⟩
        exact fun p =>
          ⟨fun ⟨hmem, hed, hle⟩ => ⟨(hsame p hed).1 hmem, hed, fun q hq heq =>
              hle q ((hsame q heq).2 hq) heq⟩,
            fun ⟨hmem, hed, hle⟩ => ⟨(hsame p hed).2 hmem, hed, fun q hq heq =>
              hle q ((hsame q heq).1 hq) heq⟩⟩
  · refine .inl ⟨hnew, ⟨d, rfl⟩, fun p hp hed => hnew ?_⟩
    rcases h.mem_passes hp with hp | hact
    · exact hed ▸ hs.pass_known p hp
    · cases hact

/-- A pass that has just been made is the latest about its editor. -/
theorem Sound.isLatest_of_collected (hs : Sound s) (h : Step s (.collected p) t) :
    t.IsLatest p.editor p := by
  refine ⟨?_, rfl, fun q hq _ => ?_⟩
  · rw [h.collected_spec.2.2.1]
    exact List.mem_append_right _ List.mem_cons_self
  · rcases h.mem_passes hq with hq | hact
    · exact Nat.le_of_lt (hs.number_lt h hq)
    · obtain rfl := Act.collected.inj hact
      exact Nat.le_refl _

/-- There is only one latest pass about an editor. -/
theorem IsLatest.unique (hs : Sound s) {q : Pass} (hp : s.IsLatest e p) (hq : s.IsLatest e q) :
    p = q :=
  hs.pass_unique p hp.mem q hq.mem
    (Nat.le_antisymm (hq.le p hp.mem hp.editor) (hp.le q hq.mem hq.editor))

/-! ### The invariant -/

/-- What is up to date about an editor: the markers of its latest pass are current, and if that pass
is the one on record, the editor shows a whole result of it. -/
def UpToDate (s : Workflow) (acts : List Act) (e : EditorId) : Prop :=
  ∀ p, s.IsLatest e p →
    (∀ q ∈ p.requests, q.marker ∈ s.annotator.markers.collect q.marker.editor q.marker.server) ∧
      (s.recorded e = some p.number → ∃ r, .resolved p r ∈ acts ∧ .applied true r true ∈ acts ∧
        s.shown e = some r.renderAll)

/-- What is expected of hosts and servers includes that no open editor is released. -/
theorem not_released_open (hr : ∀ act ∈ acts, act.Regular) (e : EditorId) :
    .released e true ∉ acts :=
  fun h => Bool.false_ne_true (hr _ h).symm

/-- What is on record for an editor is the number of a pass about it. -/
theorem Run.exists_pass_of_recorded (h : Run (start workspace pool locate config) acts t) {n : Nat}
    (hn : t.recorded e = some n) : ∃ p ∈ t.passes, p.editor = e ∧ p.number = n := by
  obtain ⟨onUi, r, ha, rfl, rfl⟩ := h.exists_shown_of_recorded hn
  obtain ⟨p, hp⟩ := h.exists_resolved ha
  obtain ⟨hmem, answers, rfl⟩ := h.resolved_spec hp
  exact ⟨p, hmem, rfl, rfl⟩

/-- A result that is shown for the latest pass, all of whose markers are current, is a result of
that pass and is shown as a whole. -/
theorem Run.shown_of_latest (h : Run (start workspace pool locate config) acts s)
    {r : PassResult} {onUi : Bool} (step : Step s (.applied onUi r true) t)
    (hlatest : s.IsLatest r.editor p) (hpass : r.pass = p.number)
    (hcurrent : ∀ q ∈ p.requests,
      q.marker ∈ s.annotator.markers.collect q.marker.editor q.marker.server) :
    .resolved p r ∈ acts ∧ t.shown r.editor = some r.renderAll := by
  obtain ⟨p', before, after, -, -, rfl, hresolved, ⟨answers, rfl⟩, -⟩ := h.exists_collected step
  have hmem : .resolved p' (p'.resolved answers) ∈ before ++ .collected p' :: after :=
    List.mem_append_right _ (List.mem_cons_of_mem _ hresolved)
  obtain rfl : p' = p :=
    (h.sound .start).pass_unique p' (h.resolved_spec hmem).1 p hlatest.mem hpass
  refine ⟨hmem, ?_⟩
  rw [step.shown_of_applied, PassResult.render_eq_renderAll fun fs hfs f hf => ?_]
  obtain ⟨q, hq, hqf, -⟩ := Pass.exists_request hfs hf
  rw [← hqf]
  exact (h.sound .start).markers.isCurrent_of_mem_collect (hcurrent q hq)

/-- **In a regular run every open editor that has no pass due is up to date.** -/
theorem Run.upToDate (h : Run (start workspace pool locate config) acts t)
    (hc : config.renderOnPublish = true) (hr : ∀ act ∈ acts, act.Regular)
    (ho : t.isOpen e = true) (hd : e ∉ t.due) : t.UpToDate acts e := by
  induction h with
  | nil => exact fun p hp => absurd hp.mem List.not_mem_nil
  | @snoc acts s t act run step ih =>
    have hpast : ∀ act ∈ acts, act.Regular := fun act ha => hr act (List.mem_append_left _ ha)
    have hnow : act.Regular := hr act (List.mem_append_right _ List.mem_cons_self)
    have hs := run.sound .start
    have hconfig : s.annotator.config.renderOnPublish = true := by
      rw [run.static.2.1]
      exact hc
    intro p hp
    rcases step.settled_cases hs hnow hconfig ho hd with
      ⟨-, -, hnone⟩ | ⟨p', rfl, hed⟩ | ⟨hopen, hdue, hquiet, hsame⟩
    · exact absurd hp.editor (hnone p hp.mem)
    · -- The pass that has just been made is the latest, and nothing is on record for it.
      obtain rfl : p = p' :=
        IsLatest.unique (hs.step step) hp (hed ▸ hs.isLatest_of_collected step)
      obtain ⟨-, -, -, -, hkept, hown⟩ := step.collected_spec
      refine ⟨fun q hq => ?_, fun hrec => ?_⟩
      · rw [hkept]
        exact (hown hs.markers q hq).2
      · exfalso
        rcases step.shown_cases e with ⟨_, _, hact, -⟩ | ⟨hact, -⟩ | ⟨hact, -⟩ | ⟨-, hsame, -⟩
        · cases hact
        · cases hact
        · cases hact
        · obtain ⟨q, hq, -, hnum⟩ := run.exists_pass_of_recorded (hsame.symm.trans hrec)
          exact absurd hnum (Nat.ne_of_lt (hs.number_lt step hq))
    · -- Nothing happened to the passes and the markers; the editor may have shown a result.
      have hlatest := (hsame p).1 hp
      obtain ⟨hcurrent, hshown⟩ := ih hpast hopen hdue p hlatest
      refine ⟨fun q hq => ?_, fun hrec => ?_⟩
      · have hq' : q.marker.editor = e := (hs.pass_own p hlatest.mem q hq).trans hp.editor
        have hbatch := step.batch?_eq (hq' ▸ hquiet q.marker.server)
        unfold MarkerStore.collect
        rw [hbatch]
        exact hcurrent q hq
      · rcases step.shown_cases e with
          ⟨onUi, r, rfl, rfl, hacc, hnew, -⟩ | ⟨rfl, -⟩ | ⟨-, hclear, -⟩ | ⟨-, hold, hkept⟩
        · obtain ⟨hmem, hwhole⟩ := run.shown_of_latest step hlatest
            (Option.some.inj (hnew.symm.trans hrec)) hcurrent
          obtain rfl : onUi = true := hnow
          exact ⟨r, List.mem_append_left _ hmem, List.mem_append_right _ List.mem_cons_self, hwhole⟩
        · cases hopen.symm.trans hnow
        · have hclosed := (run.clear_closed (not_released_open hpast) hclear).2
          cases hopen.symm.trans hclosed
        · obtain ⟨r, hmem, hused, hwhole⟩ := hshown (hold.symm.trans hrec)
          exact ⟨r, List.mem_append_left _ hmem, List.mem_append_left _ hused, hkept.trans hwhole⟩

/-! ### Convergence -/

/-- An editor that a publish reached is known. -/
theorem Run.published_known (h : Run (start workspace pool locate config) acts t)
    {server : String} {params : PublishParams} {runtime : Bool} {editors : List EditorId}
    (hp : .published server params runtime editors ∈ acts) (he : e ∈ editors) : e ∈ t.known := by
  induction h with
  | nil => cases hp
  | @snoc acts s t act run step ih =>
    rcases List.mem_append.1 hp with hp | hp
    · exact step.known_subset (ih hp)
    · obtain rfl := List.mem_singleton.1 hp
      refine step.known_subset ((run.sound .start).open_known e ?_)
      cases step with
      | published =>
        obtain ⟨d, hd⟩ := Workbench.documentFor_of_mem_editorsFor he
        exact Workbench.isOpen_of_documentFor hd

/-- An open editor that a publish reached has a pass due or a latest pass. -/
theorem Run.due_or_latest (h : Run (start workspace pool locate config) acts t)
    (hc : config.renderOnPublish = true) (hr : ∀ act ∈ acts, act.Regular)
    {server : String} {params : PublishParams} {runtime : Bool} {editors : List EditorId}
    (hp : .published server params runtime editors ∈ acts) (he : e ∈ editors)
    (ho : t.isOpen e = true) : e ∈ t.due ∨ ∃ p, t.IsLatest e p := by
  induction h with
  | nil => cases hp
  | @snoc acts s t act run step ih =>
    have hpast : ∀ act ∈ acts, act.Regular := fun act ha => hr act (List.mem_append_left _ ha)
    have hnow : act.Regular := hr act (List.mem_append_right _ List.mem_cons_self)
    have hs := run.sound .start
    have hconfig : s.annotator.config.renderOnPublish = true := by
      rw [run.static.2.1]
      exact hc
    by_cases hd : e ∈ t.due
    · exact .inl hd
    · refine .inr ?_
      rcases step.settled_cases hs hnow hconfig ho hd with
        ⟨hnew, ⟨d, rfl⟩, -⟩ | ⟨p, rfl, hed⟩ | ⟨hopen, hdue, hquiet, hsame⟩
      · rcases List.mem_append.1 hp with hp | hp
        · exact absurd (run.published_known hp he) hnew
        · cases List.mem_singleton.1 hp
      · exact ⟨p, hed ▸ hs.isLatest_of_collected step⟩
      · rcases List.mem_append.1 hp with hp | hp
        · obtain ⟨p, hlatest⟩ := (ih hpast hp hopen).resolve_left hdue
          exact ⟨p, (hsame p).2 hlatest⟩
        · obtain rfl := List.mem_singleton.1 hp
          exact absurd ⟨he, rfl⟩ (hquiet server)

/-- When nothing is left to be done, the latest pass about an open editor is the one on record. -/
theorem Run.recorded_of_settled (h : Run (start workspace pool locate config) acts t)
    (hr : ∀ act ∈ acts, act.Regular) (hset : t.Settled acts) (hp : t.IsLatest e p)
    (ho : t.isOpen e = true) : t.recorded e = some p.number := by
  obtain ⟨r, hres⟩ := hset.resolved p hp.mem
  obtain ⟨-, answers, rfl⟩ := h.resolved_spec hres
  have hused : p.resolved answers ∈ acts.flatMap Act.used := by
    have hperm := h.inFlight_perm
    rw [hset.used, List.append_nil] at hperm
    exact hperm.mem_iff.2 (mem_flatMap_made.2 ⟨p, hres⟩)
  obtain ⟨onUi, hasShown, ha⟩ := mem_flatMap_used.1 hused
  obtain rfl : onUi = true := hr _ ha
  have hopen : t.isOpen (p.resolved answers).editor = true := by
    rw [show (p.resolved answers).editor = e from hp.editor]
    exact ho
  obtain ⟨n, hrec, hle⟩ := h.le_recorded (not_released_open hr) ha hopen
  rw [show (p.resolved answers).editor = e from hp.editor] at hrec
  -- What is on record is the number of a pass about the editor, so it is not greater either.
  obtain ⟨q, hq, hqe, rfl⟩ := h.exists_pass_of_recorded hrec
  rw [hrec, Nat.le_antisymm (hp.le q hq hqe) hle]

/-- **Convergence.** In a regular run with passes on publish, when nothing is left to be done, every
open editor that a publish has reached shows the annotations for all items of a result of its latest
pass, and the marker of each item is in the batch that its key holds. -/
theorem Run.converges (h : Run (start workspace pool locate config) acts t)
    (hc : config.renderOnPublish = true) (hr : ∀ act ∈ acts, act.Regular) (hset : t.Settled acts)
    {server : String} {params : PublishParams} {runtime : Bool} {editors : List EditorId}
    (hp : .published server params runtime editors ∈ acts) (he : e ∈ editors)
    (ho : t.isOpen e = true) :
    ∃ p r, t.IsLatest e p ∧ .resolved p r ∈ acts ∧ .applied true r true ∈ acts ∧
      t.shown e = some r.renderAll ∧
      ∀ fs ∈ r.findings, ∀ f ∈ fs.items,
        f.marker ∈ t.annotator.markers.collect f.marker.editor f.marker.server := by
  have hd : e ∉ t.due := by
    rw [hset.due]
    exact List.not_mem_nil
  obtain ⟨p, hlatest⟩ := (h.due_or_latest hc hr hp he ho).resolve_left hd
  obtain ⟨hcurrent, hshown⟩ := h.upToDate hc hr ho hd p hlatest
  obtain ⟨r, hres, hused, hwhole⟩ := hshown (h.recorded_of_settled hr hset hlatest ho)
  refine ⟨p, r, hlatest, hres, hused, hwhole, fun fs hfs f hf => ?_⟩
  obtain ⟨-, answers, rfl⟩ := h.resolved_spec hres
  obtain ⟨q, hq, hqf, -⟩ := Pass.exists_request hfs hf
  rw [← hqf]
  exact hcurrent q hq

/-- The run of two servers ends with the result of the third pass, although the result of the second
one was handed over after it. -/
theorem converges_two_servers :
    ∃ u, Run Sample.initial (Sample.begun ++ Sample.ended) u ∧
      u.IsLatest Sample.editor (Sample.pass 3 3) ∧
      u.shown Sample.editor = some (Sample.result 3 3).renderAll := by
  obtain ⟨t, u, begun, ended, -, hopen, hdue, hpasses, hflight⟩ := Sample.run
  have run := begun.append ended
  have regular : ∀ act ∈ Sample.begun ++ Sample.ended, act.Regular := by
    simp [Sample.begun, Sample.ended, Act.Regular]
  have settled : u.Settled (Sample.begun ++ Sample.ended) := by
    refine ⟨hdue, fun p hp => ?_, hflight⟩
    rw [hpasses] at hp
    rcases List.mem_cons.1 hp with rfl | hp
    · exact ⟨Sample.result 1 1, by simp [Sample.begun]⟩
    · rcases List.mem_cons.1 hp with rfl | hp
      · exact ⟨Sample.result 2 3, by simp [Sample.ended]⟩
      · obtain rfl := List.mem_singleton.1 hp
        exact ⟨Sample.result 3 3, by simp [Sample.ended]⟩
  have published : .published "x" (Sample.params "x") true [Sample.editor] ∈
      Sample.begun ++ Sample.ended := by
    simp [Sample.begun]
  obtain ⟨p, r, hlatest, hres, -, hshown, -⟩ :=
    Run.converges run rfl regular settled published List.mem_cons_self hopen
  have hthird : u.IsLatest Sample.editor (Sample.pass 3 3) := by
    refine ⟨?_, rfl, ?_⟩
    · simp [hpasses]
    · simp [hpasses, Sample.pass]
  obtain rfl := hlatest.unique (run.sound .start) hthird
  have hr : r = Sample.result 3 3 := by
    simpa [Sample.begun, Sample.ended, Sample.pass] using hres
  exact ⟨u, run, hthird, hr ▸ hshown⟩

end Workflow

end AnnotationBridge
