import AnnotationBridge.Proofs.Release

/-!
# Following the events of a workbench

An event loop follows the events of its workbench at its own pace, and has the annotator forget an
editor when it reads that the editor was closed. Only so many unread events are kept for it. While
the loop is not too far behind it reads every event; if it falls behind while the closing of an
editor is unread, it never reads that, and all that was held for the editor stays.

* `Workflow.Act.event?`, `Workflow.Step.announced_eq`: the event that a step announces.
  `Workflow.Run.closed_of_announced`: an editor whose closing was announced was closed.
* `Follower`: a workflow with such a loop. `Follower.Step`, `Follower.Run`: what happens meanwhile.
* `Follower.Run.exists_read`: a loop that was not too far behind has read the closing of an editor.
  `Follower.Run.not_read`: one that was has not, and never will.
* `Follower.Run.forgotten_iff`: when a loop that has read everything has forgotten a closed editor.
  `Follower.closing_is_lost`: it may not have.
-/

namespace AnnotationBridge

open Lsp

namespace Workflow

variable {s t : Workflow} {act : Act} {acts : List Act} {e : EditorId} {v : String}
  {workspace : Workspace} {pool : ConnectionPool} {locate : Locator} {config : AnnotatorConfig}

/-! ### Announcements -/

/-- All that was announced so far. -/
def announced (s : Workflow) : List Event :=
  s.annotator.workbench.feed.emitted

/-- The event that something announces when it happens. -/
def Act.event? (s : Workflow) : Act → Option Event
  | .opened editor _ => some (.opened editor)
  | .closed editor => some (.closed editor)
  | .edited id _ _ => some (.changed id)
  | .published server params _ _ => some (.published params.uri.text server)
  | .applied _ r true => some (.applied r.editor (r.render s.annotator.markers).length)
  | _ => none

/-- **A step announces what happened in it**, and nothing else. -/
theorem Step.announced_eq (h : Step s act t) : t.announced = s.announced ++ (act.event? s).toList := by
  have quiet : s.announced = s.announced ++ [] := (List.append_nil _).symm
  have shows : ∀ (onUi : Bool) (r : PassResult),
      Workbench.feed (if s.annotator.accepts onUi r then
          s.annotator.workbench.emit (.applied r.editor (r.render s.annotator.markers).length)
        else s.annotator.workbench) =
        ⟨s.announced ++ (Act.event? s (.applied onUi r (s.annotator.accepts onUi r))).toList⟩ := by
    intro onUi r
    cases s.annotator.accepts onUi r with
    | false => exact congrArg EventFeed.mk quiet
    | true => rfl
  unfold announced at *
  cases h with
  | opened d fresh => exact Workbench.emitted_openDocument _ _ _
  | closed ok => exact (Workbench.emitted_close ok).1
  | edited ok =>
    obtain ⟨d, taken, buffer, -, -, rfl⟩ := Workbench.edit_eq_ok ok
    rfl
  | published =>
    simp only [Annotator.snd_publish]
    rfl
  | collected | begun | skipped =>
    simp only [Annotator.snd_collect]
    exact quiet
  | applied onUi atHand =>
    simp only [Annotator.snd_apply]
    exact congrArg EventFeed.emitted (shows onUi _)
  | performed next =>
    simp only [Annotator.perform, Annotator.snd_apply]
    exact congrArg EventFeed.emitted (shows true _)
  | _ => exact quiet

/-- A step announces something or nothing, and announces a closing only if it is one. -/
theorem Step.emits (h : Step s act t) :
    ∃ events, t.announced = s.announced ++ events ∧ ∀ e, .closed e ∈ events → act = .closed e := by
  refine ⟨_, h.announced_eq, fun e he => ?_⟩
  rw [Option.mem_toList] at he
  cases act with
  | closed editor =>
    cases he
    rfl
  | applied onUi r hasShown => cases hasShown <;> cases he
  | _ => cases he

/-- An editor whose closing was announced in a run was closed in it. -/
theorem Run.closed_of_announced (h : Run (start workspace pool locate config) acts t)
    (he : .closed e ∈ t.announced) : .closed e ∈ acts := by
  induction h with
  | nil => cases he
  | snoc run step ih =>
    obtain ⟨events, hevents, hclosed⟩ := step.emits
    rw [hevents] at he
    rcases List.mem_append.1 he with he | he
    · exact List.mem_append_left _ (ih he)
    · exact List.mem_append_right _ (List.mem_singleton.2 (hclosed e he).symm)

/-! ### What is held for a closed editor -/

/-- Nothing is held for an editor: no batch of markers, and no record of what was applied to it. -/
def Forgotten (s : Workflow) (e : EditorId) : Prop :=
  (∀ v, s.annotator.markers.batch? e v = none) ∧ s.recorded e = none

/-- Whether something that happened is meant to change what is held for an editor: the host changed
its markers by itself, or had the annotator release it. -/
def Act.Meddles (e : EditorId) : Act → Prop
  | .remarked c => ∃ v, c.Touches e v
  | .released editor _ => editor = e
  | _ => False

/-- Nothing else changes what is held for a closed editor. -/
theorem Step.held_eq (h : Step s act t) (closed : s.isOpen e = false) (alone : ¬ act.Meddles e) :
    (∀ v, t.annotator.markers.batch? e v = s.annotator.markers.batch? e v) ∧
      t.recorded e = s.recorded e := by
  constructor
  · intro v
    refine h.batch?_eq fun ht => ?_
    cases act with
    | published server params runtime editors =>
      cases (h.isOpen_of_published ht.1).symm.trans closed
    | remarked c => exact alone ⟨v, ht⟩
    | released editor stillOpen => exact alone ht
    | _ => exact ht
  · rcases h.shown_cases e with
      ⟨onUi, r, -, hed, hacc, -⟩ | ⟨rfl, -⟩ | ⟨-, -, hrec, -⟩ | ⟨-, hrec, -⟩
    · have hopen := (Annotator.accepts_eq_true_iff.1 hacc).2.1
      rw [hed] at hopen
      cases hopen.symm.trans closed
    · exact absurd rfl alone
    · exact hrec
    · exact hrec

/-- So it stays in a run in which nothing of that kind happens. -/
theorem Run.held_eq (h : Run s acts t) (known : e ∈ s.known) (closed : s.isOpen e = false)
    (alone : ∀ act ∈ acts, ¬ act.Meddles e) :
    (∀ v, t.annotator.markers.batch? e v = s.annotator.markers.batch? e v) ∧
      t.recorded e = s.recorded e := by
  induction h with
  | nil => exact ⟨fun _ => rfl, rfl⟩
  | snoc run step ih =>
    obtain ⟨hbatch, hrecorded⟩ := ih fun act ha => alone act (List.mem_append_left _ ha)
    obtain ⟨hbatch', hrecorded'⟩ := step.held_eq (run.isOpen_eq_false known closed).2
      (alone _ (List.mem_append_right _ List.mem_cons_self))
    exact ⟨fun v => (hbatch' v).trans (hbatch v), hrecorded'.trans hrecorded⟩

/-- A closed editor of which nothing is held stays so, unless the host puts markers there itself. -/
theorem Run.forgotten (h : Run s acts t) (known : e ∈ s.known) (closed : s.isOpen e = false)
    (direct : ∀ v d diagnostics, .remarked (.replace e v d diagnostics) ∉ acts)
    (hf : s.Forgotten e) : t.Forgotten e :=
  ⟨fun v => h.batch?_eq_none known closed (direct v) (hf.1 v),
    ((⟨known, closed, hf.2⟩ : Gone s e).run h).1.unrecorded⟩

end Workflow

/-! ### Followers -/

/-- A workflow with a loop that follows its events. -/
structure Follower where
  workflow : Workflow
  loop : Subscriber

namespace Follower

/-- The events so far. -/
def feed (f : Follower) : EventFeed :=
  f.workflow.annotator.workbench.feed

/-- The number of events so far. -/
def eventCount (f : Follower) : Nat :=
  f.feed.emitted.length

/-- Nothing has happened yet, and a loop follows from now on. -/
def start (workspace : Workspace) (pool : ConnectionPool) (locate : Locator)
    (config : AnnotatorConfig) : Follower :=
  ⟨.start workspace pool locate config, EventFeed.empty.subscribe⟩

/-- What happens while a loop follows. -/
inductive Turn where
  | act (act : Workflow.Act)
  | read (event : Event)

/-- One step: something happens, or the loop reads the next event that is kept for it, and the
annotator reacts. -/
inductive Step : Follower → Turn → Follower → Prop where
  | act {s t : Workflow} {act : Workflow.Act} (loop : Subscriber) (step : Workflow.Step s act t) :
      Step ⟨s, loop⟩ (.act act) ⟨t, loop⟩
  | read {f : Follower} {event : Event} {loop : Subscriber}
      (next : f.feed.next? f.loop = some (event, loop)) :
      Step f (.read event)
        ⟨{ f.workflow with annotator := (f.workflow.annotator.react event).2 }, loop⟩

/-- Any number of steps, with all that happened in them. -/
inductive Run (f : Follower) : List Turn → Follower → Prop where
  | nil : Run f [] f
  | snoc {turns : List Turn} {g h : Follower} {turn : Turn} (run : Run f turns g)
      (step : Step g turn h) : Run f (turns ++ [turn]) h

/-- A loop that has read everything. -/
def Idle (f : Follower) : Prop :=
  f.feed.next? f.loop = none

variable {f g k m t : Follower} {turn : Turn} {turns before after mid rest : List Turn}
  {event : Event} {e : EditorId} {workspace : Workspace} {pool : ConnectionPool} {locate : Locator}
  {config : AnnotatorConfig}

/-- One run can go on as another. -/
theorem Run.append (h : Run f turns g) (h' : Run g after t) : Run f (turns ++ after) t := by
  induction h' with
  | nil => rwa [List.append_nil]
  | snoc _ step ih =>
    rw [← List.append_assoc]
    exact ih.snoc step

/-- A run during which the loop reads nothing. -/
theorem Run.of_workflow {s t : Workflow} {acts : List Workflow.Act} (h : Workflow.Run s acts t)
    (loop : Subscriber) : Run ⟨s, loop⟩ (acts.map .act) ⟨t, loop⟩ := by
  induction h with
  | nil => exact .nil
  | snoc _ step ih =>
    rw [List.map_append]
    exact ih.snoc (.act loop step)

/-! ### Reading -/

/-- Reacting to an event announces nothing. -/
theorem workbench_react (a : Annotator) (event : Event) :
    (a.react event).2.workbench = a.workbench := by
  cases event with
  | changed document =>
    unfold Annotator.react
    dsimp only
    split <;> rfl
  | _ => rfl

/-- The loop reads an event that is not too old, and goes on after it. -/
theorem next?_eq_some (h : f.feed.next? f.loop = some (event, t.loop)) :
    ∃ i, f.feed.emitted[i]? = some event ∧ t.loop.position = i + 1 ∧ f.loop.position ≤ i ∧
      f.eventCount ≤ i + retainedEvents := by
  obtain ⟨event', hevent, heq⟩ := Option.map_eq_some_iff.1 h
  obtain ⟨rfl, hloop⟩ := Prod.mk.inj heq
  refine ⟨_, hevent, by rw [← hloop], Nat.le_max_left _ _, ?_⟩
  have hle : f.eventCount - retainedEvents ≤ f.feed.readPosition f.loop := Nat.le_max_right _ _
  omega

/-- A loop has read everything exactly if no event comes after its position. -/
theorem idle_iff : f.Idle ↔ f.eventCount ≤ f.loop.position := by
  unfold Idle EventFeed.next?
  rw [Option.map_eq_none_iff, List.getElem?_eq_none_iff]
  unfold EventFeed.readPosition eventCount
  have : 0 < retainedEvents := by decide
  omega

/-- **What a step does to the events**: some may be added, and that an editor was closed is added
only when it is closed. -/
theorem Step.emits (h : Step f turn g) :
    ∃ events, g.feed.emitted = f.feed.emitted ++ events ∧
      ∀ e, .closed e ∈ events → turn = .act (.closed e) := by
  cases h with
  | act loop step =>
    obtain ⟨events, hevents, hclosed⟩ := step.emits
    exact ⟨events, hevents, fun e he => congrArg Turn.act (hclosed e he)⟩
  | @read _ event loop next =>
    refine ⟨[], ?_, fun e he => absurd he List.not_mem_nil⟩
    show (f.workflow.annotator.react event).2.workbench.feed.emitted = _
    rw [workbench_react, List.append_nil]
    rfl

/-- Events are added, and none is taken back. -/
theorem Step.eventCount_le (h : Step f turn g) : f.eventCount ≤ g.eventCount := by
  obtain ⟨events, hevents, -⟩ := h.emits
  unfold eventCount
  rw [hevents, List.length_append]
  exact Nat.le_add_right _ _

/-- The loop never reads an event twice. -/
theorem Step.position_le (h : Step f turn g) : f.loop.position ≤ g.loop.position := by
  cases h with
  | act loop step => exact Nat.le_refl _
  | @read _ event loop next =>
    obtain ⟨i, -, hloop, hle, -⟩ := next?_eq_some (t := ⟨f.workflow, loop⟩) next
    exact hloop ▸ Nat.le_succ_of_le hle

/-- A loop does not read ahead. -/
theorem Step.position_le_eventCount (h : Step f turn g) (hf : f.loop.position ≤ f.eventCount) :
    g.loop.position ≤ g.eventCount := by
  have hle := h.eventCount_le
  cases h with
  | act loop step => exact Nat.le_trans hf hle
  | @read _ event loop next =>
    obtain ⟨i, hi, hloop, -, -⟩ := next?_eq_some (t := ⟨f.workflow, loop⟩) next
    obtain ⟨hlt, -⟩ := List.getElem?_eq_some_iff.1 hi
    exact hloop ▸ Nat.le_trans hlt hle

/-- Events are added in the course of a run. -/
theorem Run.eventCount_le (h : Run f turns g) : f.eventCount ≤ g.eventCount := by
  induction h with
  | nil => exact Nat.le_refl _
  | snoc _ step ih => exact Nat.le_trans ih step.eventCount_le

/-- The loop reads on in the course of a run. -/
theorem Run.position_le (h : Run f turns g) : f.loop.position ≤ g.loop.position := by
  induction h with
  | nil => exact Nat.le_refl _
  | snoc _ step ih => exact Nat.le_trans ih step.position_le

/-- The loop reads no event before it is announced. -/
theorem Run.position_le_eventCount (h : Run (start workspace pool locate config) turns f) :
    f.loop.position ≤ f.eventCount := by
  induction h with
  | nil => exact Nat.le_refl _
  | snoc _ step ih => exact step.position_le_eventCount ih

/-- What happened in a run happened in a step of it. -/
theorem Run.exists_step (h : Run f turns g) (ht : turn ∈ turns) :
    ∃ mid rest k k', turns = mid ++ turn :: rest ∧ Run f mid k ∧ Step k turn k' ∧ Run k' rest g := by
  induction h with
  | nil => cases ht
  | @snoc turns g h last run step ih =>
    rcases List.mem_append.1 ht with ht | ht
    · obtain ⟨mid, rest, k, k', rfl, toK, stepK, fromK⟩ := ih ht
      exact ⟨mid, rest ++ [last], k, k', List.append_assoc _ _ _, toK, stepK, fromK.snoc step⟩
    · obtain rfl := List.mem_singleton.1 ht
      exact ⟨turns, [], g, h, rfl, run, step, .nil⟩

/-! ### What goes on while a loop follows is a run -/

/-- **A step of a follower is a step of the workflow or none.** What the loop adds is that editors
are released of which it reads that they were closed. -/
theorem Step.workflow (h : Step f turn g)
    (known : ∀ e, .closed e ∈ f.workflow.announced → e ∈ f.workflow.known) :
    ∃ acts, Workflow.Run f.workflow acts g.workflow ∧ ∀ act ∈ acts, turn = .act act ∨
      ∃ e stillOpen, turn = .read (.closed e) ∧ act = .released e stillOpen := by
  cases h with
  | act loop step =>
    exact ⟨_, Workflow.Run.nil.snoc step, fun act ha => .inl (by rw [List.mem_singleton.1 ha])⟩
  | @read _ event loop next =>
    have same : (f.workflow.annotator.react event).2 = f.workflow.annotator →
        ∃ acts, Workflow.Run f.workflow acts
          { f.workflow with annotator := (f.workflow.annotator.react event).2 } ∧
          ∀ act ∈ acts, Turn.read event = .act act ∨
            ∃ e stillOpen, Turn.read event = .read (.closed e) ∧ act = .released e stillOpen :=
      fun heq => ⟨[], by rw [heq]; exact .nil, fun act ha => absurd ha List.not_mem_nil⟩
    cases event with
    | closed e =>
      obtain ⟨i, hi, -⟩ := next?_eq_some (t := ⟨f.workflow, loop⟩) next
      refine ⟨_, Workflow.Run.nil.snoc (.released (known e (List.mem_of_getElem? hi))),
        fun act ha => .inr ⟨e, _, rfl, List.mem_singleton.1 ha⟩⟩
    | changed document =>
      refine same ?_
      unfold Annotator.react
      dsimp only
      split <;> rfl
    | opened | published | applied => exact same rfl

/-- Editors that were announced as closed are known. -/
theorem known_of_announced {s : Workflow} {acts : List Workflow.Act}
    (h : Workflow.Run (.start workspace pool locate config) acts s) :
    ∀ e, .closed e ∈ s.announced → e ∈ s.known :=
  fun _ he => (h.isOpen_of_closed (h.closed_of_announced he)).1

/-- A run of a follower is a run of the workflow. -/
theorem Run.workflow (h : Run f turns g) {earlier : List Workflow.Act}
    (reached : Workflow.Run (.start workspace pool locate config) earlier f.workflow) :
    ∃ acts, Workflow.Run f.workflow acts g.workflow ∧ ∀ act ∈ acts, .act act ∈ turns ∨
      ∃ e stillOpen, .read (.closed e) ∈ turns ∧ act = .released e stillOpen := by
  induction h with
  | nil => exact ⟨[], .nil, fun act ha => absurd ha List.not_mem_nil⟩
  | @snoc turns g h turn run step ih =>
    obtain ⟨acts, run', hacts⟩ := ih
    obtain ⟨more, run'', hmore⟩ := step.workflow (known_of_announced (reached.append run'))
    refine ⟨acts ++ more, run'.append run'', fun act ha => ?_⟩
    rcases List.mem_append.1 ha with ha | ha
    · rcases hacts act ha with hact | ⟨e, stillOpen, hread, hact⟩
      · exact .inl (List.mem_append_left _ hact)
      · exact .inr ⟨e, stillOpen, List.mem_append_left _ hread, hact⟩
    · rcases hmore act ha with rfl | ⟨e, stillOpen, rfl, hact⟩
      · exact .inl (List.mem_append_right _ List.mem_cons_self)
      · exact .inr ⟨e, stillOpen, List.mem_append_right _ List.mem_cons_self, hact⟩

/-! ### The closing of an editor -/

/-- An editor is closed for good, and this was announced by the event of the given number only. -/
structure ClosedAt (e : EditorId) (n : Nat) (f : Follower) : Prop where
  known : e ∈ f.workflow.known
  closed : f.workflow.isOpen e = false
  place : ∀ i, f.feed.emitted[i]? = some (.closed e) ↔ i = n

/-- An editor that is closed now is closed for good. -/
theorem Step.closedAt (h : Step f (.act (.closed e)) m) {acts : List Workflow.Act}
    (reached : Workflow.Run (.start workspace pool locate config) acts f.workflow) :
    ClosedAt e f.eventCount m := by
  cases h with
  | @act s t act loop step =>
    have hclosed := (reached.snoc step).isOpen_of_closed
      (List.mem_append_right _ (List.mem_singleton_self (Workflow.Act.closed e)))
    refine ⟨hclosed.1, hclosed.2, fun i => ?_⟩
    cases step with
    | @closed _ w ok =>
      obtain ⟨hemitted, hopen⟩ := Workbench.emitted_close ok
      have hfirst : .closed e ∉ s.announced := fun he => by
        cases hopen.symm.trans (reached.isOpen_of_closed (reached.closed_of_announced he)).2
      have hevents : w.feed.emitted = s.announced ++ [.closed e] := hemitted
      show w.feed.emitted[i]? = _ ↔ i = s.announced.length
      rw [hevents]
      rcases Nat.lt_trichotomy i s.announced.length with hlt | rfl | hgt
      · rw [List.getElem?_append_left hlt]
        exact iff_of_false (fun hi => hfirst (List.mem_of_getElem? hi)) (Nat.ne_of_lt hlt)
      · simp
      · have hlength : (s.announced ++ [Event.closed e]).length ≤ i := by
          rw [List.length_append]
          exact hgt
        rw [List.getElem?_eq_none hlength]
        exact iff_of_false (fun hi => by cases hi) (Nat.ne_of_gt hgt)

/-- It stays so. -/
theorem ClosedAt.step {n : Nat} (hc : ClosedAt e n f) (h : Step f turn g)
    {acts : List Workflow.Act}
    (reached : Workflow.Run (.start workspace pool locate config) acts f.workflow) :
    ClosedAt e n g := by
  obtain ⟨more, run, -⟩ := h.workflow (known_of_announced reached)
  obtain ⟨hknown, hclosed⟩ := run.isOpen_eq_false hc.known hc.closed
  refine ⟨hknown, hclosed, fun i => ?_⟩
  obtain ⟨events, hevents, hnew⟩ := h.emits
  -- The closing is not announced again, since the editor would have to be open.
  have hagain : .closed e ∉ events := fun he => by
    obtain rfl := hnew e he
    cases h with
    | act loop step =>
      cases step with
      | closed ok => cases (Workbench.emitted_close ok).2.symm.trans hc.closed
  rw [hevents]
  by_cases hi : i < f.feed.emitted.length
  · rw [List.getElem?_append_left hi]
    exact hc.place i
  · have hn : n < f.feed.emitted.length :=
      (List.getElem?_eq_some_iff.1 ((hc.place n).2 rfl)).1
    rw [List.getElem?_append_right (Nat.le_of_not_lt hi)]
    exact iff_of_false (fun he => hagain (List.mem_of_getElem? he)) (by omega)

/-- What was closed stays closed in the course of a run. -/
theorem ClosedAt.run {n : Nat} (hc : ClosedAt e n f) (h : Run f turns g)
    {acts : List Workflow.Act}
    (reached : Workflow.Run (.start workspace pool locate config) acts f.workflow) :
    ClosedAt e n g := by
  induction h with
  | nil => exact hc
  | snoc run step ih =>
    obtain ⟨more, run', -⟩ := run.workflow reached
    exact ih.step step (reached.append run')

/-- Where the loop is when it reads that an editor was closed. -/
theorem ClosedAt.read {n : Nat} (hc : ClosedAt e n f) (h : Step f (.read (.closed e)) g) :
    f.loop.position ≤ n ∧ g.loop.position = n + 1 ∧ f.eventCount ≤ n + retainedEvents := by
  cases h with
  | @read _ _ loop next =>
    obtain ⟨i, hi, hloop, hle, hcount⟩ := next?_eq_some (t := ⟨f.workflow, loop⟩) next
    obtain rfl := (hc.place i).1 hi
    exact ⟨hle, hloop, hcount⟩

/-- As long as a certain event was unread, at most so many events as are kept came from it on. -/
def InTime (n : Nat) (m : Follower) (turns : List Turn) (t : Follower) : Prop :=
  ∀ mid rest k, turns = mid ++ rest → Run m mid k → Run k rest t → k.loop.position ≤ n →
    k.eventCount ≤ n + retainedEvents

/-- **A loop that was not too far behind has read the closing of an editor.** -/
theorem Run.exists_read {n : Nat} (h : Run m turns t) (hc : ClosedAt e n m)
    {acts : List Workflow.Act}
    (reached : Workflow.Run (.start workspace pool locate config) acts m.workflow)
    (unread : m.loop.position ≤ n) (read : n < t.loop.position) (intime : InTime n m turns t) :
    ∃ mid rest k k', turns = mid ++ .read (.closed e) :: rest ∧ Run m mid k ∧
      Step k (.read (.closed e)) k' ∧ Run k' rest t := by
  induction h with
  | nil => exact absurd read (Nat.not_lt.2 unread)
  | @snoc turns u t turn run step ih =>
    by_cases hu : n < u.loop.position
    · have intime' : InTime n m turns u := fun mid rest k heq toK fromK hk =>
        intime mid (rest ++ [turn]) k (by rw [heq, List.append_assoc]) toK (fromK.snoc step) hk
      obtain ⟨mid, rest, k, k', rfl, toK, stepK, fromK⟩ := ih hu intime'
      exact ⟨mid, rest ++ [turn], k, k', List.append_assoc _ _ _, toK, stepK, fromK.snoc step⟩
    · -- The position passes the event in this step, so the step reads it.
      have hcu := hc.run run reached
      have hcount := intime turns [turn] u rfl run (Run.nil.snoc step) (Nat.le_of_not_lt hu)
      cases step with
      | act loop step => exact absurd read hu
      | @read _ event loop next =>
        have hread : n < loop.position := read
        have hnext := next
        obtain ⟨event', hevent, heq⟩ := Option.map_eq_some_iff.1 next
        obtain ⟨rfl, rfl⟩ := Prod.mk.inj heq
        have hposition : u.feed.readPosition u.loop = n := by
          have hmax : u.feed.readPosition u.loop =
              max u.loop.position (u.eventCount - retainedEvents) := rfl
          have : n < u.feed.readPosition u.loop + 1 := hread
          omega
        rw [hposition, (hcu.place n).2 rfl] at hevent
        obtain rfl := Option.some.inj hevent
        exact ⟨turns, [], u, _, rfl, run, .read hnext, .nil⟩

/-- **A loop that was too far behind does not read the closing of an editor**, before or after. -/
theorem Run.not_read {n : Nat} (h : Run m mid k) (h' : Run k rest t) (hc : ClosedAt e n m)
    {acts : List Workflow.Act}
    (reached : Workflow.Run (.start workspace pool locate config) acts m.workflow)
    (unread : k.loop.position ≤ n) (behind : n + retainedEvents < k.eventCount) :
    .read (.closed e) ∉ mid ++ rest := by
  intro hmem
  rcases List.mem_append.1 hmem with hmem | hmem
  · obtain ⟨first, last, u, u', -, toU, step, fromU⟩ := h.exists_step hmem
    have hposition := ((hc.run toU reached).read step).2.1
    have := fromU.position_le
    omega
  · obtain ⟨first, last, u, u', -, toU, step, fromU⟩ := h'.exists_step hmem
    obtain ⟨more, run, -⟩ := h.workflow reached
    have hcount := (((hc.run h reached).run toU (reached.append run)).read step).2.2
    have := toU.eventCount_le
    omega

/-- What the loop has read is forgotten. -/
theorem Step.forgotten (h : Step f (.read (.closed e)) g) (closed : f.workflow.isOpen e = false)
    {acts : List Workflow.Act}
    (reached : Workflow.Run (.start workspace pool locate config) acts f.workflow) :
    g.workflow.Forgotten e := by
  cases h with
  | @read _ _ loop next =>
    obtain ⟨i, hi, -⟩ := next?_eq_some (t := ⟨f.workflow, loop⟩) next
    have known := known_of_announced reached e (List.mem_of_getElem? hi)
    obtain ⟨hgone, hbatches, -⟩ := (Workflow.Step.released (s := f.workflow) known).gone_of_released
      (reached.sound .start).attached closed
    exact ⟨hbatches, hgone.unrecorded⟩

/-- What the loop has not read is kept, unless the host does something about it itself. -/
theorem Run.held_eq {n : Nat} (h : Run m turns t) (hc : ClosedAt e n m)
    {acts : List Workflow.Act}
    (reached : Workflow.Run (.start workspace pool locate config) acts m.workflow)
    (alone : ∀ act, .act act ∈ turns → ¬ act.Meddles e) (unread : .read (.closed e) ∉ turns) :
    (∀ v, t.workflow.annotator.markers.batch? e v = m.workflow.annotator.markers.batch? e v) ∧
      t.workflow.recorded e = m.workflow.recorded e := by
  obtain ⟨more, run, hmore⟩ := h.workflow reached
  refine run.held_eq hc.known hc.closed fun act ha => ?_
  rcases hmore act ha with hact | ⟨e', stillOpen, hread, rfl⟩
  · exact alone act hact
  · rintro rfl
    exact unread hread

/-- **A loop that was not too far behind has forgotten the editor**, unless the host puts markers
there itself. -/
theorem Run.forgotten_of_inTime {n : Nat} (h : Run m turns t) (hc : ClosedAt e n m)
    {acts : List Workflow.Act}
    (reached : Workflow.Run (.start workspace pool locate config) acts m.workflow)
    (alone : ∀ act, .act act ∈ turns → ¬ act.Meddles e) (unread : m.loop.position ≤ n)
    (idle : t.Idle) (intime : InTime n m turns t) : t.workflow.Forgotten e := by
  have read : n < t.loop.position := by
    have hlt := (List.getElem?_eq_some_iff.1 ((hc.place _).2 rfl)).1
    exact Nat.lt_of_lt_of_le hlt (Nat.le_trans h.eventCount_le (idle_iff.1 idle))
  obtain ⟨mid, rest, k, k', hturns, toK, stepK, fromK⟩ := h.exists_read hc reached unread read intime
  -- The editor is forgotten when its closing is read, and what follows does not bring it back.
  obtain ⟨acts₁, run₁, -⟩ := toK.workflow reached
  have reachedK := reached.append run₁
  obtain ⟨acts₂, run₂, -⟩ := stepK.workflow (known_of_announced reachedK)
  obtain ⟨acts₃, run₃, hacts₃⟩ := fromK.workflow (reachedK.append run₂)
  have hck := hc.run toK reached
  have hck' := hck.step stepK reachedK
  refine run₃.forgotten hck'.known hck'.closed (fun v d diagnostics ha => ?_)
    (stepK.forgotten hck.closed reachedK)
  rcases hacts₃ _ ha with hact | ⟨e', stillOpen, -, heq⟩
  · refine alone (.remarked (.replace e v d diagnostics)) ?_ ⟨v, rfl, rfl⟩
    rw [hturns]
    exact List.mem_append_right _ (List.mem_cons_of_mem _ hact)
  · cases heq

/-- **When a closed editor is forgotten.** A loop that follows the events from the start and has
read all that there is to read has forgotten a closed editor, its markers and the record of what was
applied to it, exactly if the loop was never too far behind while the closing was unread, or if
there was nothing to forget. The host is not to change what is held for the editor by itself. -/
theorem Run.forgotten_iff (h : Run (start workspace pool locate config) before f)
    (close : Step f (.act (.closed e)) m) (later : Run m after t) (idle : t.Idle)
    (alone : ∀ act, .act act ∈ after → ¬ act.Meddles e) :
    ((∀ v, t.workflow.annotator.markers.batch? e v = none) ∧
        t.workflow.annotator.appliedPass? e = none) ↔
      (∀ mid rest k, after = mid ++ rest → Run m mid k → Run k rest t →
          k.loop.position ≤ f.eventCount → k.eventCount ≤ f.eventCount + retainedEvents) ∨
        ((∀ v, m.workflow.annotator.markers.batch? e v = none) ∧
          m.workflow.annotator.appliedPass? e = none) := by
  show t.workflow.Forgotten e ↔ InTime f.eventCount m after t ∨ m.workflow.Forgotten e
  obtain ⟨acts, reached, -⟩ := h.workflow (.nil (s := .start workspace pool locate config))
  obtain ⟨more, closing, -⟩ := close.workflow (known_of_announced reached)
  have reachedM := reached.append closing
  have hc : ClosedAt e f.eventCount m := close.closedAt reached
  have unread : m.loop.position ≤ f.eventCount := by
    cases close with
    | act loop step => exact h.position_le_eventCount
  by_cases intime : InTime f.eventCount m after t
  · exact iff_of_true (later.forgotten_of_inTime hc reachedM alone unread idle intime) (.inl intime)
  · have hbehind := intime
    unfold InTime at hbehind
    push Not at hbehind
    obtain ⟨mid, rest, k, rfl, toK, fromK, hposition, hcount⟩ := hbehind
    obtain ⟨hbatch, hrecorded⟩ := later.held_eq hc reachedM alone
      (toK.not_read fromK hc reachedM hposition hcount)
    rw [or_iff_right intime]
    unfold Workflow.Forgotten
    rw [hrecorded, funext hbatch]

/-! ### A loop that keeps up -/

namespace Sample

open Workflow.Sample

/-- The state in which nothing has happened yet. -/
def initial : Follower :=
  start ⟨.ofString "/w"⟩ Workflow.Sample.initial.annotator.pool tokenLocator ⟨1000, true⟩

/-- A server publishes about the document while it is open. -/
def shownOnce : List Turn :=
  [.act (.opened editor document), .act (.published "x" (params "x") true [editor])]

/-- The loop reads all that has happened. -/
def caughtUp : List Turn :=
  [.read (.opened editor), .read (.published document.uri.text "x"), .read (.closed editor)]

/-- The editor is opened, gets markers and is closed, and only then the loop reads all three events.
-/
theorem caught_up_run : ∃ f m t, Run initial shownOnce f ∧ Step f (.act (.closed editor)) m ∧
    Run m caughtUp t ∧ t.Idle ∧ f.eventCount = 2 ∧ t.eventCount = 3 ∧
    (m.workflow.annotator.markers.batch? editor "x").isSome = true := by
  have h₁ := (Run.nil (f := initial)).snoc (.act _
    (.opened document (show editor ∉ initial.workflow.known by decide)))
  have h₂ := h₁.snoc (.act _ (.published "x" (params "x") true))
  have next : ∀ {f g h : Follower} {turns : List Turn} {turn : Turn},
      Run f turns g → Step g turn h → Step g turn h := fun _ => id
  have c := next h₂ (.act _ (.closed (Workbench.close_of_isOpen
    (show Workbench.isOpen _ editor = true by cbv))))
  have fresh : ∀ {f g : Follower} {turns : List Turn}, Run f turns g → Run g [] g := fun _ => .nil
  have k₁ := (fresh (h₂.snoc c)).snoc (.read (show _ = some (.opened editor, ⟨1⟩) by cbv))
  have k₂ := k₁.snoc (.read (show _ = some (.published document.uri.text "x", ⟨2⟩) by cbv))
  have k₃ := k₂.snoc (.read (show _ = some (.closed editor, ⟨3⟩) by cbv))
  refine ⟨_, _, _, Eq.mp (congrArg (Run initial · _) ?_) h₂, c, k₃, ?_, ?_, ?_, ?_⟩
  · cbv
  · show _ = none
    cbv
  all_goals cbv

end Sample

/-- A loop that reads three events at once has forgotten the editor, which had markers when it was
closed. -/
theorem forgotten_iff_caught_up : ∃ m t, Run m Sample.caughtUp t ∧
    (m.workflow.annotator.markers.batch? Workflow.Sample.editor "x").isSome = true ∧
    t.workflow.annotator.markers.batch? Workflow.Sample.editor "x" = none := by
  obtain ⟨f, m, t, run, close, later, idle, hf, ht, hbatch⟩ := Sample.caught_up_run
  have forgotten := (Run.forgotten_iff run close later idle fun act ha => by
    simp [Sample.caughtUp] at ha).2 (.inl fun mid rest k _ _ fromK _ => by
      have hle := fromK.eventCount_le
      rw [hf]
      exact Nat.le_trans hle (by rw [ht]; decide))
  exact ⟨m, t, later, hbatch, forgotten.1 "x"⟩

/-! ### A loop that falls behind -/

/-- A loop can read until it has read everything. -/
theorem exists_run_idle (f : Follower) :
    ∃ (events : List Event) (t : Follower), Run f (events.map .read) t ∧ t.Idle := by
  induction hn : f.eventCount - f.loop.position using Nat.strong_induction_on generalizing f with
  | _ n ih =>
  cases hnext : f.feed.next? f.loop with
  | none => exact ⟨[], f, .nil, hnext⟩
  | some entry =>
    obtain ⟨event, loop⟩ := entry
    have step : Step f (.read event) _ := .read hnext
    obtain ⟨i, hi, hloop, hle, -⟩ := next?_eq_some (t := ⟨f.workflow, loop⟩) hnext
    obtain ⟨hlt, -⟩ := List.getElem?_eq_some_iff.1 hi
    have hcount : eventCount ⟨{ f.workflow with
        annotator := (f.workflow.annotator.react event).2 }, loop⟩ = f.eventCount := by
      show (f.workflow.annotator.react event).2.workbench.feed.emitted.length = _
      rw [workbench_react]
      rfl
    have hloop' : loop.position = i + 1 := hloop
    have hlt' : i < f.eventCount := hlt
    obtain ⟨events, t, run, idle⟩ := ih _ (by rw [hcount]; show _ - loop.position < n; omega) _ rfl
    exact ⟨event :: events, t, (Run.nil.snoc step).append run, idle⟩

/-- A server can publish any number of times, each time announcing that. -/
theorem exists_run_publishes (s : Workflow) (server : String) (params : PublishParams) (n : Nat) :
    ∃ acts t, Workflow.Run s acts t ∧ t.announced.length = s.announced.length + n ∧
      ∀ act ∈ acts, ∃ editors, act = .published server params false editors := by
  induction n with
  | zero => exact ⟨[], s, .nil, rfl, fun act ha => absurd ha List.not_mem_nil⟩
  | succ n ih =>
    obtain ⟨acts, t, run, hcount, hacts⟩ := ih
    refine ⟨_, _, run.snoc (.published server params false), ?_, fun act ha => ?_⟩
    · unfold Workflow.announced
      simp only [Annotator.snd_publish]
      show (t.announced ++ [_]).length = _
      rw [List.length_append, hcount]
      rfl
    · rcases List.mem_append.1 ha with ha | ha
      · exact hacts act ha
      · exact ⟨_, List.mem_singleton.1 ha⟩

/-- An editor that has markers and a record is closed while the loop has read nothing. -/
theorem Sample.closing_run : ∃ s m acts, Workflow.Run Workflow.Sample.initial acts s ∧
    (∀ act ∈ acts, ∀ e, ¬ act.Meddles e) ∧
    Workflow.Step s (.closed Workflow.Sample.editor) m ∧
    (m.annotator.markers.batch? Workflow.Sample.editor "x").isSome = true ∧
    m.recorded Workflow.Sample.editor = some 1 := by
  obtain ⟨s, -, run, -, ⟨hresults, hopen, hrecorded, hx, -⟩, -⟩ := Workflow.Sample.run
  have apply := Workflow.Step.applied true
    (show s.results.Perm (Workflow.Sample.result 1 1 :: []) by rw [hresults])
  have hacc : s.annotator.accepts true (Workflow.Sample.result 1 1) = true :=
    Annotator.accepts_eq_true_iff.2 ⟨rfl, hopen, fun n hn => by cases hrecorded.symm.trans hn⟩
  have close := Workflow.Step.closed (Workbench.close_of_isOpen
    ((apply.isOpen_eq Workflow.Sample.editor).trans hopen))
  refine ⟨_, _, _, run.snoc apply, fun act ha e => ?_, close, ?_, ?_⟩
  · simp only [Workflow.Sample.begun, List.mem_append, List.mem_cons, List.not_mem_nil,
      or_false] at ha
    rcases ha with (rfl | rfl | rfl | rfl | rfl | rfl) | rfl <;> exact id
  · rw [close.batch?_eq (fun h => h), apply.batch?_eq (fun h => h)]
    unfold MarkerStore.collect at hx
    cases hb : s.annotator.markers.batch? Workflow.Sample.editor "x" with
    | none => rw [hb] at hx; cases hx
    | some b => rfl
  · show (s.annotator.apply true (Workflow.Sample.result 1 1)).2.appliedPass? _ = some 1
    rw [Annotator.apply_of_accepts hacc]
    exact FiniteMap.get?_insert_self _ _ _

/-- **The loop can forget a closing.** An editor with markers and a record is closed, and a server
publishes 256 times before the loop reads anything. The loop then reads all that there is to read;
it does not read that the editor was closed, and the markers and the record stay. -/
theorem closing_is_lost :
    ∃ turns t, Run (start ⟨.ofString "/w"⟩ Workflow.Sample.initial.annotator.pool tokenLocator
        ⟨1000, true⟩) turns t ∧ t.Idle ∧
      (∀ act, .act act ∈ turns → ∀ e, ¬ act.Meddles e) ∧
      .act (.closed Workflow.Sample.editor) ∈ turns ∧
      t.workflow.isOpen Workflow.Sample.editor = false ∧
      (t.workflow.annotator.markers.batch? Workflow.Sample.editor "x").isSome = true ∧
      t.workflow.annotator.appliedPass? Workflow.Sample.editor = some 1 := by
  obtain ⟨s, m, acts, reached, hacts, close, hbatch, hrecorded⟩ := Sample.closing_run
  obtain ⟨burst, k, publishes, hcount, hburst⟩ :=
    exists_run_publishes m "y" (Workflow.Sample.params "y") retainedEvents
  let loop : Subscriber := EventFeed.empty.subscribe
  have toM := (Run.of_workflow reached loop).snoc (.act loop close)
  have toK := Run.of_workflow publishes loop
  obtain ⟨events, t, fromK, idle⟩ := exists_run_idle ⟨k, loop⟩
  have reachedM := reached.snoc close
  have hc : ClosedAt Workflow.Sample.editor s.announced.length ⟨m, loop⟩ :=
    (Step.act loop close).closedAt reached
  have hclosing : s.announced.length < m.announced.length :=
    (List.getElem?_eq_some_iff.1 ((hc.place _).2 rfl)).1
  have behind : s.announced.length + retainedEvents < eventCount ⟨k, loop⟩ := by
    show _ < k.announced.length
    omega
  have unread := toK.not_read fromK hc reachedM (Nat.zero_le _) behind
  have quiet : ∀ act, .act act ∈ burst.map Turn.act ++ events.map .read → ∀ e,
      ¬ act.Meddles e := by
    intro act ha e
    rcases List.mem_append.1 ha with ha | ha
    · obtain ⟨act', ha', heq⟩ := List.mem_map.1 ha
      obtain rfl := Turn.act.inj heq
      obtain ⟨editors, rfl⟩ := hburst _ ha'
      exact id
    · obtain ⟨_, -, heq⟩ := List.mem_map.1 ha
      cases heq
  obtain ⟨hbatch', hrecorded'⟩ := (toK.append fromK).held_eq hc reachedM
    (fun act ha => quiet act ha _) unread
  have hct := hc.run (toK.append fromK) reachedM
  refine ⟨_, t, toM.append (toK.append fromK), idle, fun act ha e => ?_, ?_, hct.closed, ?_, ?_⟩
  · rcases List.mem_append.1 ha with ha | ha
    · rcases List.mem_append.1 ha with ha | ha
      · obtain ⟨act', ha', heq⟩ := List.mem_map.1 ha
        obtain rfl := Turn.act.inj heq
        exact hacts _ ha' e
      · obtain rfl := Turn.act.inj (List.mem_singleton.1 ha)
        exact id
    · exact quiet act ha e
  · exact List.mem_append_left _ (List.mem_append_right _ List.mem_cons_self)
  · rw [hbatch']
    exact hbatch
  · exact hrecorded'.trans hrecorded

end Follower

end AnnotationBridge
