import AnnotationBridge.Proofs.Workflow

/-!
# Running what waits for the UI thread

The tasks that an annotator queues perform one action each. Running its queue performs them in order
and on the UI thread, and is part of a run.

* `UiThread.finish_perform`: a queue of such tasks, run to its end.
* `Annotator.runUi_eq`: what this does to an annotator.
* `Workflow.Plain`, `Workflow.Run.plain`: nothing else is ever queued.
* `Workflow.Run.exists_run_runUi`: running the queue is a run that uses the queued results in order.
-/

namespace AnnotationBridge

namespace UiThread

variable {α : Type} {t t' : UiThread α}

/-- A thread that makes a step ends as it does after that step. -/
theorem finish_of_step? (h : t.step? = some t') : t.finish = t'.finish := by
  rw [finish]
  split
  · cases h.symm.trans ‹_›
  · obtain rfl := Option.some.inj (h.symm.trans ‹_›)
    rfl

/-- A thread that makes no step has ended. -/
theorem finish_of_step?_eq_none (h : t.step? = none) : t.finish = t := by
  rw [finish]
  split
  · rfl
  · cases h.symm.trans ‹_›

/-- A thread that runs tasks of one action each performs the actions in order, with the mark that it
has, and counts the tasks. -/
theorem finish_perform (onUi before : Bool) (log : List (α × Bool)) (ended : Option (Option Nat))
    (left : List (UiTask α)) (ran : Nat) (actions : List α) :
    finish ⟨onUi, [⟨before, [], actions.map (.perform · []), ran⟩], log, ended, left⟩ =
      ⟨before, [], log ++ actions.map (·, onUi), some (some (ran + actions.length)), left⟩ := by
  induction actions generalizing log ran with
  | nil =>
    have hend : step? ⟨onUi, [⟨before, [], [], ran⟩], log, ended, left⟩ =
        some ⟨before, [], log, some (some ran), left⟩ := rfl
    rw [List.map_nil, finish_of_step? hend, List.map_nil, List.append_nil]
    exact finish_of_step?_eq_none rfl
  | cons action actions ih =>
    -- The task is taken from the queue, and then its action is performed.
    have htake : step? ⟨onUi, [⟨before, [], (action :: actions).map (.perform · []), ran⟩], log,
        ended, left⟩ = some ⟨onUi, [⟨before, [.perform action], actions.map (.perform · []),
          ran + 1⟩], log, ended, left⟩ := rfl
    have hperform : step? ⟨onUi, [⟨before, [.perform action], actions.map (.perform · []),
        ran + 1⟩], log, ended, left⟩ = some ⟨onUi, [⟨before, [], actions.map (.perform · []),
          ran + 1⟩], log ++ [(action, onUi)], ended, left⟩ := rfl
    rw [finish_of_step? htake, finish_of_step? hperform, ih, List.map_cons, List.length_cons,
      List.append_assoc, List.singleton_append, Nat.add_assoc, Nat.add_comm 1]

end UiThread

namespace Annotator

variable {a : Annotator} {actions : List UiAction}

/-- Performing an action does not touch what is queued, and does not depend on it. -/
theorem perform_withPending (a : Annotator) (tasks : List (UiTask UiAction)) (action : UiAction)
    (onUi : Bool) :
    (a.withPending tasks).perform action onUi = (a.perform action onUi).withPending tasks := by
  cases action with
  | apply r =>
    rw [perform, perform, snd_apply, snd_apply]
    rfl
  | clear editor => rfl

/-- An action leaves the queue of the UI thread as it is. -/
theorem ui_perform (a : Annotator) (action : UiAction) (onUi : Bool) :
    (a.perform action onUi).ui = a.ui := by
  cases action with
  | apply r => rw [perform, snd_apply]
  | clear editor => rfl

/-- So do several actions. -/
theorem ui_foldl_perform (a : Annotator) (actions : List UiAction) :
    (actions.foldl (fun a action => a.perform action true) a).ui = a.ui := by
  induction actions generalizing a with
  | nil => rfl
  | cons action actions ih => rw [List.foldl_cons, ih, ui_perform]

/-- **What running the queue does**: all actions are performed in order, on the UI thread. -/
theorem runUi_eq (h : a.ui.pending = actions.map (.perform · [])) :
    a.runUi = (actions.length,
      actions.foldl (fun a action => a.perform action true) (a.withPending [])) := by
  have hthread : UiThread.runPending false a.ui.pending =
      ⟨false, [], actions.map (·, true), some (some actions.length), []⟩ := by
    rw [h, UiThread.runPending, UiThread.start, UiThread.finish_perform, List.nil_append,
      Nat.zero_add]
  unfold runUi UiQueue.runPending
  dsimp only
  rw [hthread]
  simp only [List.foldl_map]
  rfl

end Annotator

namespace Workflow

variable {s t : Workflow} {act : Act} {acts : List Act}

/-- Each task that waits for the UI thread performs one action. -/
def Plain (s : Workflow) : Prop :=
  ∃ actions : List UiAction, s.annotator.ui.pending = actions.map (.perform · [])

/-- A task that is queued keeps it so, as long as there is a UI thread. -/
theorem plain_queue {a : Annotator} {actions : List UiAction} (ha : a.ui.attached = true)
    (h : a.ui.pending = actions.map (.perform · [])) (action : UiAction) :
    (a.queue action).ui.pending = (actions ++ [action]).map (.perform · []) := by
  rw [Annotator.pending_queue ha, h, List.map_append]
  rfl

/-- So does any step. -/
theorem Step.plain (h : Step s act t) (ha : s.annotator.ui.attached = true) (hs : s.Plain) :
    t.Plain := by
  obtain ⟨actions, hactions⟩ := hs
  have htail : ∀ {task : UiTask UiAction} {tasks : List (UiTask UiAction)},
      s.annotator.ui.pending = task :: tasks →
        tasks = actions.tail.map (.perform · []) := by
    intro task tasks next
    rw [List.map_tail, ← hactions, next, List.tail_cons]
  unfold Plain
  cases h with
  | published | collected | begun | skipped | applied =>
    simp only [Annotator.snd_publish, Annotator.snd_collect, Annotator.snd_apply]
    exact ⟨actions, hactions⟩
  | @scheduled r results atHand => exact ⟨_, plain_queue ha hactions (.apply r)⟩
  | performed next =>
    simp only [Annotator.perform, Annotator.withPending, Annotator.snd_apply]
    exact ⟨_, htail next⟩
  | cleared next => exact ⟨_, htail next⟩
  | @released editor known => exact ⟨_, plain_queue (by exact ha) (by exact hactions) (.clear editor)⟩
  | _ => exact ⟨actions, hactions⟩

/-- In a run nothing else is ever queued. -/
theorem Run.plain {workspace : Workspace} {pool : ConnectionPool} {locate : Locator}
    {config : AnnotatorConfig} (h : Run (start workspace pool locate config) acts t) : t.Plain := by
  induction h with
  | nil => exact ⟨[], rfl⟩
  | snoc run step ih => exact step.plain run.static.2.2 ih

/-- Performing what is queued, action by action, is a run that uses the queued results in order. -/
theorem exists_run_perform (s : Workflow) (actions : List UiAction)
    (h : s.annotator.ui.pending = actions.map (.perform · [])) :
    ∃ later, Run s later { s with
        annotator := actions.foldl (fun a action => a.perform action true)
          (s.annotator.withPending []) } ∧
      later.length = actions.length ∧ later.flatMap Act.used = s.annotator.queuedResults := by
  induction actions generalizing s with
  | nil =>
    have hsame : s.annotator.withPending [] = s.annotator := by
      unfold Annotator.withPending
      rw [← show s.annotator.ui.pending = [] from h]
    rw [List.foldl_nil, hsame, Annotator.queuedResults, h]
    exact ⟨[], .nil, rfl, rfl⟩
  | cons action actions ih =>
    let next : Workflow := { s with annotator :=
      (s.annotator.withPending (actions.map (.perform · []))).perform action true }
    have hqueue : next.annotator.ui.pending = actions.map (.perform · []) := by
      show (Annotator.perform _ _ _).ui.pending = _
      rw [Annotator.ui_perform]
      rfl
    have hnext : next.annotator.withPending [] =
        (s.annotator.withPending []).perform action true := by
      show (Annotator.perform _ _ _).withPending [] = _
      rw [Annotator.perform_withPending, Annotator.perform_withPending]
      rfl
    have hstep : ∃ act, Step s act next ∧
        act.used ++ next.annotator.queuedResults = s.annotator.queuedResults := by
      rw [Annotator.queuedResults, Annotator.queuedResults, h, hqueue]
      cases action with
      | apply r => exact ⟨_, .performed h, rfl⟩
      | clear editor => exact ⟨_, .cleared h, rfl⟩
    obtain ⟨act, step, hused⟩ := hstep
    obtain ⟨later, run, hlength, hlater⟩ := ih next hqueue
    refine ⟨act :: later, ?_, congrArg (· + 1) hlength, ?_⟩
    · rw [hnext] at run
      exact (Run.nil.snoc step).append run
    · rw [List.flatMap_cons, hlater, hused]

/-- **Running the queue is part of a run.** It takes one step for each task, hands over the results
that were queued, in order, and leaves nothing queued. -/
theorem Run.exists_run_runUi {workspace : Workspace} {pool : ConnectionPool} {locate : Locator}
    {config : AnnotatorConfig} (h : Run (start workspace pool locate config) acts s) :
    ∃ later, Run s later { s with annotator := s.annotator.runUi.2 } ∧
      later.length = s.annotator.runUi.1 ∧ later.flatMap Act.used = s.annotator.queuedResults ∧
      s.annotator.runUi.2.ui.pending = [] := by
  obtain ⟨actions, hactions⟩ := h.plain
  obtain ⟨later, run, hlength, hused⟩ := exists_run_perform s actions hactions
  rw [Annotator.runUi_eq hactions]
  refine ⟨later, run, hlength, hused, ?_⟩
  rw [Annotator.ui_foldl_perform]
  rfl

end Workflow

end AnnotationBridge
