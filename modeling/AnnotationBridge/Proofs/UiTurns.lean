import AnnotationBridge.Proofs.UiRun

/-!
# What the run of a queue does

What a task does is a matter of its steps: it performs actions, queues tasks behind those of its own
queue, and has other queues run, each to its end, until its steps are done or there is a crash. A
queue is served by taking its tasks one by one, and those that are queued meanwhile, until none is
left or one has crashed. The run of a queue does just this, on a marked thread, and leaves the mark
as it was.

* `UiTurn`: what a task did. `Served`: how a queue is served. `UiTask.Does`: what the steps of a
  task do. `UiTurn.Proper`: a turn in which a task did that.
* `Served.order`: tasks are taken in the order in which they were queued, and each once.
* `UiTask.exists_served`: each queue can be served.
* `UiThread.performs_of_does`, `UiThread.finish_of_served`: a thread does what the steps of its
  tasks do.
* `UiThread.runPending_eq`: the run of a queue, all in all.
-/

namespace AnnotationBridge

/-- What a task did when it was run. -/
structure UiTurn (α : Type) where
  task : UiTask α
  /-- The actions that it performed, with those of the queues that it had run. -/
  actions : List α
  /-- The tasks that it put into its own queue. -/
  queued : List (UiTask α)
  /-- Whether it crashed, by itself or with a task of a queue that it had run. -/
  crashed : Bool

variable {α : Type}

/-- How a queue is served: its tasks take their turns, and the tasks that one has queued come behind
those that wait, until none is left or one has crashed. -/
inductive Served : List (UiTask α) → List (UiTurn α) → List (UiTask α) → Prop where
  | done : Served [] [] []
  | next {x : UiTurn α} {queue left : List (UiTask α)} {turns : List (UiTurn α)}
    (calm : x.crashed = false) (rest : Served (queue ++ x.queued) turns left) :
    Served (x.task :: queue) (x :: turns) left
  | crashed {x : UiTurn α} (queue : List (UiTask α)) (crash : x.crashed = true) :
    Served (x.task :: queue) [x] (queue ++ x.queued)

/-- What the steps of a task do: the actions that are performed, the tasks that are put into the
queue of the task, and whether there is a crash. -/
inductive UiTask.Does : List (UiStep α) → List α → List (UiTask α) → Bool → Prop where
  | done : Does [] [] [] false
  | perform {steps : List (UiStep α)} {actions : List α} {queued : List (UiTask α)} {crashed : Bool}
    (action : α) (rest : Does steps actions queued crashed) :
    Does (.perform action :: steps) (action :: actions) queued crashed
  | queue {steps : List (UiStep α)} {actions : List α} {queued : List (UiTask α)} {crashed : Bool}
    (task : UiTask α) (rest : Does steps actions queued crashed) :
    Does (.queue task :: steps) actions (task :: queued) crashed
  | pump {steps : List (UiStep α)} {actions : List α} {queued tasks left : List (UiTask α)}
    {crashed : Bool} {turns : List (UiTurn α)} (served : Served tasks turns left)
    (proper : ∀ x ∈ turns, Does x.task.steps x.actions x.queued x.crashed)
    (calm : turns.any UiTurn.crashed = false) (rest : Does steps actions queued crashed) :
    Does (.pump tasks :: steps) (turns.flatMap UiTurn.actions ++ actions) queued crashed
  | pumpCrashed {steps : List (UiStep α)} {tasks left : List (UiTask α)} {turns : List (UiTurn α)}
    (served : Served tasks turns left)
    (proper : ∀ x ∈ turns, Does x.task.steps x.actions x.queued x.crashed)
    (crash : turns.any UiTurn.crashed = true) :
    Does (.pump tasks :: steps) (turns.flatMap UiTurn.actions) [] true
  | crash (steps : List (UiStep α)) : Does (.crash :: steps) [] [] true

/-- A turn in which a task did what its steps do. -/
def UiTurn.Proper (x : UiTurn α) : Prop :=
  UiTask.Does x.task.steps x.actions x.queued x.crashed

/-! ### How queues are served -/

variable {queue left : List (UiTask α)} {turns : List (UiTurn α)} {steps : List (UiStep α)}
  {actions : List α} {queued : List (UiTask α)} {crashed : Bool}

/-- **Tasks are taken in the order in which they were queued**, and each once: those that took their
turns and those that are left are the ones that waited and the ones that were queued meanwhile. -/
theorem Served.order (h : Served queue turns left) :
    turns.map UiTurn.task ++ left = queue ++ turns.flatMap UiTurn.queued := by
  induction h with
  | done => rfl
  | next calm rest ih =>
    rw [List.map_cons, List.cons_append, ih, List.flatMap_cons, List.append_assoc]
    rfl
  | @crashed x queue crash =>
    rw [List.flatMap_cons, List.flatMap_nil, List.append_nil]
    rfl

/-- Nothing is left unless a task has crashed. -/
theorem Served.left_eq_nil (h : Served queue turns left) (calm : turns.any UiTurn.crashed = false) :
    left = [] := by
  induction h with
  | done => rfl
  | next _ _ ih =>
    rw [List.any_cons, Bool.or_eq_false_iff] at calm
    exact ih calm.2
  | crashed queue crash =>
    rw [List.any_cons, crash] at calm
    cases calm

namespace UiTask

/-- The steps of a task do something, if the queues that it has run can be served. What it queues is
no larger than its steps. -/
theorem exists_does {n : Nat}
    (hserved : ∀ queue : List (UiTask α), sizeTasks queue < n →
      ∃ turns left, Served queue turns left ∧ ∀ x ∈ turns, x.Proper)
    (steps : List (UiStep α)) (hn : sizeSteps steps ≤ n) :
    ∃ actions queued crashed, Does steps actions queued crashed ∧
      sizeTasks queued ≤ sizeSteps steps := by
  induction steps with
  | nil => exact ⟨[], [], false, .done, Nat.zero_le _⟩
  | cons step steps ih =>
    rw [sizeSteps] at hn ⊢
    obtain ⟨actions, queued, crashed, hdoes, hsize⟩ := ih (by omega)
    cases step with
    | perform action =>
      exact ⟨_, _, _, .perform action hdoes, Nat.le_trans hsize (Nat.le_add_left _ _)⟩
    | queue task =>
      refine ⟨_, _, _, .queue task hdoes, ?_⟩
      rw [sizeTasks, sizeStep]
      omega
    | crash => exact ⟨_, _, _, .crash steps, Nat.zero_le _⟩
    | pump tasks =>
      rw [sizeStep] at hn
      obtain ⟨turns, left, served, proper⟩ := hserved tasks (by omega)
      cases hcrash : turns.any UiTurn.crashed with
      | true => exact ⟨_, _, _, .pumpCrashed served proper hcrash, Nat.zero_le _⟩
      | false =>
        exact ⟨_, _, _, .pump served proper hcrash hdoes,
          Nat.le_trans hsize (Nat.le_add_left _ _)⟩

/-- **Each queue can be served.** -/
theorem exists_served (queue : List (UiTask α)) :
    ∃ turns left, Served queue turns left ∧ ∀ x ∈ turns, x.Proper := by
  induction hsize : sizeTasks queue using Nat.strongRecOn generalizing queue with
  | ind size ih =>
    have hserved : ∀ queue : List (UiTask α), sizeTasks queue < size →
        ∃ turns left, Served queue turns left ∧ ∀ x ∈ turns, x.Proper :=
      fun queue hlt => ih _ hlt queue rfl
    cases queue with
    | nil => exact ⟨[], [], .done, fun x hx => absurd hx List.not_mem_nil⟩
    | cons task queue =>
      obtain ⟨steps⟩ := task
      rw [sizeTasks, UiTask.size] at hsize
      obtain ⟨actions, queued, crashed, hdoes, hle⟩ := exists_does hserved steps (by omega)
      let x : UiTurn α := ⟨mk steps, actions, queued, crashed⟩
      have hx : x.Proper := hdoes
      cases crashed with
      | true =>
        exact ⟨[x], _, .crashed (x := x) queue rfl, List.forall_mem_singleton.2 hx⟩
      | false =>
        have hlt : sizeTasks (queue ++ queued) < size := by
          rw [sizeTasks_append]
          omega
        obtain ⟨turns, left, served, proper⟩ := hserved _ hlt
        exact ⟨x :: turns, left, .next (x := x) rfl served, List.forall_mem_cons.2 ⟨hx, proper⟩⟩

end UiTask

/-! ### Threads do this -/

namespace UiThread

open UiTask

/-- A thread after a crash: all its runs have been abandoned, and the outermost queue keeps its
tasks. -/
def abandoned (runs : List (UiRun α)) (log : List (α × Bool)) : UiThread α :=
  ⟨markBefore true runs, [], log, some none, (runs.getLast?.map UiRun.queue).getD []⟩

variable {before : Bool} {ran : Nat} {outer : List (UiRun α)} {log : List (α × Bool)}
  {ended : Option (Option Nat)} {kept : List (UiTask α)}

/-- What is left of the task that was running does not matter then. -/
theorem abandoned_congr (steps later : List (UiStep α)) (ran done : Nat) :
    abandoned (⟨before, steps, queue, ran⟩ :: outer) log =
      abandoned (⟨before, later, queue, done⟩ :: outer) log := by
  cases outer <;> rfl

/-- An inner run does not matter either. -/
theorem abandoned_cons (r r' : UiRun α) (outer : List (UiRun α)) (log : List (α × Bool)) :
    abandoned (r :: r' :: outer) log = abandoned (r' :: outer) log := rfl

/-- A thread that is marked does what certain steps do, whatever it was doing before. -/
def Performs (steps : List (UiStep α)) (actions : List α) (queued : List (UiTask α))
    (crashed : Bool) : Prop :=
  ∀ (before : Bool) (queue : List (UiTask α)) (ran : Nat) (outer : List (UiRun α))
    (log : List (α × Bool)) (ended : Option (Option Nat)) (kept : List (UiTask α)),
    finish ⟨true, ⟨before, steps, queue, ran⟩ :: outer, log, ended, kept⟩ =
      if crashed then
        abandoned (⟨before, [], queue ++ queued, ran⟩ :: outer) (log ++ actions.map (·, true))
      else
        finish ⟨true, ⟨before, [], queue ++ queued, ran⟩ :: outer, log ++ actions.map (·, true),
          ended, kept⟩

/-- **A thread serves a queue** if it does what the tasks did that took their turns: then the run of
the queue returns, unless one of them has crashed. -/
theorem finish_of_served (h : Served queue turns left)
    (hturns : ∀ x ∈ turns, Performs x.task.steps x.actions x.queued x.crashed) :
    finish ⟨true, ⟨before, [], queue, ran⟩ :: outer, log, ended, kept⟩ =
      if turns.any UiTurn.crashed then
        abandoned (⟨before, [], left, ran⟩ :: outer)
          (log ++ (turns.flatMap UiTurn.actions).map (·, true))
      else
        finish ⟨before, outer, log ++ (turns.flatMap UiTurn.actions).map (·, true),
          if outer.isEmpty then some (some (ran + turns.length)) else ended, kept⟩ := by
  -- The first task is taken from the queue.
  have htake : ∀ (x : UiTask α) (queue : List (UiTask α)) (ran : Nat) (log : List (α × Bool)),
      finish ⟨true, ⟨before, [], x :: queue, ran⟩ :: outer, log, ended, kept⟩ =
        finish ⟨true, ⟨before, x.steps, queue, ran + 1⟩ :: outer, log, ended, kept⟩ := by
    rintro ⟨steps⟩ queue ran log
    exact finish_of_step? rfl
  induction h generalizing ran log with
  | done =>
    have hlast : finish ⟨true, ⟨before, [], [], ran⟩ :: outer, log, ended, kept⟩ =
        finish ⟨before, outer, log, if outer.isEmpty then some (some ran) else ended, kept⟩ :=
      finish_of_step? rfl
    rw [hlast, List.any_nil, if_neg Bool.false_ne_true, List.flatMap_nil, List.map_nil,
      List.append_nil]
    rfl
  | @next x queue left turns calm rest ih =>
    obtain ⟨hx, hturns⟩ := List.forall_mem_cons.1 hturns
    rw [htake, hx, calm, if_neg Bool.false_ne_true, ih hturns, List.any_cons, calm, Bool.false_or,
      List.flatMap_cons, List.map_append, List.append_assoc, List.length_cons,
      abandoned_congr [] [] (ran + 1) ran, Nat.add_assoc, Nat.add_comm 1]
  | @crashed x queue crash =>
    rw [htake, hturns x List.mem_cons_self, List.any_cons, crash, Bool.true_or, if_pos rfl, if_pos rfl,
      abandoned_congr [] [] (ran + 1) ran, List.flatMap_cons, List.flatMap_nil, List.append_nil]

/-- **A thread does what steps do.** -/
theorem performs_of_does (h : Does steps actions queued crashed) :
    Performs steps actions queued crashed := by
  induction h with
  | done =>
    intro before queue ran outer log ended kept
    rw [if_neg Bool.false_ne_true, List.map_nil, List.append_nil, List.append_nil]
  | perform action rest ih =>
    intro before queue ran outer log ended kept
    refine (finish_of_step? rfl).trans ?_
    rw [ih, List.map_cons, List.append_assoc]
    rfl
  | queue task rest ih =>
    intro before queue ran outer log ended kept
    refine (finish_of_step? rfl).trans ?_
    rw [ih, List.append_assoc]
    rfl
  | crash steps =>
    intro before queue ran outer log ended kept
    refine (finish_of_step? rfl).trans ?_
    rw [if_pos rfl, List.append_nil, List.map_nil, List.append_nil]
    exact (finish_of_step?_eq_none rfl).trans (abandoned_congr _ _ _ _)
  | pump served proper calm rest ihturns ih =>
    intro before queue ran outer log ended kept
    refine (finish_of_step? rfl).trans ((finish_of_served served ihturns).trans ?_)
    rw [calm, if_neg Bool.false_ne_true, List.isEmpty_cons, if_neg Bool.false_ne_true, ih,
      List.map_append, List.append_assoc]
  | pumpCrashed served proper crash ihturns =>
    intro before queue ran outer log ended kept
    refine (finish_of_step? rfl).trans ((finish_of_served served ihturns).trans ?_)
    rw [crash, if_pos rfl, if_pos rfl, abandoned_cons, List.append_nil]
    exact abandoned_congr _ _ _ _

/-- **What the run of a queue does**: it serves the queue, on a thread that is marked at each
action, and leaves the mark as it was. It returns the number of tasks that it has run, unless one of
them has crashed. -/
theorem runPending_eq (onUi : Bool) (h : Served queue turns left) (proper : ∀ x ∈ turns, x.Proper) :
    runPending onUi queue =
      ⟨onUi, [], (turns.flatMap UiTurn.actions).map (·, true),
        some (if turns.any UiTurn.crashed then none else some turns.length), left⟩ := by
  rw [runPending, start, finish_of_served h fun x hx => performs_of_does (proper x hx)]
  cases hcrash : turns.any UiTurn.crashed with
  | true => rfl
  | false =>
    rw [if_neg Bool.false_ne_true, h.left_eq_nil hcrash, Nat.zero_add]
    exact finish_of_step?_eq_none rfl

end UiThread

end AnnotationBridge
