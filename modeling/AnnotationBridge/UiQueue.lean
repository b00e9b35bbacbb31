/-!
# The UI queue

Work for the UI thread is queued and run in order. While the queue runs the thread is marked as the
UI thread; when the run ends, in whatever way, the mark is what it was before.

A task is a list of steps: it performs actions, queues further tasks behind those already queued,
runs another queue to its end, or crashes, which ends all runs in progress.

* `UiTask`, `UiStep`: tasks.
* `UiThread`: a thread with its runs in progress; `UiThread.step?` is one step of it.
* `UiThread.runPending`: the run of a queue.
-/

namespace AnnotationBridge

mutual

/-- Work for the UI thread. -/
inductive UiTask (α : Type) where
  | mk (steps : List (UiStep α))

/-- A step of a task. -/
inductive UiStep (α : Type) where
  | perform (action : α)
  | queue (task : UiTask α)
  | pump (tasks : List (UiTask α))
  | crash

end

variable {α : Type}

namespace UiTask

/-- The steps of a task. -/
def steps : UiTask α → List (UiStep α)
  | mk steps => steps

/-- A task without steps is at hand. -/
instance : Inhabited (UiTask α) := ⟨.mk []⟩

/-- A task that performs one action and then queues others. -/
def perform (action : α) (queued : List (UiTask α)) : UiTask α :=
  mk (.perform action :: queued.map .queue)

mutual

/-- A bound for the steps of a thread that a task gives rise to. -/
def size : UiTask α → Nat
  | mk steps => 1 + sizeSteps steps

/-- The bound for a list of steps. -/
def sizeSteps : List (UiStep α) → Nat
  | [] => 0
  | step :: rest => sizeStep step + sizeSteps rest

/-- The bound for one step. -/
def sizeStep : UiStep α → Nat
  | .perform _ => 1
  | .queue task => 1 + size task
  | .pump tasks => 2 + sizeTasks tasks
  | .crash => 1

/-- The bound for a list of tasks. -/
def sizeTasks : List (UiTask α) → Nat
  | [] => 0
  | task :: rest => size task + sizeTasks rest

end

/-- The sizes of two lists of tasks are added. -/
theorem sizeTasks_append (ts us : List (UiTask α)) :
    sizeTasks (ts ++ us) = sizeTasks ts + sizeTasks us := by
  induction ts with
  | nil => simp [sizeTasks]
  | cons t ts ih => simp [sizeTasks, ih, Nat.add_assoc]

end UiTask

/-- A run of a queue in progress. -/
structure UiRun (α : Type) where
  /-- Whether the thread was marked before the run. -/
  before : Bool
  /-- What is left of the task that is running. -/
  steps : List (UiStep α)
  /-- The tasks that wait. -/
  queue : List (UiTask α)
  /-- The number of tasks started. -/
  ran : Nat

/-- A thread with its runs in progress, the innermost first. -/
structure UiThread (α : Type) where
  /-- Whether the thread is marked as the UI thread. -/
  onUi : Bool
  runs : List (UiRun α)
  /-- The actions performed, in order, each with the mark of the thread at that time. -/
  log : List (α × Bool)
  /-- How the outermost run ended: the number of tasks that it ran, or none if one crashed. -/
  ended : Option (Option Nat)
  /-- The tasks that a crash left in the outermost queue. -/
  left : List (UiTask α)

namespace UiThread

/-- A bound for the steps that runs can still make. -/
def sizeRuns : List (UiRun α) → Nat
  | [] => 0
  | r :: outer => 1 + UiTask.sizeSteps r.steps + UiTask.sizeTasks r.queue + sizeRuns outer

/-- A bound for the steps that a thread can still make. -/
def size (t : UiThread α) : Nat :=
  sizeRuns t.runs

/-- The mark that a thread has after all its runs in progress are abandoned. -/
def markBefore (onUi : Bool) (runs : List (UiRun α)) : Bool :=
  (runs.getLast?.map UiRun.before).getD onUi

/-- One step of a thread; none if no run is in progress. -/
def step? (t : UiThread α) : Option (UiThread α) :=
  match t.runs with
  | [] => none
  | r :: outer =>
    match r.steps with
    | .perform action :: steps =>
      some { t with log := t.log ++ [(action, t.onUi)], runs := { r with steps := steps } :: outer }
    | .queue task :: steps =>
      some { t with runs := { r with steps := steps, queue := r.queue ++ [task] } :: outer }
    | .pump tasks :: steps =>
      some { t with
        onUi := true
        runs := ⟨t.onUi, [], tasks, 0⟩ :: { r with steps := steps } :: outer }
    | .crash :: _ =>
      some { t with
        onUi := markBefore t.onUi t.runs
        runs := []
        ended := some none
        left := (t.runs.getLast?.map UiRun.queue).getD [] }
    | [] =>
      match r.queue with
      | .mk steps :: queue =>
        some { t with runs := { r with steps := steps, queue := queue, ran := r.ran + 1 } :: outer }
      | [] =>
        some { t with
          onUi := r.before
          runs := outer
          ended := if outer.isEmpty then some (some r.ran) else t.ended }

/-- A thread comes closer to its end with each step. -/
theorem size_lt_of_step? {t t' : UiThread α} (h : t.step? = some t') : t'.size < t.size := by
  obtain ⟨onUi, runs, log, ended, left⟩ := t
  unfold step? at h
  cases runs with
  | nil => simp at h
  | cons r outer =>
    obtain ⟨before, steps, queue, ran⟩ := r
    cases steps with
    | cons s steps =>
      cases s <;> cases h <;>
        simp [size, sizeRuns, UiTask.sizeSteps, UiTask.sizeStep, UiTask.sizeTasks,
          UiTask.sizeTasks_append] <;>
        omega
    | nil =>
      cases queue with
      | nil =>
        cases h
        simp only [size, sizeRuns]
        omega
      | cons task queue =>
        obtain ⟨steps⟩ := task
        cases h
        simp [size, sizeRuns, UiTask.sizeSteps, UiTask.sizeTasks, UiTask.size]

/-- A thread after all the steps that it can make. -/
def finish (t : UiThread α) : UiThread α :=
  match h : t.step? with
  | none => t
  | some t' =>
    have := size_lt_of_step? h
    t'.finish
  termination_by t.size

/-- A thread that begins to run a queue. -/
def start (onUi : Bool) (queue : List (UiTask α)) : UiThread α :=
  ⟨true, [⟨onUi, [], queue, 0⟩], [], none, []⟩

/-- Runs a queue until it is empty, tasks that were queued meanwhile included. -/
def runPending (onUi : Bool) (queue : List (UiTask α)) : UiThread α :=
  (start onUi queue).finish

end UiThread

/-! ### A queue and its two ends -/

/-- The tasks that wait for a thread, unless that thread has gone. -/
structure UiQueue (α : Type) where
  pending : List (UiTask α)
  /-- Whether there is still a thread to run the tasks. -/
  attached : Bool

namespace UiQueue

/-- A queue without tasks. -/
def empty : UiQueue α :=
  ⟨[], true⟩

/-- Queues a task. It is lost if the thread has gone. -/
def invokeLater (q : UiQueue α) (task : UiTask α) : UiQueue α :=
  if q.attached then { q with pending := q.pending ++ [task] } else q

/-- The queue after its thread has gone. -/
def detach : UiQueue α :=
  ⟨[], false⟩

/-- Runs what is queued: the thread after the run, and the queue. -/
def runPending (q : UiQueue α) (onUi : Bool) : UiThread α × UiQueue α :=
  let t := UiThread.runPending onUi q.pending
  (t, { q with pending := t.left })

end UiQueue

end AnnotationBridge
