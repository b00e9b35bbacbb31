import AnnotationBridge.Proofs.UiTurns
import Mathlib.Algebra.GroupWithZero.Nat
import Mathlib.Data.List.Induction

/-!
# All that is done with a queue

Tasks are put into a queue, by others or by the tasks that run, and the queue is run from time to
time. Each task takes its turn when all that were queued before it have taken theirs, and only once.

* `UiQueue.Use`, `UiQueue.history`: what is done with a queue, and what comes of it.
* `UiQueue.Round`, `UiQueue.Course`: the same with the turns that tasks take.
  `UiQueue.exists_course`: all that is done takes some course.
* `UiQueue.Course.order`, `UiQueue.Course.sum_returned`: the order of turns, and the numbers that
  runs return.
* `UiQueue.Course.history_eq`: what comes of it, all in all.
-/

namespace AnnotationBridge

namespace UiQueue

variable {α : Type}

/-- What is done with a queue: a task is queued, or the queue is run. -/
inductive Use (α : Type) where
  | invokeLater (task : UiTask α)
  | runPending

/-- A queue and the thread that runs it, with what the runs have done. -/
structure History (α : Type) where
  queue : UiQueue α
  /-- Whether the thread is marked. -/
  onUi : Bool
  /-- The actions that were performed, with the mark of the thread. -/
  log : List (α × Bool)
  /-- The numbers that the runs returned. -/
  counts : List Nat

/-- What a use of the queue does. -/
def History.use (s : History α) : Use α → History α
  | .invokeLater task => { s with queue := s.queue.invokeLater task }
  | .runPending =>
    let (t, queue) := s.queue.runPending s.onUi
    ⟨queue, t.onUi, s.log ++ t.log, s.counts ++ (t.ended.bind id).toList⟩

/-- A new queue and its thread, after the queue was used. -/
def history (onUi : Bool) (uses : List (Use α)) : History α :=
  uses.foldl History.use ⟨.empty, onUi, [], []⟩

/-- The last use is made of what the others have left. -/
theorem history_concat (onUi : Bool) (uses : List (Use α)) (u : Use α) :
    history onUi (uses ++ [u]) = (history onUi uses).use u := by
  unfold history
  rw [List.foldl_append]
  rfl

/-- One use of a queue, with the turns that tasks took in it. -/
structure Round (α : Type) where
  use : Use α
  turns : List (UiTurn α)

/-- The tasks that were put into the queue: the one that was queued, or those that tasks queued. -/
def Round.queued (r : Round α) : List (UiTask α) :=
  match r.use with
  | .invokeLater task => [task]
  | .runPending => r.turns.flatMap UiTurn.queued

/-- What the queue's run returned, if it was run and no task crashed: the number of turns. -/
def Round.returned (r : Round α) : List Nat :=
  match r.use with
  | .invokeLater _ => []
  | .runPending => if r.turns.any UiTurn.crashed then [] else [r.turns.length]

/-- The turns that tasks took in several rounds. -/
def turnsOf (rounds : List (Round α)) : List (UiTurn α) :=
  rounds.flatMap Round.turns

/-- The tasks that were put into the queue in several rounds. -/
def queuedIn (rounds : List (Round α)) : List (UiTask α) :=
  rounds.flatMap Round.queued

/-- How a queue is used: tasks are queued, and each run serves the queue. In the end certain tasks
wait. -/
inductive Course : List (Round α) → List (UiTask α) → Prop where
  | nil : Course [] []
  | invokeLater {rounds : List (Round α)} {waiting : List (UiTask α)} (task : UiTask α)
    (before : Course rounds waiting) :
    Course (rounds ++ [⟨.invokeLater task, []⟩]) (waiting ++ [task])
  | runPending {rounds : List (Round α)} {waiting left : List (UiTask α)} {turns : List (UiTurn α)}
    (before : Course rounds waiting) (served : Served waiting turns left)
    (proper : ∀ x ∈ turns, x.Proper) : Course (rounds ++ [⟨.runPending, turns⟩]) left

variable {rounds : List (Round α)} {waiting : List (UiTask α)}

/-- The turns of one more round come behind the others. -/
theorem turnsOf_concat (rounds : List (Round α)) (r : Round α) :
    turnsOf (rounds ++ [r]) = turnsOf rounds ++ r.turns := by
  rw [turnsOf, List.flatMap_append, List.flatMap_singleton]
  rfl

/-- The tasks that one more round queues come behind the others. -/
theorem queuedIn_concat (rounds : List (Round α)) (r : Round α) :
    queuedIn (rounds ++ [r]) = queuedIn rounds ++ r.queued := by
  rw [queuedIn, List.flatMap_append, List.flatMap_singleton]
  rfl

/-- Whatever is done with a queue, it takes some course. -/
theorem exists_course (uses : List (Use α)) :
    ∃ rounds waiting, rounds.map Round.use = uses ∧ Course rounds waiting := by
  induction uses using List.reverseRecOn with
  | nil => exact ⟨[], [], rfl, .nil⟩
  | append_singleton uses u ih =>
    obtain ⟨rounds, waiting, huses, hcourse⟩ := ih
    cases u with
    | invokeLater task =>
      refine ⟨_, _, ?_, .invokeLater task hcourse⟩
      rw [List.map_append, huses]
      rfl
    | runPending =>
      obtain ⟨turns, left, served, proper⟩ := UiTask.exists_served waiting
      refine ⟨_, _, ?_, .runPending hcourse served proper⟩
      rw [List.map_append, huses]
      rfl

/-- A course without its last round is a course. -/
theorem Course.exists_of_concat {r : Round α} (h : Course (rounds ++ [r]) waiting) :
    ∃ waiting, Course rounds waiting := by
  generalize hall : rounds ++ [r] = all at h
  cases h with
  | nil => exact absurd hall (List.append_ne_nil_of_right_ne_nil _ (List.cons_ne_nil _ _))
  | invokeLater task before =>
    obtain ⟨rfl, -⟩ := List.append_inj' hall rfl
    exact ⟨_, before⟩
  | runPending before served proper =>
    obtain ⟨rfl, -⟩ := List.append_inj' hall rfl
    exact ⟨_, before⟩

/-- A course can be broken off at any time. -/
theorem Course.exists_of_prefix {done : List (Round α)} (h : Course rounds waiting)
    (hdone : done <+: rounds) : ∃ waiting, Course done waiting := by
  obtain ⟨later, rfl⟩ := hdone
  induction later using List.reverseRecOn generalizing waiting with
  | nil => exact ⟨_, List.append_nil done ▸ h⟩
  | append_singleton later r ih =>
    obtain ⟨waiting, hbefore⟩ := Course.exists_of_concat ((List.append_assoc ..).symm ▸ h)
    exact ih hbefore

/-- **Tasks take their turns in the order in which they were queued**, and each once; the others
wait. -/
theorem Course.order (h : Course rounds waiting) :
    (turnsOf rounds).map UiTurn.task ++ waiting = queuedIn rounds := by
  induction h with
  | nil => rfl
  | invokeLater task before ih =>
    rw [turnsOf_concat, queuedIn_concat, List.append_nil, ← List.append_assoc, ih]
    rfl
  | runPending before served proper ih =>
    rw [turnsOf_concat, queuedIn_concat, List.map_append, List.append_assoc, served.order,
      ← List.append_assoc, ih]
    rfl

/-- The numbers that runs return are those of the turns, unless a task has crashed. -/
theorem Course.sum_returned (h : Course rounds waiting)
    (calm : ∀ x ∈ turnsOf rounds, x.crashed = false) :
    (rounds.flatMap Round.returned).sum = (turnsOf rounds).length := by
  induction h with
  | nil => rfl
  | invokeLater task before ih =>
    rw [turnsOf_concat, List.append_nil] at calm ⊢
    rw [List.flatMap_append, List.sum_append, ih calm]
    rfl
  | @runPending rounds waiting left turns before served proper ih =>
    rw [turnsOf_concat] at calm ⊢
    have hcalm : turns.any UiTurn.crashed = false :=
      List.any_eq_false.2 fun x hx => Bool.eq_false_iff.1 (calm x (List.mem_append_right _ hx))
    have hlast : Round.returned ⟨.runPending, turns⟩ = [turns.length] := by
      rw [Round.returned, hcalm]
      rfl
    rw [List.flatMap_append, List.flatMap_singleton, hlast, List.sum_append, List.sum_singleton,
      List.length_append, ih fun x hx => calm x (List.mem_append_left _ hx)]

/-- In each turn a task did what its steps do. -/
theorem Course.proper (h : Course rounds waiting) : ∀ x ∈ turnsOf rounds, x.Proper := by
  induction h with
  | nil => exact fun x hx => absurd hx List.not_mem_nil
  | invokeLater task before ih =>
    rw [turnsOf_concat, List.append_nil]
    exact ih
  | runPending before served proper ih =>
    rw [turnsOf_concat]
    exact fun x hx => (List.mem_append.1 hx).elim (ih x) (proper x)

/-- **All that is done with a queue**: what waits, the mark of the thread, the actions that were
performed, all of them on a marked thread, and the numbers that runs returned. -/
theorem Course.history_eq (h : Course rounds waiting) (onUi : Bool) :
    history onUi (rounds.map Round.use) =
      ⟨⟨waiting, true⟩, onUi, ((turnsOf rounds).flatMap UiTurn.actions).map (·, true),
        rounds.flatMap Round.returned⟩ := by
  induction h with
  | nil => rfl
  | invokeLater task before ih =>
    rw [List.map_append, List.map_singleton, history_concat, ih, turnsOf_concat, List.append_nil,
      List.flatMap_append, List.flatMap_singleton]
    show History.mk _ _ _ _ = History.mk _ _ _ (_ ++ [])
    rw [List.append_nil]
    rfl
  | @runPending rounds waiting left turns before served proper ih =>
    have hreturned : Round.returned ⟨.runPending, turns⟩ =
        (if turns.any UiTurn.crashed then none else some turns.length).toList := by
      rw [Round.returned]
      dsimp only
      split <;> rfl
    rw [List.map_append, List.map_singleton, history_concat, ih, turnsOf_concat,
      List.flatMap_append, List.flatMap_append, List.flatMap_singleton, List.map_append, hreturned]
    unfold History.use UiQueue.runPending
    dsimp only
    rw [UiThread.runPending_eq onUi served proper]
    rfl

end UiQueue

end AnnotationBridge
