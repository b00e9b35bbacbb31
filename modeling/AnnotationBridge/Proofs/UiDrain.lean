import AnnotationBridge.Proofs.UiSimulation

/-!
# How long the run of a queue goes on

A run takes tasks from its queue as long as there are any. Those that are queued meanwhile, by the
tasks themselves or by others, are run as well: what a run returns is the number of the tasks that
waited when it was called for and of those queued since. As long as each task that ends has queued
another one, the run does not return.

* `UiHost.Run.call_drains`: what one call runs and returns, and when it does not return.
* `UiTask.total`: the number of tasks that a task gives rise to in its own queue.
  `UiThread.ended_runPending`: the number that the run of a queue returns.
* `UiQueue.task_queued_meanwhile_runs`: a run that returns more than the number of tasks that
  waited.
-/

namespace AnnotationBridge

namespace UiTask

variable {α : Type}

mutual

/-- The number of tasks that a task gives rise to in its own queue, itself included. -/
def total : UiTask α → Nat
  | mk steps => 1 + totalSteps steps

/-- The number for a list of steps. -/
def totalSteps : List (UiStep α) → Nat
  | [] => 0
  | step :: rest => totalStep step + totalSteps rest

/-- The number for one step. -/
def totalStep : UiStep α → Nat
  | .queue task => total task
  | .perform _ | .pump _ | .crash => 0

end

/-- The number for a list of tasks. -/
def totals (tasks : List (UiTask α)) : Nat :=
  (tasks.map total).sum

mutual

/-- Whether a task never crashes. -/
def calm : UiTask α → Bool
  | mk steps => calmSteps steps

/-- Whether none of the steps crashes. -/
def calmSteps : List (UiStep α) → Bool
  | [] => true
  | step :: rest => calmStep step && calmSteps rest

/-- Whether a step does not crash. -/
def calmStep : UiStep α → Bool
  | .perform _ => true
  | .queue task => calm task
  | .pump tasks => calmTasks tasks
  | .crash => false

/-- Whether none of the tasks crashes. -/
def calmTasks : List (UiTask α) → Bool
  | [] => true
  | task :: rest => calm task && calmTasks rest

end

/-- Whether a task queues no other one. -/
def QueuesNothing (task : UiTask α) : Prop :=
  ∀ later, .queue later ∉ task.steps

/-- Tasks are calm if those of both parts are. -/
theorem calmTasks_append (tasks later : List (UiTask α)) :
    calmTasks (tasks ++ later) = (calmTasks tasks && calmTasks later) := by
  induction tasks with
  | nil => rfl
  | cons task tasks ih => rw [List.cons_append, calmTasks, calmTasks, ih, Bool.and_assoc]

/-- Steps give rise to no task exactly if none of them queues one. -/
theorem totalSteps_eq_zero_iff (steps : List (UiStep α)) :
    totalSteps steps = 0 ↔ ∀ later, .queue later ∉ steps := by
  induction steps with
  | nil => exact iff_of_true rfl fun _ => List.not_mem_nil
  | cons step steps ih =>
    rw [totalSteps, Nat.add_eq_zero_iff, ih]
    cases step with
    | queue task =>
      obtain ⟨steps⟩ := task
      refine iff_of_false (fun hzero => ?_) fun hnone => hnone (mk steps) List.mem_cons_self
      rw [totalStep, total] at hzero
      omega
    | _ => simp [totalStep]

/-- As many tasks are run as there are exactly if none of them queues another one. -/
theorem totals_eq_length_iff (tasks : List (UiTask α)) :
    totals tasks = tasks.length ↔ ∀ task ∈ tasks, task.QueuesNothing := by
  have hle : ∀ tasks : List (UiTask α), tasks.length ≤ totals tasks := by
    intro tasks
    induction tasks with
    | nil => exact Nat.le_refl _
    | cons task tasks ih =>
      obtain ⟨steps⟩ := task
      simp only [totals, List.map_cons, List.sum_cons, List.length_cons, total] at ih ⊢
      omega
  induction tasks with
  | nil => exact iff_of_true rfl fun _ h => absurd h List.not_mem_nil
  | cons task tasks ih =>
    obtain ⟨steps⟩ := task
    have hrest := hle tasks
    have hzero : totals (mk steps :: tasks) = (mk steps :: tasks).length ↔
        totalSteps steps = 0 ∧ totals tasks = tasks.length := by
      simp only [totals, List.map_cons, List.sum_cons, List.length_cons, total] at hrest ⊢
      omega
    have hcons : (∀ task ∈ mk steps :: tasks, task.QueuesNothing) ↔
        (mk steps).QueuesNothing ∧ ∀ task ∈ tasks, task.QueuesNothing := List.forall_mem_cons
    rw [hcons]
    exact hzero.trans (and_congr (totalSteps_eq_zero_iff steps) ih)

/-! ### The run of a queue whose tasks are given by their steps -/

/-- A task is calm if its steps are. -/
theorem calm_eq (task : UiTask α) : task.calm = calmSteps task.steps := by
  obtain ⟨steps⟩ := task
  rw [calm]
  rfl

/-- A task gives rise to itself and to what its steps give rise to. -/
theorem total_eq (task : UiTask α) : task.total = 1 + totalSteps task.steps := by
  obtain ⟨steps⟩ := task
  rw [total]
  rfl

/-- The numbers for two parts of a queue are added. -/
theorem totals_append (tasks later : List (UiTask α)) :
    totals (tasks ++ later) = totals tasks + totals later := by
  rw [totals, List.map_append, List.sum_append]
  rfl

variable {queue queued left : List (UiTask α)} {turns : List (UiTurn α)} {steps : List (UiStep α)}
  {actions : List α} {crashed : Bool}

/-- If tasks that never crash queue such tasks only, none has crashed when a queue of them has been
served, and all tasks that they give rise to have taken their turns. -/
theorem served_of_calm (h : Served queue turns left) (calm : calmTasks queue = true)
    (hturns : ∀ x ∈ turns, x.task.calm = true →
      x.crashed = false ∧ calmTasks x.queued = true ∧ totalSteps x.task.steps = totals x.queued) :
    turns.any UiTurn.crashed = false ∧ turns.length = totals queue := by
  induction h with
  | done => exact ⟨rfl, rfl⟩
  | @next x queue left turns hcalm rest ih =>
    obtain ⟨hx, hturns⟩ := List.forall_mem_cons.1 hturns
    rw [calmTasks, Bool.and_eq_true] at calm
    obtain ⟨-, hqueued, htotal⟩ := hx calm.1
    obtain ⟨hany, hlength⟩ := ih (by rw [calmTasks_append, calm.2, hqueued]; rfl) hturns
    refine ⟨by rw [List.any_cons, hcalm, hany]; rfl, ?_⟩
    rw [List.length_cons, hlength, totals_append, ← htotal]
    simp only [totals, List.map_cons, List.sum_cons, total_eq]
    omega
  | @crashed x queue crash =>
    rw [calmTasks, Bool.and_eq_true] at calm
    obtain ⟨hcalm, -, -⟩ := hturns x List.mem_cons_self calm.1
    cases crash.symm.trans hcalm

/-- Steps that never crash queue tasks that never crash, among them all that they give rise to. -/
theorem does_of_calm (h : Does steps actions queued crashed) (calm : calmSteps steps = true) :
    crashed = false ∧ calmTasks queued = true ∧ totalSteps steps = totals queued := by
  induction h with
  | done => exact ⟨rfl, rfl, rfl⟩
  | crash steps =>
    rw [calmSteps, calmStep, Bool.false_and] at calm
    cases calm
  | perform action rest ih =>
    rw [calmSteps, calmStep, Bool.true_and] at calm
    obtain ⟨hcrashed, hqueued, htotal⟩ := ih calm
    exact ⟨hcrashed, hqueued, by rw [totalSteps, totalStep, htotal, Nat.zero_add]⟩
  | queue task rest ih =>
    rw [calmSteps, calmStep, Bool.and_eq_true] at calm
    obtain ⟨hcrashed, hqueued, htotal⟩ := ih calm.2
    refine ⟨hcrashed, by rw [calmTasks, calm.1, hqueued]; rfl, ?_⟩
    rw [totalSteps, totalStep, htotal]
    rfl
  | pump served proper hcalm rest ihturns ih =>
    rw [calmSteps, Bool.and_eq_true] at calm
    obtain ⟨hcrashed, hqueued, htotal⟩ := ih calm.2
    exact ⟨hcrashed, hqueued, by rw [totalSteps, totalStep, htotal, Nat.zero_add]⟩
  | pumpCrashed served proper crash ihturns =>
    rw [calmSteps, calmStep, Bool.and_eq_true] at calm
    obtain ⟨hany, -⟩ := served_of_calm served calm.1 fun x hx hcalm =>
      ihturns x hx (calm_eq x.task ▸ hcalm)
    cases crash.symm.trans hany

end UiTask

/-- **What the run of a queue returns** if no task crashes: the number of all tasks in it, with
those that they give rise to. -/
theorem UiThread.ended_runPending {α : Type} (onUi : Bool) {queue : List (UiTask α)}
    (calm : UiTask.calmTasks queue = true) :
    (runPending onUi queue).ended = some (some (UiTask.totals queue)) := by
  obtain ⟨turns, left, served, proper⟩ := UiTask.exists_served queue
  obtain ⟨hany, hlength⟩ := UiTask.served_of_calm served calm fun x hx hcalm =>
    UiTask.does_of_calm (proper x hx) (x.task.calm_eq ▸ hcalm)
  rw [runPending_eq onUi served proper, hany, ← hlength]
  rfl

/-! ### The run of any queue -/

namespace UiHost

variable {τ α : Type} {h k l s t : UiHost τ} {acts during : List (HostAct τ α)} {q th : Nat}

/-- A crash ends the run. -/
theorem not_crashes_of_not_ends {act : HostAct τ α} (h : ¬ act.Ends q) : ¬ act.Crashes q := by
  cases act with
  | queued => exact id
  | did th d =>
    cases d with
    | crashed q' x => exact fun heq => h (congrArg some heq)
    | _ => exact id

/-- As long as a run does not end, it returns nothing. -/
theorem returnedIn_of_not_ends (h : ∀ act ∈ acts, ¬ act.Ends q) : returnedIn q acts = [] := by
  refine List.filterMap_eq_nil_iff.2 fun act hact => ?_
  have hends := h act hact
  cases act with
  | queued => rfl
  | did th d =>
    cases d with
    | returned q' n => exact if_neg fun heq => hends (congrArg some heq)
    | _ => rfl

/-- A call leaves the queues alone. -/
theorem Step.pending_of_called (step : Step h (.did th (.called q) : HostAct τ α) k) :
    k.pending = h.pending ∧ h.Free q := by
  cases step with
  | did move access =>
    cases access with
    | called free => exact ⟨rfl, free⟩

/-- A run that returns has found its queue empty, and is the one in progress. -/
theorem Step.of_returned {n : Nat} (step : Step h (.did th (.returned q n) : HostAct τ α) k) :
    h.pending q = [] ∧ k.pending = h.pending ∧ ∃ before, h.Serves q (some ⟨q, before, none, n⟩) := by
  cases step with
  | did move access =>
    cases access with
    | returned n empty =>
      cases move with
      | @returned _ _ before _ top =>
        exact ⟨empty, rfl, before, .call (top ▸ List.mem_cons_self) rfl⟩

/-- A call is a run that ends when its queue is empty: it takes what waited and what has been queued
since, in order. -/
theorem Run.during_call {c? : Option (UiCall τ)} (before : start.Run acts s)
    (call : Step s (.did th (.called q) : HostAct τ α) k) (run : k.Run during t)
    (serves : t.Serves q c?) :
    startedIn q during ++ t.pending q = s.pending q ++ queuedIn q during ∧
      Balanced q (.did th (.called q) :: during) c? := by
  obtain ⟨hpending, hfree⟩ := call.pending_of_called
  refine ⟨?_, ((Run.nil.snoc call).append run).balanced (before.exclusive exclusive_start) hfree
    serves⟩
  rw [← hpending]
  exact run.conserved q

/-- What a run of a queue returns, if it does: the number of the tasks that waited and of those that
have been queued since. -/
theorem Run.returned_eq {n th' : Nat} (before : start.Run acts s)
    (call : Step s (.did th (.called q) : HostAct τ α) k) (run : k.Run during t)
    (inside : ∀ act ∈ during, ¬ act.Ends q)
    (fin : Step t (.did th' (.returned q n) : HostAct τ α) l) :
    startedIn q during = s.pending q ++ queuedIn q during ∧ endedIn q during = startedIn q during ∧
      l.pending q = [] ∧ n = (endedIn q during).length := by
  obtain ⟨hempty, hleft, top, serves⟩ := fin.of_returned
  obtain ⟨hstarted, hended, hcounted⟩ := before.during_call call run serves
  have hcalm : ∀ act ∈ HostAct.did th (.called q) :: during, ¬ act.Crashes q :=
    List.forall_mem_cons.2 ⟨id, fun act hact => not_crashes_of_not_ends (inside act hact)⟩
  have hcount := hcounted hcalm
  have hnone : returnedIn q (.did th (.called q) :: during) = [] :=
    returnedIn_of_not_ends (List.forall_mem_cons.2
      ⟨show (none : Option Nat) ≠ some q from nofun, inside⟩)
  rw [hnone, List.sum_nil, Nat.zero_add] at hcount
  rw [hempty, List.append_nil] at hstarted
  exact ⟨hstarted, (List.append_nil _).symm.trans hended, hleft ▸ hempty, hcount⟩

/-- A task can be queued at any time. -/
theorem exists_queued (k : UiHost τ) (q : Nat) (x : τ) :
    ∃ k', Step k (.queued q x : HostAct τ α) k' ∧ k'.threads = k.threads ∧
      k'.pending q = k.pending q ++ [x] :=
  ⟨_, .queued q x, rfl, Function.update_self ..⟩

section

variable {ran : Nat} {before : Bool} {outer : List (UiCall τ)} {x : τ}

/-- A task that waits can be started where no other is running. -/
theorem exists_started {rest : List τ}
    (top : (k.threads th).calls = ⟨q, before, none, ran⟩ :: outer)
    (waiting : k.pending q = x :: rest) :
    ∃ k', Step k (.did th (.started q x) : HostAct τ α) k' ∧
      (k'.threads th).calls = ⟨q, before, some x, ran⟩ :: outer ∧ k'.pending q = rest :=
  ⟨_, .did (.started x top) (.started waiting), congrArg HostThread.calls (threads_update ..),
    Function.update_self ..⟩

/-- A task that is running can finish. -/
theorem exists_finished (top : (k.threads th).calls = ⟨q, before, some x, ran⟩ :: outer) :
    ∃ k', Step k (.did th (.finished q x) : HostAct τ α) k' ∧
      (k'.threads th).calls = ⟨q, before, none, ran + 1⟩ :: outer ∧ k'.pending = k.pending :=
  ⟨_, .did (.finished top) (.finished q x), congrArg HostThread.calls (threads_update ..), rfl⟩

/-- A task that waits, queues itself again when it runs, and finishes: then it waits as before. -/
theorem exists_requeued (top : (k.threads th).calls = ⟨q, before, none, ran⟩ :: outer)
    (waiting : k.pending q = [x]) :
    ∃ t : UiHost τ, k.Run
        ([.did th (.started q x), .queued q x, .did th (.finished q x)] : List (HostAct τ α)) t ∧
      (t.threads th).calls = ⟨q, before, none, ran + 1⟩ :: outer ∧ t.pending q = [x] := by
  obtain ⟨k₁, started, top₁, waiting₁⟩ := exists_started (α := α) top waiting
  obtain ⟨k₂, queued, same, waiting₂⟩ := exists_queued (α := α) k₁ q x
  rw [waiting₁, List.nil_append] at waiting₂
  rw [← same] at top₁
  obtain ⟨t, finished, top₃, waiting₃⟩ := exists_finished (α := α) top₁
  exact ⟨t, ((Run.nil.snoc started).snoc queued).snoc finished, top₃,
    (congrFun waiting₃ q).trans waiting₂⟩

/-- If the task that waits queues itself again each time it runs, the run goes on as long as one
likes. -/
theorem exists_run_requeued (top : (k.threads th).calls = ⟨q, before, none, ran⟩ :: outer)
    (waiting : k.pending q = [x]) (times : Nat) :
    ∃ (during : List (HostAct τ α)) (t : UiHost τ), k.Run during t ∧
      (∀ act ∈ during, ¬ act.Ends q) ∧ startedIn q during = List.replicate times x ∧
      t.pending q = [x] := by
  induction times generalizing k ran with
  | zero => exact ⟨[], k, .nil, fun act hact => absurd hact List.not_mem_nil, rfl, waiting⟩
  | succ times ih =>
    obtain ⟨k', once, top', waiting'⟩ := exists_requeued (α := α) top waiting
    obtain ⟨during, t, run, hinside, hstarted, hwaiting⟩ := ih top' waiting'
    refine ⟨_, t, once.append run, fun act hact => ?_, ?_, hwaiting⟩
    · rcases List.mem_append.1 hact with hact | hact
      · simp only [List.mem_cons, List.not_mem_nil, or_false] at hact
        rcases hact with rfl | rfl | rfl <;> simp [HostAct.Ends, Deed.ended?]
      · exact hinside act hact
    · rw [List.replicate_succ, ← hstarted]
      simp [startedIn, HostAct.started?, List.filterMap_cons]

end

/-- **The run of a queue goes on until the queue is empty.** It starts the tasks that waited when it
was called for and those queued since, in order. If it returns, it has run all of these, and what it
returns is their number, which is the number of those that waited only if none has been queued
since. It does not return as long as a task waited and each one that ended has queued another; so a
task that queues itself again keeps it going for any number of times. And the run of a queue whose
tasks are given by their steps returns the number of all tasks in it with those that they give rise
to, which is the number of those that waited only if none of them queues another. -/
theorem Run.call_drains (before : start.Run acts s)
    (call : Step s (.did th (.called q) : HostAct τ α) k) (run : k.Run during t)
    (inside : ∀ act ∈ during, ¬ act.Ends q) :
    startedIn q during ++ t.pending q = s.pending q ++ queuedIn q during ∧
      (∀ th' n l, Step t (.did th' (.returned q n) : HostAct τ α) l →
        endedIn q during = s.pending q ++ queuedIn q during ∧ l.pending q = [] ∧
        n = (s.pending q).length + (queuedIn q during).length ∧
        (n = (s.pending q).length ↔ queuedIn q during = [])) ∧
      (s.pending q ≠ [] → (endedIn q during).length ≤ (queuedIn q during).length →
        ∀ th' n l, ¬ Step t (.did th' (.returned q n) : HostAct τ α) l) ∧
      (∀ x, s.pending q = [x] → ∀ times, ∃ (during : List (HostAct τ α)) (t : UiHost τ),
        k.Run during t ∧ (∀ act ∈ during, ¬ act.Ends q) ∧
        startedIn q during = List.replicate times x ∧ t.pending q = [x]) ∧
      ∀ {β : Type} (onUi : Bool) (queue : List (UiTask β)), UiTask.calmTasks queue = true →
        (UiThread.runPending onUi queue).ended = some (some (UiTask.totals queue)) ∧
        (UiTask.totals queue = queue.length ↔ ∀ task ∈ queue, task.QueuesNothing) := by
  obtain ⟨hpending, -⟩ := call.pending_of_called
  have hreturned : ∀ {th' n l}, Step t (.did th' (.returned q n) : HostAct τ α) l →
      endedIn q during = s.pending q ++ queuedIn q during ∧ l.pending q = [] ∧
      n = (s.pending q).length + (queuedIn q during).length := by
    intro th' n l fin
    obtain ⟨hstarted, hended, hempty, hn⟩ := before.returned_eq call run inside fin
    have hall := hended.trans hstarted
    exact ⟨hall, hempty, by rw [hn, hall, List.length_append]⟩
  refine ⟨hpending ▸ run.conserved q, fun th' n l fin => ?_, fun hwaiting hmany th' n l fin => ?_,
    fun x hx times => ?_, fun onUi queue calm => ⟨UiThread.ended_runPending onUi calm,
      UiTask.totals_eq_length_iff queue⟩⟩
  · obtain ⟨hended, hempty, hn⟩ := hreturned fin
    refine ⟨hended, hempty, hn, ?_⟩
    rw [hn, Nat.add_eq_left, List.length_eq_zero_iff]
  · obtain ⟨hended, -, -⟩ := hreturned fin
    have hpos := List.length_pos_iff.2 hwaiting
    rw [hended, List.length_append] at hmany
    omega
  · have top : ∃ before outer, (k.threads th).calls = ⟨q, before, none, 0⟩ :: outer := by
      cases call with
      | did move access =>
        cases move with
        | called q code => exact ⟨_, _, congrArg HostThread.calls (threads_update ..)⟩
    obtain ⟨before, outer, top⟩ := top
    exact exists_run_requeued top ((congrFun hpending q).trans hx) times

/-- What a thread does that runs a queue with one task, which queues another. -/
def twoTasks : List (HostAct String String) :=
  [.did 3 (.started 0 "a"), .queued 0 "b", .did 3 (.finished 0 "a"), .did 3 (.started 0 "b"),
    .did 3 (.finished 0 "b")]

/-- One task waits when a run is called for, which returns that it has run two. -/
theorem call_drains_two_tasks :
    ∃ s k t l : UiHost String, start.Run ([.queued 0 "a"] : List (HostAct String String)) s ∧
      Step s (.did 3 (.called 0) : HostAct String String) k ∧ k.Run twoTasks t ∧
      (∀ act ∈ twoTasks, ¬ act.Ends 0) ∧
      Step t (.did 3 (.returned 0 2) : HostAct String String) l ∧
      endedIn 0 twoTasks = s.pending 0 ++ queuedIn 0 twoTasks ∧ l.pending 0 = [] ∧
      2 = (s.pending 0).length + (queuedIn 0 twoTasks).length ∧
      (2 = (s.pending 0).length ↔ queuedIn 0 twoTasks = []) := by
  obtain ⟨s, queued, same, waiting⟩ := exists_queued (α := String) (start : UiHost String) 0 "a"
  have before : start.Run ([.queued 0 "a"] : List (HostAct String String)) s := Run.nil.snoc queued
  have hcalls : ∀ th, (s.threads th).calls = [] := fun th => by
    rw [same]
    rfl
  have code : (s.threads 3).AtCode := fun c hc => by
    rw [hcalls 3] at hc
    cases hc
  have free : s.Free 0 := fun th hq => by
    rw [HostThread.queues, hcalls th] at hq
    exact List.not_mem_nil hq
  have call := Step.did (α := String) (.called 0 code) (.called free)
  generalize hk : UiHost.mk s.pending _ = k at call
  have top : (k.threads 3).calls = [⟨0, (s.threads 3).marked, none, 0⟩] := by
    rw [← hk, threads_update, hcalls 3]
  have waiting' : k.pending 0 = ["a"] := by
    rw [← hk]
    exact waiting
  obtain ⟨k₁, started, top, waiting₁⟩ := exists_started (α := String) top waiting'
  obtain ⟨k₂, queued', same, waiting₂⟩ := exists_queued (α := String) k₁ 0 "b"
  rw [waiting₁, List.nil_append] at waiting₂
  rw [← same] at top
  obtain ⟨k₃, finished, top, waiting₃⟩ := exists_finished (α := String) top
  obtain ⟨k₄, started', top, waiting₄⟩ :=
    exists_started (α := String) top ((congrFun waiting₃ 0).trans waiting₂)
  obtain ⟨k₅, finished', top, waiting₅⟩ := exists_finished (α := String) top
  have run : k.Run twoTasks k₅ :=
    ((((Run.nil.snoc started).snoc queued').snoc finished).snoc started').snoc finished'
  have inside : ∀ act ∈ twoTasks, ¬ act.Ends 0 := by
    simp [twoTasks, HostAct.Ends, Deed.ended?]
  have fin := Step.did (α := String) (.returned top)
    (.returned 2 ((congrFun waiting₅ 0).trans waiting₄))
  obtain ⟨-, hreturned, -⟩ := before.call_drains call run inside
  exact ⟨s, k, k₅, _, before, call, run, inside, fin, hreturned 3 2 _ fin⟩

end UiHost

/-- A task that waits and queues another one when it runs: the run does not end when it has run the
task that waited, but runs both, and leaves nothing. -/
theorem UiQueue.task_queued_meanwhile_runs :
    let q : UiQueue String := UiQueue.empty.invokeLater (.perform "a" [.perform "b" []])
    q.pending.length = 1 ∧ (q.runPending false).1.ended = some (some 2) ∧
      (q.runPending false).1.log = [("a", true), ("b", true)] ∧
      (q.runPending false).2.pending = [] := by
  have hrun : UiThread.runPending false [UiTask.perform "a" [.perform "b" []]] =
      ⟨false, [], [("a", true), ("b", true)], some (some 2), []⟩ := by
    simp [UiThread.runPending, UiThread.start, UiThread.finish, UiThread.step?, UiTask.perform]
  simp [UiQueue.empty, UiQueue.invokeLater, UiQueue.runPending, hrun]

end AnnotationBridge
