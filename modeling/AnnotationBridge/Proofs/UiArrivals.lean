import AnnotationBridge.Proofs.UiRun
import Mathlib.Data.List.Basic

/-!
# Tasks that others queue meanwhile

While a queue is run anyone may put tasks into it, and into the queues that its tasks have run,
between any two steps of the thread. Tasks are still taken in the order in which they were queued,
and each once, and the thread is marked at each action.

* `UiThread.Meanwhile`: the run of a queue, step by step, while others queue tasks.
* `UiThread.Stage`: how far the run has come. `UiThread.Stage.step`, `UiThread.Stage.arrived`: it
  goes on.
* `UiThread.Meanwhile.stage`: so the run stays in order all the way.
* `UiThread.exists_meanwhile_runPending`: a run that is left alone is one of these.
-/

namespace AnnotationBridge

variable {α : Type}

/-- The task that the next step of a run takes from its queue. -/
def UiRun.takes (r : UiRun α) : List (UiTask α) :=
  match r.steps, r.queue with
  | [], task :: _ => [task]
  | _, _ => []

/-- The task that the next step of a run puts into its queue. -/
def UiRun.puts (r : UiRun α) : List (UiTask α) :=
  match r.steps with
  | .queue task :: _ => [task]
  | _ => []

namespace UiThread

/-- The task that the next step of a thread takes from the outermost queue. -/
def takes (t : UiThread α) : List (UiTask α) :=
  match t.runs with
  | [r] => r.takes
  | _ => []

/-- The task that the next step of a thread puts into the outermost queue. -/
def puts (t : UiThread α) : List (UiTask α) :=
  match t.runs with
  | [r] => r.puts
  | _ => []

/-- The run of a queue while others queue tasks: the tasks that have been put into the queue since,
by tasks and by others, those that have been taken from it, and the thread. The thread makes its
steps, and between them a task arrives in one of the queues that are run. -/
inductive Meanwhile (onUi : Bool) (queue : List (UiTask α)) :
    List (UiTask α) → List (UiTask α) → UiThread α → Prop where
  | start : Meanwhile onUi queue [] [] (start onUi queue)
  | step {queued taken : List (UiTask α)} {t t' : UiThread α}
    (before : Meanwhile onUi queue queued taken t) (step : t.step? = some t') :
    Meanwhile onUi queue (queued ++ t.puts) (taken ++ t.takes) t'
  | arrived {queued taken : List (UiTask α)} {t : UiThread α} {inner outer : List (UiRun α)}
    {r : UiRun α} (before : Meanwhile onUi queue queued taken t) (runs : t.runs = inner ++ r :: outer)
    (task : UiTask α) :
    Meanwhile onUi queue (queued ++ if outer = [] then [task] else []) taken
      { t with runs := inner ++ { r with queue := r.queue ++ [task] } :: outer }

/-- How far the run of a queue has come: it goes on, has returned, or has been ended by a crash. The
tasks that were taken from the queue and those that wait in it are the ones that waited at first and
the ones that were put into it since, in order. While the run goes on, the thread is marked, and so
it was at each action; afterwards the mark is what it was before. What the run returns is the number
of tasks that it has taken. -/
inductive Stage (onUi : Bool) (queue queued taken : List (UiTask α)) : UiThread α → Prop where
  | running (inner : List (UiRun α)) (steps : List (UiStep α)) {waiting : List (UiTask α)}
    {log : List (α × Bool)} (marks : ∀ r ∈ inner, r.before = true)
    (order : taken ++ waiting = queue ++ queued) (performed : ∀ p ∈ log, p.2 = true) :
    Stage onUi queue queued taken
      ⟨true, inner ++ [⟨onUi, steps, waiting, taken.length⟩], log, none, []⟩
  | returned {log : List (α × Bool)} (order : taken = queue ++ queued)
    (performed : ∀ p ∈ log, p.2 = true) :
    Stage onUi queue queued taken ⟨onUi, [], log, some (some taken.length), []⟩
  | crashed {log : List (α × Bool)} {left : List (UiTask α)}
    (order : taken ++ left = queue ++ queued) (performed : ∀ p ∈ log, p.2 = true) :
    Stage onUi queue queued taken ⟨onUi, [], log, some none, left⟩

variable {onUi : Bool} {queue queued taken waiting : List (UiTask α)} {t t' : UiThread α}
  {steps : List (UiStep α)} {inner : List (UiRun α)} {log : List (α × Bool)} {r : UiRun α}

/-- A step of the outermost run. -/
theorem Stage.step_outermost (order : taken ++ waiting = queue ++ queued)
    (performed : ∀ p ∈ log, p.2 = true)
    (step : step? ⟨true, [⟨onUi, steps, waiting, taken.length⟩], log, none, []⟩ = some t') :
    Stage onUi queue (queued ++ puts ⟨true, [⟨onUi, steps, waiting, taken.length⟩], log, none, []⟩)
      (taken ++ takes ⟨true, [⟨onUi, steps, waiting, taken.length⟩], log, none, []⟩) t' := by
  have nomarks : ∀ r ∈ ([] : List (UiRun α)), r.before = true := fun r hr =>
    absurd hr List.not_mem_nil
  cases steps with
  | nil =>
    cases waiting with
    | nil =>
      obtain rfl := Option.some.inj step
      simp only [puts, takes, UiRun.puts, UiRun.takes, List.append_nil] at order ⊢
      exact .returned order performed
    | cons task waiting =>
      obtain ⟨steps⟩ := task
      obtain rfl := Option.some.inj step
      simp only [puts, takes, UiRun.puts, UiRun.takes, List.append_nil]
      rw [List.append_cons] at order
      have hlength : taken.length + 1 = (taken ++ [UiTask.mk steps]).length := by simp
      rw [hlength]
      exact .running [] _ nomarks order performed
  | cons s steps =>
    cases s with
    | perform action =>
      obtain rfl := Option.some.inj step
      simp only [puts, takes, UiRun.puts, UiRun.takes, List.append_nil]
      refine .running [] _ nomarks order fun p hp => ?_
      obtain hp | hp := List.mem_append.1 hp
      · exact performed p hp
      · obtain rfl := List.mem_singleton.1 hp
        rfl
    | queue task =>
      obtain rfl := Option.some.inj step
      simp only [puts, takes, UiRun.puts, UiRun.takes, List.append_nil]
      refine .running [] _ nomarks ?_ performed
      rw [← List.append_assoc, order, List.append_assoc]
    | pump tasks =>
      obtain rfl := Option.some.inj step
      simp only [puts, takes, UiRun.puts, UiRun.takes, List.append_nil]
      exact .running [⟨true, [], tasks, 0⟩] _ (List.forall_mem_singleton.2 rfl) order performed
    | crash =>
      obtain rfl := Option.some.inj step
      simp only [puts, takes, UiRun.puts, UiRun.takes, List.append_nil]
      exact .crashed order performed

/-- A step of an inner run. -/
theorem Stage.step_inner (marks : ∀ r' ∈ r :: inner, r'.before = true)
    (order : taken ++ waiting = queue ++ queued) (performed : ∀ p ∈ log, p.2 = true)
    (step : step? ⟨true, r :: inner ++ [⟨onUi, steps, waiting, taken.length⟩], log, none, []⟩ =
      some t') : Stage onUi queue queued taken t' := by
  obtain ⟨before, steps', queue', ran⟩ := r
  obtain ⟨rfl, hinner⟩ := List.forall_mem_cons.1 marks
  have hrun : ∀ {steps' queue' ran}, ∀ r' ∈ (⟨true, steps', queue', ran⟩ :: inner : List (UiRun α)),
      r'.before = true := List.forall_mem_cons.2 ⟨rfl, hinner⟩
  cases steps' with
  | nil =>
    cases queue' with
    | nil =>
      obtain rfl := Option.some.inj step
      have hgoes : ∀ last : UiRun α,
          (if (inner ++ [last]).isEmpty then some (some ran) else none) = none := by
        intro last
        cases inner <;> rfl
      have hstage : Stage onUi queue queued taken _ := .running inner steps hinner order performed
      rwa [← hgoes] at hstage
    | cons task queue' =>
      obtain ⟨steps'⟩ := task
      obtain rfl := Option.some.inj step
      exact .running (_ :: inner) _ hrun order performed
  | cons s steps' =>
    cases s with
    | perform action =>
      obtain rfl := Option.some.inj step
      refine .running (_ :: inner) _ hrun order fun p hp => ?_
      obtain hp | hp := List.mem_append.1 hp
      · exact performed p hp
      · obtain rfl := List.mem_singleton.1 hp
        rfl
    | queue task =>
      obtain rfl := Option.some.inj step
      exact .running (_ :: inner) _ hrun order performed
    | pump tasks =>
      obtain rfl := Option.some.inj step
      exact .running (_ :: _ :: inner) _ (List.forall_mem_cons.2 ⟨rfl, hrun⟩) order performed
    | crash =>
      obtain rfl := Option.some.inj step
      simp only [markBefore, List.getLast?_append_cons, List.getLast?_singleton, Option.map_some,
        Option.getD_some]
      exact .crashed order performed

/-- **The run goes on with each step of the thread.** -/
theorem Stage.step (h : Stage onUi queue queued taken t) (step : t.step? = some t') :
    Stage onUi queue (queued ++ t.puts) (taken ++ t.takes) t' := by
  cases h with
  | @running inner steps waiting log marks order performed =>
    cases inner with
    | nil => exact .step_outermost order performed step
    | cons r inner =>
      have hquiet :
          puts ⟨true, r :: inner ++ [⟨onUi, steps, waiting, taken.length⟩], log, none, []⟩ = [] ∧
          takes ⟨true, r :: inner ++ [⟨onUi, steps, waiting, taken.length⟩], log, none, []⟩ = [] := by
        cases inner <;> exact ⟨rfl, rfl⟩
      rw [hquiet.1, hquiet.2, List.append_nil, List.append_nil]
      exact .step_inner marks order performed step
  | returned | crashed => cases step

/-- A task that arrives waits behind the others. -/
theorem Stage.arrived {outer : List (UiRun α)} (h : Stage onUi queue queued taken t)
    (runs : t.runs = inner ++ r :: outer) (task : UiTask α) :
    Stage onUi queue (queued ++ if outer = [] then [task] else []) taken
      { t with runs := inner ++ { r with queue := r.queue ++ [task] } :: outer } := by
  cases h with
  | @running inner' steps waiting log marks order performed =>
    obtain rfl | ⟨outer, last, rfl⟩ := List.eq_nil_or_concat' outer
    · obtain ⟨rfl, hlast⟩ := List.append_inj' runs rfl
      obtain rfl := (List.cons.inj hlast).1
      rw [if_pos rfl]
      refine .running _ steps marks ?_ performed
      rw [← List.append_assoc, order, List.append_assoc]
    · have hsplit : inner' = inner ++ r :: outer ∧ [_] = [last] :=
        List.append_inj' (runs.trans (List.append_assoc inner (r :: outer) [last]).symm) rfl
      obtain ⟨rfl, hlast⟩ := hsplit
      obtain rfl := (List.cons.inj hlast).1
      rw [if_neg (List.append_ne_nil_of_right_ne_nil _ (List.cons_ne_nil _ _)), List.append_nil]
      have hmarks : ∀ r' ∈ inner ++ { r with queue := r.queue ++ [task] } :: outer,
          r'.before = true := by
        intro r' hr'
        obtain hr' | hr' := List.mem_append.1 hr'
        · exact marks r' (List.mem_append_left _ hr')
        · obtain rfl | hr' := List.mem_cons.1 hr'
          · exact marks r (List.mem_append_right _ List.mem_cons_self)
          · exact marks r' (List.mem_append_right _ (List.mem_cons_of_mem _ hr'))
      have hstage : Stage onUi queue queued taken _ := .running _ steps hmarks order performed
      rwa [List.append_assoc] at hstage
  | returned | crashed =>
    exact absurd runs.symm (List.append_ne_nil_of_right_ne_nil _ (List.cons_ne_nil _ _))

/-- **The run of a queue stays in order**, whatever others queue meanwhile. -/
theorem Meanwhile.stage (h : Meanwhile onUi queue queued taken t) :
    Stage onUi queue queued taken t := by
  induction h with
  | start =>
    exact .running [] _ (fun r hr => absurd hr List.not_mem_nil)
      (List.append_nil queue).symm fun p hp => absurd hp List.not_mem_nil
  | step before step ih => exact ih.step step
  | arrived before runs task ih => exact ih.arrived runs task

/-- Its steps can be made to the end, while nothing arrives. -/
theorem Meanwhile.exists_finish (h : Meanwhile onUi queue queued taken t) :
    ∃ queued taken, Meanwhile onUi queue queued taken t.finish := by
  induction t using finish.induct generalizing queued taken with
  | case1 t hnone =>
    rw [finish_of_step?_eq_none hnone]
    exact ⟨_, _, h⟩
  | case2 t t' hstep _ ih =>
    rw [finish_of_step? hstep]
    exact ih (h.step hstep)

/-- **A run that is left alone** is one in which nothing arrives. -/
theorem exists_meanwhile_runPending (onUi : Bool) (queue : List (UiTask α)) :
    ∃ queued taken, Meanwhile onUi queue queued taken (runPending onUi queue) :=
  Meanwhile.start.exists_finish

end UiThread

end AnnotationBridge
