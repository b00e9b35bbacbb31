import AnnotationBridge.Session
import AnnotationBridge.Proofs.UiArrivals
import AnnotationBridge.Proofs.UiSimulation

/-!
# UI tasks run once, in order, on a marked thread

Whoever queues tasks and runs queues, from wherever and however deep: the tasks of each queue are
run in the order in which they were queued, and each once. A thread is marked exactly while it runs
a queue, and a run leaves the mark as it was, whether it returns or a task crashes. So nobody waits
for requests within a task, and nothing is shown outside one.

* `UiQueue.InOrder`: what this means for all that is done with a queue. `UiQueue.Course.inOrder`: it
  is so.
* `UiHost.Orderly`: what it means for any number of queues and threads.
* `UiHost.Run.tasks_in_order_marked`: both, at any time; and also while others queue tasks in the
  middle of a run.
-/

namespace AnnotationBridge

namespace UiQueue

variable {α : Type} {rounds : List (Round α)} {waiting : List (UiTask α)}

/-- Tasks have been run as they should, after certain rounds, on a thread that was marked or not
before. -/
structure InOrder (onUi : Bool) (rounds : List (Round α)) : Prop where
  /-- The tasks that took their turns are the first of those that were queued, in order, and each
  once; the others wait. -/
  inOrder : (turnsOf rounds).map UiTurn.task ++ (history onUi (rounds.map Round.use)).queue.pending =
    queuedIn rounds
  /-- Each did what its steps do. -/
  proper : ∀ x ∈ turnsOf rounds, x.Proper
  /-- The actions that were performed are theirs, turn by turn, and the thread was marked at
  each. -/
  performed : (history onUi (rounds.map Round.use)).log =
    ((turnsOf rounds).flatMap UiTurn.actions).map (·, true)
  /-- So it does not wait for requests at any of them. -/
  noJoin : ∀ p ∈ (history onUi (rounds.map Round.use)).log, ∀ (s : Session) (pass : Pass),
    (s.resolve p.2 pass).1 = .error .joinOnUiThread
  /-- Each run that no crash has ended has returned the number of turns that tasks took in it. -/
  returned : (history onUi (rounds.map Round.use)).counts = rounds.flatMap Round.returned
  /-- If no task has crashed, these numbers add up to that of all turns. -/
  counted : (∀ x ∈ turnsOf rounds, x.crashed = false) →
    (history onUi (rounds.map Round.use)).counts.sum = (turnsOf rounds).length
  /-- The thread is left as it was, also if a task has crashed. -/
  restored : (history onUi (rounds.map Round.use)).onUi = onUi
  /-- So nothing is shown on it then, if it was not marked. -/
  noApply : onUi = false → ∀ (a : Annotator) (r : PassResult),
    (a.apply (history onUi (rounds.map Round.use)).onUi r).1 = .error .notOnUiThread

/-- **All that is done with a queue is in order.** -/
theorem Course.inOrder (h : Course rounds waiting) (onUi : Bool) : InOrder onUi rounds where
  inOrder := by
    rw [h.history_eq onUi]
    exact h.order
  proper := h.proper
  performed := by rw [h.history_eq onUi]
  noJoin p hp s pass := by
    rw [h.history_eq onUi] at hp
    obtain ⟨action, -, rfl⟩ := List.mem_map.1 hp
    rfl
  returned := by rw [h.history_eq onUi]
  counted calm := by
    rw [h.history_eq onUi]
    exact h.sum_returned calm
  restored := by rw [h.history_eq onUi]
  noApply hoff a r := by
    rw [h.history_eq onUi, hoff]
    rfl

end UiQueue

namespace UiHost

variable {τ α : Type} {h t : UiHost τ} {acts : List (HostAct τ α)} {q : Nat}

/-- Each queue has a run in progress or none. -/
theorem exists_serves (h : UiHost τ) (q : Nat) : ∃ c?, h.Serves q c? := by
  by_cases hfree : h.Free q
  · exact ⟨none, .free hfree⟩
  · obtain ⟨th, hq⟩ := not_forall_not.1 hfree
    obtain ⟨c, hc, hcq⟩ := List.mem_map.1 hq
    exact ⟨some c, .call hc hcq⟩

/-- Tasks have been run as they should, when certain things have happened from the start on. -/
structure Orderly (acts : List (HostAct τ α)) (t : UiHost τ) : Prop where
  /-- The tasks that were started are the first of those that were queued, in order; the others
  wait. -/
  inOrder : ∀ q, startedIn q acts ++ t.pending q = queuedIn q acts
  /-- All of them have ended, each before the next one started, but for the one that is running; and
  unless one has crashed, the numbers that runs have returned or counted so far are those of the
  tasks that have ended. -/
  once : ∀ q, ∃ c?, t.Serves q c? ∧ Balanced q acts c?
  /-- If no run is in progress and no task has crashed, the numbers that runs returned add up to the
  number of tasks that were started. -/
  counted : ∀ q, t.Free q → (∀ act ∈ acts, ¬ act.Crashes q) →
    (returnedIn q acts).sum = (startedIn q acts).length
  /-- A thread is marked exactly while it runs a queue. -/
  marked : ∀ th, (t.threads th).marked = true ↔ (t.threads th).calls ≠ []
  /-- Meanwhile nobody waits for requests on it. -/
  noJoin : ∀ th, (t.threads th).calls ≠ [] → ∀ (s : Session) (p : Pass),
    (s.resolve (t.threads th).marked p).1 = .error .joinOnUiThread
  /-- At other times nothing is shown on it. -/
  noApply : ∀ th, (t.threads th).calls = [] → ∀ (a : Annotator) (r : PassResult),
    (a.apply (t.threads th).marked r).1 = .error .notOnUiThread
  /-- Actions were performed with the mark that was right at that time. -/
  performed : ∀ before th action marked after,
    acts = before ++ .did th (.performed action marked) :: after → ∃ s : UiHost τ,
      start.Run before s ∧ s.Run (.did th (.performed action marked) :: after) t ∧
        (marked = true ↔ (s.threads th).calls ≠ [])
  /-- A run that has ended has left its thread as it was, also if a task has crashed. -/
  restored : ∀ before th q during th' d after,
    acts = before ++ .did th (.called q) :: (during ++ .did th' d :: after) → d.ended? = some q →
    (∀ act ∈ during, ¬ act.Ends q) → ∃ s u : UiHost τ, start.Run before s ∧
      s.Run (.did th (.called q) :: (during ++ [.did th' d])) u ∧ u.Run after t ∧
        u.threads th = s.threads th

/-- The actions are performed with the mark of the thread. -/
theorem Step.marked_of_performed {k : UiHost τ} {th : Nat} {action : α} {marked : Bool}
    (step : Step h (.did th (.performed action marked)) k) : (h.threads th).marked = marked := by
  cases step with
  | did move access =>
    cases move with
    | performed => rfl

/-- A run that has ended has left its thread as it was. -/
theorem Run.exists_restored {before during after : List (HostAct τ α)} {th th' : Nat}
    {d : Deed τ α}
    (run : start.Run (before ++ .did th (.called q) :: (during ++ .did th' d :: after)) t)
    (hd : d.ended? = some q) (hduring : ∀ act ∈ during, ¬ act.Ends q) :
    ∃ s u : UiHost τ, start.Run before s ∧
      s.Run (.did th (.called q) :: (during ++ [.did th' d])) u ∧ u.Run after t ∧
        u.threads th = s.threads th := by
  obtain ⟨s, toCall, fromCall⟩ := run.exists_mid
  obtain ⟨s', call, within⟩ := fromCall.exists_first
  obtain ⟨u', inside, toEnd⟩ := within.exists_mid
  obtain ⟨u, fin, rest⟩ := toEnd.exists_first
  have hall := (Run.nil.snoc call).append (inside.snoc fin)
  exact ⟨s, u, toCall, hall, rest,
    inside.restored (toCall.exclusive exclusive_start) call hduring fin hd⟩

/-- **All that happens is in order.** -/
theorem Run.orderly (run : start.Run acts t) : Orderly acts t := by
  have hexclusive := run.exclusive exclusive_start
  have hfree : ∀ q, (start : UiHost τ).Free q := fun q th => List.not_mem_nil
  have hmarked : ∀ th, (t.threads th).marked = true ↔ (t.threads th).calls ≠ [] := fun th =>
    HostThread.marked_iff (run.marked marked_start th)
  refine
    { inOrder := run.conserved
      once := fun q => ?_
      counted := fun q free calm => ?_
      marked := hmarked
      noJoin := fun th hcalls s p => ?_
      noApply := fun th hcalls a r => ?_
      performed := fun before th action marked after hacts => ?_
      restored := fun before th q during th' d after hacts hd hduring => ?_ }
  · obtain ⟨c?, serves⟩ := t.exists_serves q
    exact ⟨c?, serves, run.balanced exclusive_start (hfree q) serves⟩
  · obtain ⟨hended, hcounted⟩ := run.balanced exclusive_start (hfree q) (.free free)
    rw [← hended]
    exact (hcounted calm).trans (congrArg List.length (List.append_nil _).symm)
  · rw [(hmarked th).2 hcalls]
    rfl
  · rw [Bool.eq_false_iff.2 fun hon => (hmarked th).1 hon hcalls]
    rfl
  · obtain rfl := hacts
    obtain ⟨s, toAct, fromAct⟩ := run.exists_mid
    obtain ⟨u, act, rest⟩ := fromAct.exists_first
    refine ⟨s, toAct, fromAct, ?_⟩
    rw [← act.marked_of_performed]
    exact HostThread.marked_iff (toAct.marked marked_start th)
  · obtain rfl := hacts
    exact run.exists_restored hd hduring

/-- **UI tasks run once, in order, on a marked thread.**

It is so whatever is done with a queue, at each point on the way: tasks take their turns in the
order in which they were queued, by others and by tasks, each once, and do what their steps do; the
thread is marked at each action, and left as it was; and what runs return are the numbers of turns.
It is so if others queue tasks in the middle of a run, between any two steps of the thread.

And it is so for any number of queues and threads, whatever tasks do. All that is done with a queue
is part of this: a host does it, which queues and starts the same tasks, performs the same actions,
and leaves the same tasks waiting. -/
theorem Run.tasks_in_order_marked (run : start.Run acts t) :
    Orderly acts t ∧
      (∀ {β : Type} (onUi : Bool) (queue : List (UiTask β)),
        (∀ queued taken t, UiThread.Meanwhile onUi queue queued taken t →
          UiThread.Stage onUi queue queued taken t) ∧
        ∃ queued taken, UiThread.Meanwhile onUi queue queued taken (UiThread.runPending onUi queue)) ∧
      ∀ {β : Type} (uses : List (UiQueue.Use β)),
        ∃ rounds waiting, rounds.map UiQueue.Round.use = uses ∧ UiQueue.Course rounds waiting ∧
          (∀ onUi done, done <+: rounds → UiQueue.InOrder onUi done) ∧
          ∃ (acts : List (HostAct (UiTask β) β)) (h : UiHost (UiTask β)), start.Run acts h ∧
            Orderly acts h ∧ queuedIn 0 acts = UiQueue.queuedIn rounds ∧
            startedIn 0 acts = (UiQueue.turnsOf rounds).map UiTurn.task ∧
            performedBy 0 acts = (UiQueue.history false uses).log ∧
            returnedIn 0 acts = (UiQueue.history false uses).counts ∧
            h.pending 0 = (UiQueue.history false uses).queue.pending ∧
            h.threads 0 = ⟨(UiQueue.history false uses).onUi, []⟩ := by
  refine ⟨run.orderly, fun onUi queue => ⟨fun queued taken t h => h.stage,
    UiThread.exists_meanwhile_runPending onUi queue⟩, fun {β} uses => ?_⟩
  obtain ⟨rounds, waiting, rfl, course⟩ := UiQueue.exists_course uses
  obtain ⟨acts, h, run', hperformed, hqueued, hstarted, hreturned, hpending, hthread⟩ :=
    course.exists_run
  refine ⟨rounds, waiting, rfl, course, fun onUi done hdone => ?_, acts, h, run', run'.orderly,
    hqueued, hstarted, ?_⟩
  · obtain ⟨waiting, before⟩ := course.exists_of_prefix hdone
    exact before.inOrder onUi
  · rw [course.history_eq false]
    exact ⟨hperformed, hreturned, hpending, hthread⟩

/-- What happens when a task has its thread run another queue, in which a task crashes, and goes
on. -/
def nestedCrash : List (HostAct String String) :=
  [.queued 0 "outer", .queued 1 "inner", .did 7 (.called 0), .did 7 (.started 0 "outer"),
    .did 7 (.called 1), .did 7 (.started 1 "inner"), .did 7 (.crashed 1 "inner"),
    .did 7 (.performed "join" true), .did 7 (.finished 0 "outer"), .did 7 (.returned 0 1),
    .did 7 (.performed "apply" false)]

/-- One thread does something. -/
theorem Run.deed {t' : HostThread τ} {d : Deed τ α} {pending : Nat → List τ} {k : UiHost τ}
    (run : h.Run acts k) (th : Nat) (move : (k.threads th).Move d t') (access : k.Access d pending) :
    h.Run (acts ++ [.did th d]) ⟨pending, Function.update k.threads th t'⟩ :=
  run.snoc (.did move access)

/-- Such a run can be. -/
theorem exists_run_nestedCrash : ∃ t, start.Run nestedCrash t := by
  have idle : ∀ {t : HostThread String}, t.calls = [] → t.AtCode := by
    intro t ht c hc
    rw [ht] at hc
    cases hc
  have running : ∀ {t : HostThread String} {c outer x}, t.calls = c :: outer → c.task = some x →
      t.AtCode := by
    intro t c outer x ht hx c' hc
    rw [ht] at hc
    obtain rfl := Option.some.inj hc
    exact hx ▸ Option.some_ne_none x
  have free : ∀ {h : UiHost String} {q}, (∀ th, th ≠ 7 → (h.threads th).queues = []) →
      q ∉ (h.threads 7).queues → h.Free q := by
    intro h q hother hq th
    by_cases hth : th = 7
    · exact hth ▸ hq
    · rw [hother th hth]
      exact List.not_mem_nil
  have run : start.Run ([] : List (HostAct String String)) start := .nil
  have run := run.snoc (.queued 0 "outer")
  have run := run.snoc (.queued 1 "inner")
  have run := run.deed 7 (.called 0 (idle rfl)) (.called (free (fun _ _ => rfl) (by decide)))
  have run := run.deed 7 (.started "outer" rfl) (.started rfl)
  have run := run.deed 7 (.called 1 (running rfl rfl))
    (.called (free (fun th hth => by simp [hth]; rfl) (by decide)))
  have run := run.deed 7 (.started "inner" rfl) (.started rfl)
  have run := run.deed 7 (.crashed rfl) (.crashed 1 "inner")
  have run := run.deed 7 (.performed "join" (running rfl rfl)) (.performed "join" true)
  have run := run.deed 7 (.finished rfl) (.finished 0 "outer")
  have run := run.deed 7 (.returned rfl) (.returned 1 rfl)
  have run := run.deed 7 (.performed "apply" (idle rfl)) (.performed "apply" false)
  exact ⟨_, run⟩

end UiHost

namespace UiQueue.Sample

/-- A task that has another queue run in its midst, and queues a task. -/
def first : UiTask String :=
  .mk [.perform "a", .pump [.perform "inner" []], .perform "b", .queue (.perform "later" [])]

/-- A task that has another queue run, in which a task crashes. -/
def second : UiTask String :=
  .mk [.perform "c", .pump [.mk [.crash]], .perform "never"]

/-- Both are queued, and the queue is run until the second one crashes; then it is run again. -/
def uses : List (Use String) :=
  [.invokeLater first, .invokeLater second, .runPending, .invokeLater (.perform "d" []), .runPending]

/-- What comes of this: only the second run returns. -/
theorem history_uses (onUi : Bool) : history onUi uses =
    ⟨⟨[], true⟩, onUi, ["a", "inner", "b", "c", "later", "d"].map (·, true), [2]⟩ := by
  have hfirst : UiThread.runPending onUi [first, second] =
      ⟨onUi, [], ["a", "inner", "b", "c"].map (·, true), some none, [.perform "later" []]⟩ := by
    simp [UiThread.runPending, UiThread.start, UiThread.finish, UiThread.step?, UiThread.markBefore,
      UiTask.perform, first, second]
  have hsecond : UiThread.runPending onUi [.perform "later" [], .perform "d" []] =
      ⟨onUi, [], ["later", "d"].map (·, true), some (some 2), []⟩ := by
    simp [UiThread.runPending, UiThread.start, UiThread.finish, UiThread.step?, UiTask.perform]
  simp [history, uses, History.use, UiQueue.runPending, empty, invokeLater, hfirst, hsecond]

end UiQueue.Sample

namespace UiHost

/-- When a task crashes in a queue that another task has run, all is still in order, on a host with
two queues as well as when such a queue is run again afterwards. -/
theorem tasks_in_order_marked_nested_crash :
    (∃ t, start.Run nestedCrash t ∧ Orderly nestedCrash t) ∧
      ∃ rounds, rounds.map UiQueue.Round.use = UiQueue.Sample.uses ∧
        (UiQueue.turnsOf rounds).map UiTurn.task = UiQueue.queuedIn rounds ∧
        ((UiQueue.turnsOf rounds).flatMap UiTurn.actions).map (·, true) =
          ["a", "inner", "b", "c", "later", "d"].map (·, true) ∧
        rounds.flatMap UiQueue.Round.returned = [2] ∧
        ∀ onUi, (UiQueue.history onUi UiQueue.Sample.uses).onUi = onUi := by
  obtain ⟨t, run⟩ := exists_run_nestedCrash
  obtain ⟨orderly, -, program⟩ := run.tasks_in_order_marked
  obtain ⟨rounds, waiting, huses, -, inOrder, -⟩ := program UiQueue.Sample.uses
  refine ⟨⟨t, run, orderly⟩, rounds, huses, ?_, ?_, ?_, fun onUi => ?_⟩
  · have h := (inOrder false rounds List.prefix_rfl).inOrder
    rwa [huses, UiQueue.Sample.history_uses, List.append_nil] at h
  · have h := (inOrder false rounds List.prefix_rfl).performed
    rw [huses, UiQueue.Sample.history_uses] at h
    exact h.symm
  · have h := (inOrder false rounds List.prefix_rfl).returned
    rw [huses, UiQueue.Sample.history_uses] at h
    exact h.symm
  · have h := (inOrder onUi rounds List.prefix_rfl).restored
    rwa [huses] at h

end UiHost

end AnnotationBridge
