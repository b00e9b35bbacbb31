import AnnotationBridge.Proofs.UiCourse
import AnnotationBridge.Proofs.UiHost

/-!
# The run of a queue as a run of a host

What the steps of a task do can be done by a thread of a host, so whatever is done with a queue
whose tasks are given by their steps, a host does it. The queue has the number 0, and each queue
that a task has the thread run gets a number of its own.

* `UiHost.Passage`: what a part of a run means for one queue. `UiHost.Passage.trans`: one part after
  another.
* `UiHost.hosts_of_does`: a host does what the steps of a task do.
* `UiHost.exists_passage_of_served`: a host serves a queue in the same way.
* `UiQueue.Course.exists_run`: all that is done with a queue is a run of a host, in which the same
  tasks are queued and started.
-/

namespace AnnotationBridge

variable {τ α : Type}

/-- The action that a thread performs, with the mark that it has. -/
def HostAct.performed? (th : Nat) : HostAct τ α → Option (α × Bool)
  | .did th' (.performed action marked) => if th' = th then some (action, marked) else none
  | _ => none

namespace UiHost

/-- The actions that a thread has performed, in order. -/
def performedBy (th : Nat) (acts : List (HostAct τ α)) : List (α × Bool) :=
  acts.filterMap (HostAct.performed? th)

/-- One thread is used at most, and only queues with small numbers. -/
structure Spare (n : Nat) (h : UiHost τ) : Prop where
  pos : 0 < n
  threads : ∀ th, th ≠ 0 → (h.threads th).calls = []
  calls : ∀ c ∈ (h.threads 0).calls, c.queue < n
  pending : ∀ q, n ≤ q → h.pending q = []

variable {h k l : UiHost τ} {n m n' q : Nat} {t : HostThread τ}

/-- The thread that was changed is the new one. -/
theorem threads_update (h : UiHost τ) (th : Nat) (t : HostThread τ) (pending : Nat → List τ) :
    (⟨pending, Function.update h.threads th t⟩ : UiHost τ).threads th = t :=
  Function.update_self ..

/-- What is spare above a number is spare above a greater one. -/
theorem Spare.mono (hs : h.Spare n) (hle : n ≤ m) : h.Spare m where
  pos := Nat.lt_of_lt_of_le hs.pos hle
  threads := hs.threads
  calls c hc := Nat.lt_of_lt_of_le (hs.calls c hc) hle
  pending q hq := hs.pending q (Nat.le_trans hle hq)

/-- The innermost run of the thread has a queue with a small number. -/
theorem Spare.lt_of_top {c : UiCall τ} {outer : List (UiCall τ)} {marked : Bool} (hs : h.Spare n)
    (thread : h.threads 0 = ⟨marked, c :: outer⟩) : c.queue < n := by
  refine hs.calls c ?_
  rw [thread]
  exact List.mem_cons_self

/-- A queue that the thread does not run is free. -/
theorem Spare.free (hs : h.Spare n) (hq : ∀ c ∈ (h.threads 0).calls, c.queue ≠ q) : h.Free q := by
  intro th hmem
  obtain ⟨c, hc, rfl⟩ := List.mem_map.1 hmem
  by_cases hth : th = 0
  · obtain rfl := hth
    exact hq c hc rfl
  · rw [hs.threads th hth] at hc
    exact List.not_mem_nil hc

/-! ### Parts of runs -/

/-- A part of a run, in which the thread performs certain actions, each of them marked. Certain
tasks are put into a queue, certain tasks wait in it at the end, and its runs return certain
numbers, while other queues are left alone unless they are new. -/
structure Passage (h : UiHost τ) (n q : Nat) (actions : List α) (queued waiting : List τ)
    (returned : List Nat) (acts : List (HostAct τ α)) (k : UiHost τ) (m : Nat) : Prop where
  run : h.Run acts k
  le : n ≤ m
  spare : k.Spare m
  performed : performedBy 0 acts = actions.map (·, true)
  queued : queuedIn q acts = queued
  pending : k.pending q = waiting
  returned : returnedIn q acts = returned
  others : ∀ p, p < n → p ≠ q →
    queuedIn p acts = [] ∧ k.pending p = h.pending p ∧ returnedIn p acts = []

variable {actions actions' : List α} {queued queued' waiting waiting' : List τ}
  {returned returned' : List Nat} {acts acts' : List (HostAct τ α)}

/-- One part after another. -/
theorem Passage.trans (first : Passage h n q actions queued waiting returned acts k m)
    (second : Passage k m q actions' queued' waiting' returned' acts' l n') :
    Passage h n q (actions ++ actions') (queued ++ queued') waiting' (returned ++ returned')
      (acts ++ acts') l n' where
  run := first.run.append second.run
  le := Nat.le_trans first.le second.le
  spare := second.spare
  performed := by
    rw [List.map_append, ← first.performed, ← second.performed]
    exact List.filterMap_append
  queued := by
    rw [← first.queued, ← second.queued]
    exact List.filterMap_append
  pending := second.pending
  returned := by
    rw [← first.returned, ← second.returned]
    exact List.filterMap_append
  others p hp hne := by
    obtain ⟨hqueued, hpending, hreturned⟩ := first.others p hp hne
    obtain ⟨hqueued', hpending', hreturned'⟩ := second.others p (Nat.lt_of_lt_of_le hp first.le) hne
    refine ⟨?_, hpending'.trans hpending, ?_⟩
    · exact List.filterMap_append.trans (congrArg₂ (· ++ ·) hqueued hqueued')
    · exact List.filterMap_append.trans (congrArg₂ (· ++ ·) hreturned hreturned')

/-- Nothing happens. -/
theorem Passage.refl (hs : h.Spare n) (q : Nat) :
    Passage h n q [] [] (h.pending q) [] ([] : List (HostAct τ α)) h n :=
  ⟨.nil, Nat.le_refl n, hs, rfl, rfl, rfl, rfl, fun _ _ _ => ⟨rfl, rfl, rfl⟩⟩

/-- What happens to a new queue leaves any other alone. -/
theorem Passage.aside (part : Passage h (n + 1) n actions queued waiting returned acts k m)
    (hq : q < n) : Passage h n q actions [] (h.pending q) [] acts k m := by
  obtain ⟨hqueued, hpending, hreturned⟩ := part.others q (Nat.lt_succ_of_lt hq) (Nat.ne_of_lt hq)
  exact ⟨part.run, Nat.le_of_succ_le part.le, part.spare, part.performed, hqueued, hpending,
    hreturned, fun p hp _ => part.others p (Nat.lt_succ_of_lt hp) (Nat.ne_of_lt hp)⟩

/-- Tasks are queued one by one. -/
theorem exists_passage_queued (hs : h.Spare n) (hq : q < n) (tasks : List τ) :
    ∃ k, Passage h n q ([] : List α) tasks (h.pending q ++ tasks) [] (tasks.map (.queued q)) k n ∧
      k.threads = h.threads := by
  induction tasks generalizing h with
  | nil =>
    rw [List.append_nil]
    exact ⟨h, .refl hs q, rfl⟩
  | cons x tasks ih =>
    let k : UiHost τ := ⟨Function.update h.pending q (h.pending q ++ [x]), h.threads⟩
    have hk : k.pending q = h.pending q ++ [x] := Function.update_self ..
    have hother : ∀ p, p ≠ q → k.pending p = h.pending p := fun p hne =>
      Function.update_of_ne hne _ _
    have first : Passage h n q ([] : List α) [x] (k.pending q) [] [.queued q x] k n :=
      { run := Run.nil.snoc (.queued q x)
        le := Nat.le_refl n
        spare := ⟨hs.pos, hs.threads, hs.calls, fun p hp =>
          (hother p (Nat.ne_of_gt (Nat.lt_of_lt_of_le hq hp))).trans (hs.pending p hp)⟩
        performed := rfl
        queued := by simp [queuedIn, HostAct.queued?]
        pending := rfl
        returned := rfl
        others := fun p _ hne => ⟨by simp [queuedIn, HostAct.queued?, hne.symm], hother p hne, rfl⟩ }
    obtain ⟨l, rest, hthreads⟩ := ih first.spare
    rw [hk, List.append_assoc] at rest
    exact ⟨l, first.trans rest, hthreads⟩

/-- The thread does something that is about one queue at most. -/
theorem passage_did {d : Deed τ α} {pending : Nat → List τ} (actions : List α) (hs : h.Spare n)
    (hq : q < n)
    (move : (h.threads 0).Move d t) (access : h.Access d pending)
    (calls : ∀ c ∈ t.calls, c.queue < n) (other : ∀ p, p ≠ q → pending p = h.pending p)
    (about : ∀ p, p ≠ q → d.queue? ≠ some p)
    (performed : performedBy 0 [HostAct.did 0 d] = actions.map (·, true)) :
    Passage h n q actions [] (pending q) (returnedIn q [HostAct.did 0 d]) [.did 0 d]
      ⟨pending, Function.update h.threads 0 t⟩ n where
  run := Run.nil.snoc (.did move access)
  le := Nat.le_refl n
  spare :=
    { pos := hs.pos
      threads := fun th hth => by simpa [hth] using hs.threads th hth
      calls := by rwa [threads_update]
      pending := fun p hp =>
        (other p (Nat.ne_of_gt (Nat.lt_of_lt_of_le hq hp))).trans (hs.pending p hp) }
  performed := performed
  queued := rfl
  pending := rfl
  returned := rfl
  others p hp hne := by
    have hreturned : HostAct.returned? p (.did 0 d) = none :=
      (HostAct.eq_none_of_other (about p hne)).2.2
    exact ⟨rfl, other p hne, by simp [returnedIn, hreturned]⟩

/-! ### What a host does -/

section

variable {before marked : Bool} {x : τ} {ran : Nat} {outer : List (UiCall τ)} {rest : List τ}

/-- The thread takes a task that waits. -/
theorem exists_passage_started (hs : h.Spare n)
    (thread : h.threads 0 = ⟨true, ⟨q, before, none, ran⟩ :: outer⟩)
    (waits : h.pending q = x :: rest) :
    ∃ k, Passage h n q ([] : List α) [] rest [] [.did 0 (.started q x)] k n ∧
      k.threads 0 = ⟨true, ⟨q, before, some x, ran⟩ :: outer⟩ := by
  have hpart := passage_did (q := q) ([] : List α) hs (hs.lt_of_top thread)
    (.started x (congrArg HostThread.calls thread)) (.started waits)
    (by simpa [thread] using hs.calls) (fun p hne => Function.update_of_ne hne _ _)
    (fun p hne heq => hne (Option.some.inj heq).symm) rfl
  rw [Function.update_self] at hpart
  refine ⟨_, hpart, ?_⟩
  rw [threads_update, thread]

/-- The task that is running finishes. -/
theorem exists_passage_finished (hs : h.Spare n)
    (thread : h.threads 0 = ⟨true, ⟨q, before, some x, ran⟩ :: outer⟩) :
    ∃ k, Passage h n q ([] : List α) [] (h.pending q) [] [.did 0 (.finished q x)] k n ∧
      k.threads 0 = ⟨true, ⟨q, before, none, ran + 1⟩ :: outer⟩ := by
  have hpart := passage_did (q := q) ([] : List α) hs (hs.lt_of_top thread)
    (.finished (congrArg HostThread.calls thread)) (.finished q x)
    (by simpa [thread] using hs.calls) (fun p _ => rfl)
    (fun p hne heq => hne (Option.some.inj heq).symm) rfl
  refine ⟨_, hpart, ?_⟩
  rw [threads_update, thread]

/-- The task that is running crashes, and its run ends. -/
theorem exists_passage_crashed (hs : h.Spare n)
    (thread : h.threads 0 = ⟨true, ⟨q, before, some x, ran⟩ :: outer⟩) :
    ∃ k, Passage h n q ([] : List α) [] (h.pending q) [] [.did 0 (.crashed q x)] k n ∧
      k.threads 0 = ⟨before, outer⟩ := by
  have hpart := passage_did (q := q) ([] : List α) hs (hs.lt_of_top thread)
    (.crashed (congrArg HostThread.calls thread)) (.crashed q x)
    (fun c hc => hs.calls c (by rw [thread]; exact List.mem_cons_of_mem _ hc)) (fun p _ => rfl)
    (fun p hne heq => hne (Option.some.inj heq).symm) rfl
  exact ⟨_, hpart, threads_update ..⟩

/-- The run of an empty queue returns. -/
theorem exists_passage_returned (hs : h.Spare n)
    (thread : h.threads 0 = ⟨true, ⟨q, before, none, ran⟩ :: outer⟩) (empty : h.pending q = []) :
    ∃ k, Passage h n q ([] : List α) [] [] [ran] [.did 0 (.returned q ran)] k n ∧
      k.threads 0 = ⟨before, outer⟩ := by
  have hpart := passage_did (q := q) ([] : List α) hs (hs.lt_of_top thread)
    (.returned (congrArg HostThread.calls thread)) (.returned ran empty)
    (fun c hc => hs.calls c (by rw [thread]; exact List.mem_cons_of_mem _ hc)) (fun p _ => rfl)
    (fun p hne heq => hne (Option.some.inj heq).symm) rfl
  have hreturned : returnedIn q [(.did 0 (.returned q ran) : HostAct τ α)] = [ran] := by
    simp [returnedIn, HostAct.returned?]
  rw [empty, hreturned] at hpart
  exact ⟨_, hpart, threads_update ..⟩

/-- The thread runs a queue that is free. -/
theorem exists_passage_called (hs : h.Spare n) (hq : q < n) (thread : h.threads 0 = ⟨marked, outer⟩)
    (code : (h.threads 0).AtCode) (free : ∀ c ∈ outer, c.queue ≠ q) :
    ∃ k, Passage h n q ([] : List α) [] (h.pending q) [] [.did 0 (.called q)] k n ∧
      k.threads 0 = ⟨true, ⟨q, marked, none, 0⟩ :: outer⟩ := by
  have hfree : h.Free q := hs.free (by rwa [thread])
  have hcalls : ∀ c ∈ (⟨q, (h.threads 0).marked, none, 0⟩ :: (h.threads 0).calls : List (UiCall τ)),
      c.queue < n := List.forall_mem_cons.2 ⟨hq, hs.calls⟩
  have hpart := passage_did (q := q) ([] : List α) hs hq (.called q code) (.called hfree)
    hcalls (fun p _ => rfl) (fun p hne heq => hne (Option.some.inj heq).symm) rfl
  refine ⟨_, hpart, ?_⟩
  rw [threads_update, thread]

end

/-- Whichever task is running, a host can let it do certain things: the thread performs certain
actions, the queues that it runs meanwhile included, and certain tasks are put into the queue of the
task. -/
def Hosts (actions : List α) (queued : List (UiTask α)) : Prop :=
  ∀ (h : UiHost (UiTask α)) (n q : Nat) (before : Bool) (task : UiTask α) (ran : Nat)
    (outer : List (UiCall (UiTask α))), h.Spare n →
    h.threads 0 = ⟨true, ⟨q, before, some task, ran⟩ :: outer⟩ →
    ∃ acts k m, Passage h n q actions queued (h.pending q ++ queued) [] acts k m ∧
      k.threads 0 = h.threads 0

section

variable {h : UiHost (UiTask α)} {queue left queued : List (UiTask α)} {turns : List (UiTurn α)}
  {steps : List (UiStep α)} {crashed before : Bool} {ran : Nat} {outer : List (UiCall (UiTask α))}

/-- **A host serves a queue** if it does what the tasks did that took their turns. The run of the
queue ends as it should: it returns the number of turns, unless a task has crashed. -/
theorem exists_passage_of_served (hserved : Served queue turns left)
    (hturns : ∀ x ∈ turns, Hosts x.actions x.queued) (hs : h.Spare n)
    (thread : h.threads 0 = ⟨true, ⟨q, before, none, ran⟩ :: outer⟩) (waits : h.pending q = queue) :
    ∃ acts k m, Passage h n q (turns.flatMap UiTurn.actions) (turns.flatMap UiTurn.queued) left
        (if turns.any UiTurn.crashed then [] else [ran + turns.length]) acts k m ∧
      k.threads 0 = ⟨before, outer⟩ := by
  induction hserved generalizing h n ran with
  | done =>
    obtain ⟨k, part, hthread⟩ := exists_passage_returned (α := α) hs thread waits
    exact ⟨_, k, n, part, hthread⟩
  | @next x queue left turns calm rest ih =>
    obtain ⟨hx, hturns⟩ := List.forall_mem_cons.1 hturns
    -- The first task is started, takes its turn and finishes; then the others are served.
    obtain ⟨k₁, started, thread₁⟩ := exists_passage_started (α := α) hs thread waits
    obtain ⟨acts, k₂, m, turn, thread₂⟩ := hx k₁ n q before x.task ran outer started.spare thread₁
    obtain ⟨k₃, finished, thread₃⟩ :=
      exists_passage_finished (α := α) turn.spare (thread₂.trans thread₁)
    have waits₃ : k₃.pending q = queue ++ x.queued := by
      rw [finished.pending, turn.pending, started.pending]
    obtain ⟨later, k₄, m', others, thread₄⟩ := ih hturns finished.spare thread₃ waits₃
    have hall := ((started.trans turn).trans finished).trans others
    simp only [List.nil_append, List.append_nil] at hall
    rw [List.flatMap_cons, List.flatMap_cons, List.any_cons, calm, Bool.false_or, List.length_cons,
      Nat.add_comm turns.length, ← Nat.add_assoc]
    exact ⟨_, k₄, m', hall, thread₄⟩
  | @crashed x queue crash =>
    obtain ⟨k₁, started, thread₁⟩ := exists_passage_started (α := α) hs thread waits
    obtain ⟨acts, k₂, m, turn, thread₂⟩ :=
      hturns x List.mem_cons_self k₁ n q before x.task ran outer started.spare thread₁
    obtain ⟨k₃, crashed, thread₃⟩ :=
      exists_passage_crashed (α := α) turn.spare (thread₂.trans thread₁)
    have hall := (started.trans turn).trans crashed
    rw [turn.pending, started.pending] at hall
    simp only [List.nil_append, List.append_nil] at hall
    rw [List.flatMap_cons, List.flatMap_cons, List.any_cons, crash, Bool.true_or, if_pos rfl,
      List.flatMap_nil, List.flatMap_nil, List.append_nil, List.append_nil]
    exact ⟨_, k₃, m, hall, thread₃⟩

/-- A host runs a queue that is free, from within a task or while nothing runs, and goes on as
before. -/
theorem exists_passage_of_call {marked : Bool} (hserved : Served queue turns left)
    (hturns : ∀ x ∈ turns, Hosts x.actions x.queued) (hs : h.Spare n) (hq : q < n)
    (thread : h.threads 0 = ⟨marked, outer⟩) (code : (h.threads 0).AtCode)
    (free : ∀ c ∈ outer, c.queue ≠ q) (waits : h.pending q = queue) :
    ∃ acts k m, Passage h n q (turns.flatMap UiTurn.actions) (turns.flatMap UiTurn.queued) left
        (if turns.any UiTurn.crashed then [] else [turns.length]) acts k m ∧
      k.threads 0 = h.threads 0 := by
  obtain ⟨k₁, called, thread₁⟩ := exists_passage_called (α := α) hs hq thread code free
  obtain ⟨acts, k₂, m, served, thread₂⟩ := exists_passage_of_served hserved hturns called.spare
    thread₁ (called.pending.trans waits)
  have hall := called.trans served
  rw [List.nil_append, List.nil_append, List.nil_append, Nat.zero_add] at hall
  exact ⟨_, k₂, m, hall, thread₂.trans thread.symm⟩

/-- A host that has a task run another queue: the tasks are put into a queue that is new. -/
theorem exists_passage_of_pump {task : UiTask α} (hserved : Served queue turns left)
    (hturns : ∀ x ∈ turns, Hosts x.actions x.queued) (hs : h.Spare n)
    (thread : h.threads 0 = ⟨true, ⟨q, before, some task, ran⟩ :: outer⟩) :
    ∃ acts k m, Passage h n q (turns.flatMap UiTurn.actions) [] (h.pending q) [] acts k m ∧
      k.threads 0 = h.threads 0 := by
  have hcalls := hs.calls
  have code : (h.threads 0).AtCode := by
    rw [thread]
    intro c hc
    obtain rfl := Option.some.inj hc
    exact Option.some_ne_none task
  rw [thread] at hcalls
  obtain ⟨k₁, filled, hthreads⟩ := exists_passage_queued (α := α) (hs.mono (Nat.le_succ n))
    (Nat.lt_succ_self n) queue
  rw [hs.pending n (Nat.le_refl n), List.nil_append] at filled
  rw [← hthreads] at thread code
  obtain ⟨acts, k₂, m, served, thread₂⟩ := exists_passage_of_call hserved hturns filled.spare
    (Nat.lt_succ_self n) thread code (fun c hc => Nat.ne_of_lt (hcalls c hc)) filled.pending
  have hall := (filled.trans served).aside (hs.lt_of_top (hthreads ▸ thread))
  rw [List.nil_append] at hall
  exact ⟨_, k₂, m, hall, thread₂.trans (congrFun hthreads 0)⟩

/-- **A host does what the steps of a task do.** -/
theorem hosts_of_does (hdoes : UiTask.Does steps actions queued crashed) :
    Hosts actions queued := by
  induction hdoes with
  | done | crash =>
    intro h n q before task ran outer hs thread
    rw [List.append_nil]
    exact ⟨[], h, n, .refl hs q, rfl⟩
  | @perform steps actions queued crashed action rest ih =>
    intro h n q before task ran outer hs thread
    have hmarked : (h.threads 0).marked = true := congrArg HostThread.marked thread
    have code : (h.threads 0).AtCode := by
      rw [thread]
      intro c hc
      obtain rfl := Option.some.inj hc
      exact Option.some_ne_none task
    have first : Passage h n q [action] [] (h.pending q) []
        [.did 0 (.performed action (h.threads 0).marked)] h n := by
      have hpart := passage_did [action] hs (hs.lt_of_top thread)
        (.performed action code) (.performed action _) hs.calls (fun p _ => rfl)
        (fun p _ => (Option.some_ne_none p).symm) (by rw [hmarked]; rfl)
      rwa [Function.update_eq_self] at hpart
    obtain ⟨acts, k, m, later, hthread⟩ := ih h n q before task ran outer hs thread
    exact ⟨_, k, m, first.trans later, hthread⟩
  | @queue steps actions queued crashed later rest ih =>
    intro h n q before task ran outer hs thread
    obtain ⟨k₁, first, hthreads⟩ := exists_passage_queued (α := α) hs (hs.lt_of_top thread) [later]
    obtain ⟨acts, k₂, m, others, hthread⟩ := ih k₁ n q before task ran outer first.spare
      ((congrFun hthreads 0).trans thread)
    have hall := first.trans others
    rw [first.pending, List.append_assoc] at hall
    exact ⟨_, k₂, m, hall, hthread.trans (congrFun hthreads 0)⟩
  | pump served proper calm rest ihturns ih =>
    intro h n q before task ran outer hs thread
    obtain ⟨acts, k₁, m, first, thread₁⟩ := exists_passage_of_pump served ihturns hs thread
    obtain ⟨later, k₂, m', others, thread₂⟩ := ih k₁ m q before task ran outer first.spare
      (thread₁.trans thread)
    have hall := first.trans others
    rw [first.pending] at hall
    exact ⟨_, k₂, m', hall, thread₂.trans thread₁⟩
  | pumpCrashed served proper crash ihturns =>
    intro h n q before task ran outer hs thread
    obtain ⟨acts, k, m, part, thread₁⟩ := exists_passage_of_pump served ihturns hs thread
    rw [List.append_nil]
    exact ⟨acts, k, m, part, thread₁⟩

end

end UiHost

/-! ### All that is done with a queue -/

namespace UiQueue

open UiHost

/-- **All that is done with a queue is a run of a host**: the thread performs the same actions, the
same tasks are queued and started, runs return the same, and the same tasks wait. -/
theorem Course.exists_run {rounds : List (Round α)} {waiting : List (UiTask α)}
    (h : Course rounds waiting) :
    ∃ (acts : List (HostAct (UiTask α) α)) (t : UiHost (UiTask α)), UiHost.start.Run acts t ∧
      performedBy 0 acts = ((turnsOf rounds).flatMap UiTurn.actions).map (·, true) ∧
      UiHost.queuedIn 0 acts = queuedIn rounds ∧
      startedIn 0 acts = (turnsOf rounds).map UiTurn.task ∧
      returnedIn 0 acts = rounds.flatMap Round.returned ∧
      t.pending 0 = waiting ∧ t.threads 0 = ⟨false, []⟩ := by
  suffices hpart : ∃ acts t n, Passage (UiHost.start : UiHost (UiTask α)) 1 0
      ((turnsOf rounds).flatMap UiTurn.actions) (queuedIn rounds) waiting
      (rounds.flatMap Round.returned) acts t n ∧ t.threads 0 = ⟨false, []⟩ by
    obtain ⟨acts, t, n, part, hthread⟩ := hpart
    refine ⟨acts, t, part.run, part.performed, part.queued, ?_, part.returned, part.pending, hthread⟩
    have hconserved := part.run.conserved 0
    rw [part.pending, part.queued, ← h.order] at hconserved
    exact List.append_cancel_right hconserved
  induction h with
  | nil =>
    exact ⟨[], UiHost.start, 1, .refl ⟨Nat.one_pos, fun _ _ => rfl,
      fun c hc => absurd hc List.not_mem_nil, fun _ _ => rfl⟩ 0, rfl⟩
  | @invokeLater rounds waiting task before ih =>
    obtain ⟨acts, t, n, part, hthread⟩ := ih
    obtain ⟨k, last, hthreads⟩ := exists_passage_queued (α := α) part.spare part.spare.pos [task]
    rw [part.pending] at last
    have hall := part.trans last
    rw [List.append_nil, List.append_nil] at hall
    rw [turnsOf_concat, queuedIn_concat, List.append_nil, List.flatMap_append,
      List.flatMap_singleton]
    exact ⟨_, k, n, (List.append_nil (rounds.flatMap Round.returned)).symm ▸ hall,
      (congrFun hthreads 0).trans hthread⟩
  | @runPending rounds waiting left turns before served proper ih =>
    obtain ⟨acts, t, n, part, hthread⟩ := ih
    have code : (t.threads 0).AtCode := by
      rw [hthread]
      exact fun c hc => absurd hc.symm (Option.some_ne_none c)
    obtain ⟨later, k, m, last, hsame⟩ := exists_passage_of_call served
      (fun x hx => hosts_of_does (proper x hx)) part.spare part.spare.pos hthread code
      (fun c hc => absurd hc List.not_mem_nil) part.pending
    rw [turnsOf_concat, queuedIn_concat, List.flatMap_append, List.flatMap_append,
      List.flatMap_singleton]
    exact ⟨_, k, m, part.trans last, hsame.trans hthread⟩

end UiQueue

end AnnotationBridge
