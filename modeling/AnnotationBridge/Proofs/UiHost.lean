import AnnotationBridge.UiQueue
import Mathlib.Algebra.GroupWithZero.Nat
import Mathlib.Data.List.Nodup

/-!
# Threads that run UI queues

Any number of threads run any number of queues. Anyone may queue a task at any time, another thread
as well as a task that is running. A thread that runs a queue takes the tasks one by one until none
is left, and no other run may have the queue meanwhile. A task may have its thread run another
queue, and so on. What tasks there are and what they do is left open; if one crashes, its run ends,
and the task that called for the run goes on or crashes as well.

* `UiCall`: a run in progress. `HostThread`: a thread with its runs. `HostThread.Move`: what it
  does.
* `UiHost`: queues and threads. `UiHost.Step`, `UiHost.Run`: what happens.
* `HostThread.Move.marks`: a thread is marked exactly while it runs a queue.
* `UiHost.Step.exclusive`: no queue has two runs. `UiHost.Run.restored`: a run leaves its thread as
  it was.
* `UiHost.Run.conserved`: tasks are started in the order in which they were queued.
* `UiHost.Run.balanced`: which of them have ended, and what runs return.
-/

namespace AnnotationBridge

/-- A run of a queue in progress. -/
structure UiCall (τ : Type) where
  queue : Nat
  /-- Whether the thread was marked before the run. -/
  before : Bool
  /-- The task that is running; there is none before the first task and between two. -/
  task : Option τ
  /-- The number of tasks that have finished. -/
  ran : Nat

/-- A thread with its runs in progress, the innermost first. -/
structure HostThread (τ : Type) where
  /-- Whether the thread is marked as the UI thread. -/
  marked : Bool
  calls : List (UiCall τ)

/-- What a thread does. -/
inductive Deed (τ α : Type) where
  | performed (action : α) (marked : Bool)
  | called (queue : Nat)
  | started (queue : Nat) (task : τ)
  | finished (queue : Nat) (task : τ)
  | returned (queue ran : Nat)
  | crashed (queue : Nat) (task : τ)

variable {τ α : Type}

/-- The queue that a deed is about. -/
def Deed.queue? : Deed τ α → Option Nat
  | .performed _ _ => none
  | .called q | .started q _ | .finished q _ | .returned q _ | .crashed q _ => some q

/-- The queue whose run ends with a deed. -/
def Deed.ended? : Deed τ α → Option Nat
  | .returned q _ | .crashed q _ => some q
  | _ => none

/-- The queues that a thread runs after a deed. -/
def Deed.queuesAfter (queues : List Nat) : Deed τ α → List Nat
  | .called q => q :: queues
  | .returned _ _ | .crashed _ _ => queues.tail
  | _ => queues

namespace HostThread

/-- Whether the program has control on a thread: no queue is run, or a task is running. -/
def AtCode (t : HostThread τ) : Prop :=
  ∀ c, t.calls.head? = some c → c.task ≠ none

/-- What a thread may do next. A run marks the thread, and when it ends, in whatever way, the mark
is what it was before. -/
inductive Move (t : HostThread τ) : Deed τ α → HostThread τ → Prop where
  | performed (action : α) (code : t.AtCode) : Move t (.performed action t.marked) t
  | called (q : Nat) (code : t.AtCode) :
    Move t (.called q) ⟨true, ⟨q, t.marked, none, 0⟩ :: t.calls⟩
  | started {q ran : Nat} {before : Bool} {outer : List (UiCall τ)} (task : τ)
    (top : t.calls = ⟨q, before, none, ran⟩ :: outer) :
    Move t (.started q task) { t with calls := ⟨q, before, some task, ran⟩ :: outer }
  | finished {q ran : Nat} {before : Bool} {task : τ} {outer : List (UiCall τ)}
    (top : t.calls = ⟨q, before, some task, ran⟩ :: outer) :
    Move t (.finished q task) { t with calls := ⟨q, before, none, ran + 1⟩ :: outer }
  | returned {q ran : Nat} {before : Bool} {outer : List (UiCall τ)}
    (top : t.calls = ⟨q, before, none, ran⟩ :: outer) : Move t (.returned q ran) ⟨before, outer⟩
  | crashed {q ran : Nat} {before : Bool} {task : τ} {outer : List (UiCall τ)}
    (top : t.calls = ⟨q, before, some task, ran⟩ :: outer) :
    Move t (.crashed q task) ⟨before, outer⟩

/-- The queues that a thread runs. -/
def queues (t : HostThread τ) : List Nat :=
  t.calls.map UiCall.queue

variable {s t t' : HostThread τ} {d : Deed τ α} {q : Nat} {c : UiCall τ}

/-! ### The mark -/

/-- The thread is marked during each run, and was not before the outermost one. -/
def Marks : List (UiCall τ) → Bool → Prop
  | [], marked => marked = false
  | c :: outer, marked => marked = true ∧ Marks outer c.before

/-- The marks are right at all times. -/
theorem Move.marks (h : t.Move d t') (ht : Marks t.calls t.marked) : Marks t'.calls t'.marked := by
  cases h with
  | performed => exact ht
  | called => exact ⟨rfl, ht⟩
  | started task top | finished top =>
    rw [top] at ht
    exact ht
  | returned top | crashed top =>
    rw [top] at ht
    exact ht.2

/-- **A thread is marked exactly while it runs a queue.** -/
theorem marked_iff (ht : Marks t.calls t.marked) : t.marked = true ↔ t.calls ≠ [] := by
  cases hcalls : t.calls with
  | nil =>
    rw [hcalls] at ht
    rw [show t.marked = false from ht]
    simp
  | cons c outer =>
    rw [hcalls] at ht
    simp [ht.1]

/-! ### A run of its own -/

/-- The thread is within a run of a queue that began when the thread was in a given state. -/
def Within (s : HostThread τ) (q : Nat) (t : HostThread τ) : Prop :=
  ∃ (inner : List (UiCall τ)) (task : Option τ) (ran : Nat),
    t.calls = inner ++ ⟨q, s.marked, task, ran⟩ :: s.calls

/-- After the call for a run the thread is within that run. -/
theorem Move.within (h : s.Move (.called q : Deed τ α) t) : Within s q t := by
  cases h with
  | called q code => exact ⟨[], none, 0, rfl⟩

/-- Which task the innermost run has, and how many have finished, does not matter. -/
theorem Within.congr {c' : UiCall τ} {outer : List (UiCall τ)} {marked : Bool} (h : Within s q t)
    (top : t.calls = c :: outer) (hqueue : c'.queue = c.queue) (hbefore : c'.before = c.before) :
    Within s q ⟨marked, c' :: outer⟩ := by
  obtain ⟨inner, task, ran, hcalls⟩ := h
  rw [top] at hcalls
  cases inner with
  | nil =>
    obtain ⟨rfl, rfl⟩ := List.cons.inj hcalls
    obtain ⟨q', before', task', ran'⟩ := c'
    obtain rfl : q' = q := hqueue
    obtain rfl : before' = s.marked := hbefore
    exact ⟨[], task', ran', rfl⟩
  | cons d inner =>
    obtain ⟨rfl, rfl⟩ := List.cons.inj hcalls
    exact ⟨c' :: inner, task, ran, rfl⟩

/-- The innermost run is another one as long as it is one of another queue. -/
theorem Within.of_ne {outer : List (UiCall τ)} {marked : Bool} (h : Within s q t)
    (top : t.calls = c :: outer) (hne : c.queue ≠ q) : Within s q ⟨marked, outer⟩ := by
  obtain ⟨inner, task, ran, hcalls⟩ := h
  rw [top] at hcalls
  cases inner with
  | nil =>
    obtain ⟨rfl, -⟩ := List.cons.inj hcalls
    exact absurd rfl hne
  | cons d inner =>
    obtain ⟨-, rfl⟩ := List.cons.inj hcalls
    exact ⟨inner, task, ran, rfl⟩

/-- The thread stays within the run until it ends. -/
theorem Within.move (h : Within s q t) (move : t.Move d t') (hd : d.ended? ≠ some q) :
    Within s q t' := by
  cases move with
  | performed => exact h
  | called q' =>
    obtain ⟨inner, task, ran, hcalls⟩ := h
    exact ⟨_ :: inner, task, ran, congrArg (_ :: ·) hcalls⟩
  | started task top | finished top => exact h.congr top rfl rfl
  | returned top | crashed top => exact h.of_ne top fun heq => hd (congrArg some heq)

/-- The innermost run is the one meant if it is one of this queue. -/
theorem Within.eq_of_top {outer : List (UiCall τ)} (h : Within s q t) (hnodup : t.queues.Nodup)
    (top : t.calls = c :: outer) (heq : c.queue = q) : (⟨c.before, outer⟩ : HostThread τ) = s := by
  obtain ⟨inner, task, ran, hcalls⟩ := h
  unfold queues at hnodup
  rw [top] at hcalls hnodup
  cases inner with
  | nil =>
    obtain ⟨rfl, rfl⟩ := List.cons.inj hcalls
    rfl
  | cons d inner =>
    rw [hcalls, List.cons_append, List.map_cons, List.map_append, List.nodup_cons] at hnodup
    obtain ⟨rfl, -⟩ := List.cons.inj hcalls
    exact absurd (List.mem_append_right _ (heq ▸ List.mem_cons_self)) hnodup.1

/-- **A run that ends leaves its thread as it was**, marks included, even if a task has crashed. -/
theorem Within.ended (h : Within s q t) (hnodup : t.queues.Nodup) (move : t.Move d t')
    (hd : d.ended? = some q) : t' = s := by
  cases move with
  | performed | called | started | finished => cases hd
  | returned top | crashed top => exact h.eq_of_top hnodup top (Option.some.inj hd)

/-! ### The queues that a thread runs -/

/-- Only calls, returns and crashes change which queues a thread runs. -/
theorem Move.queues_eq (h : t.Move d t') : t'.queues = d.queuesAfter t.queues := by
  cases h with
  | performed | called => rfl
  | started task top | finished top | returned top | crashed top =>
    unfold queues
    rw [top]
    rfl

/-- A run that ends is the innermost of its thread. -/
theorem Move.mem_queues_of_ended (h : t.Move d t') (hd : d.ended? = some q) : q ∈ t.queues := by
  cases h with
  | performed | called | started | finished => cases hd
  | returned top | crashed top =>
    obtain rfl := Option.some.inj hd
    rw [queues, top]
    exact List.mem_cons_self

/-- The run of another queue can be left out. -/
theorem mem_cons_iff_of_ne {c' : UiCall τ} {outer : List (UiCall τ)} (hne : c'.queue ≠ c.queue) :
    c ∈ c' :: outer ↔ c ∈ outer :=
  List.mem_cons.trans (or_iff_right fun heq => hne (congrArg UiCall.queue heq).symm)

/-- A thread has the same runs of a queue after a deed that is not about it. -/
theorem Move.mem_iff (h : t.Move d t') (hd : d.queue? ≠ some c.queue) :
    c ∈ t'.calls ↔ c ∈ t.calls := by
  have hne : ∀ {q}, d.queue? = some q → q ≠ c.queue := by
    rintro q hq rfl
    exact hd hq
  cases h with
  | performed => rfl
  | called q => exact mem_cons_iff_of_ne (hne rfl)
  | started task top | finished top =>
    rw [top]
    exact (mem_cons_iff_of_ne (hne rfl)).trans (mem_cons_iff_of_ne (hne rfl)).symm
  | returned top | crashed top =>
    rw [top]
    exact (mem_cons_iff_of_ne (hne rfl)).symm

end HostThread

/-! ### Queues and threads -/

/-- Queues and the threads that run them. -/
structure UiHost (τ : Type) where
  /-- The tasks that wait in each queue. -/
  pending : Nat → List τ
  threads : Nat → HostThread τ

/-- What happens: someone queues a task, or a thread does something. -/
inductive HostAct (τ α : Type) where
  | queued (queue : Nat) (task : τ)
  | did (thread : Nat) (deed : Deed τ α)

namespace HostAct

/-- The task that is put into a queue. -/
def queued? (q : Nat) : HostAct τ α → Option τ
  | .queued q' x => if q' = q then some x else none
  | _ => none

/-- The task of a queue that is started. -/
def started? (q : Nat) : HostAct τ α → Option τ
  | .did _ (.started q' x) => if q' = q then some x else none
  | _ => none

/-- The task of a queue that ends. -/
def ended? (q : Nat) : HostAct τ α → Option τ
  | .did _ (.finished q' x) | .did _ (.crashed q' x) => if q' = q then some x else none
  | _ => none

/-- The number that a run of a queue returns. -/
def returned? (q : Nat) : HostAct τ α → Option Nat
  | .did _ (.returned q' n) => if q' = q then some n else none
  | _ => none

/-- Whether a task of a queue crashes. -/
def Crashes (q : Nat) : HostAct τ α → Prop
  | .did _ (.crashed q' _) => q' = q
  | _ => False

/-- Whether a run of a queue ends. -/
def Ends (q : Nat) : HostAct τ α → Prop
  | .did _ d => d.ended? = some q
  | _ => False

/-- A deed that is not about a queue does nothing to its tasks. -/
theorem eq_none_of_other {q th : Nat} {d : Deed τ α} (hd : d.queue? ≠ some q) :
    started? q (.did th d) = none ∧ ended? q (.did th d) = none ∧
      returned? q (.did th d) = none := by
  cases d with
  | performed => exact ⟨rfl, rfl, rfl⟩
  | _ =>
    have hne : ¬ _ = q := fun heq => hd (congrArg some heq)
    simp [started?, ended?, returned?, hne]

end HostAct

namespace UiHost

/-- Nothing has happened yet. -/
def start : UiHost τ :=
  ⟨fun _ => [], fun _ => ⟨false, []⟩⟩

/-- Whether no thread runs a queue. -/
def Free (h : UiHost τ) (q : Nat) : Prop :=
  ∀ th, q ∉ (h.threads th).queues

/-- What a deed takes from the queues, given what is left in them: a run needs the queue for itself,
and ends only when it finds the queue empty. -/
inductive Access (h : UiHost τ) : Deed τ α → (Nat → List τ) → Prop where
  | performed (action : α) (marked : Bool) : Access h (.performed action marked) h.pending
  | called {q : Nat} (free : h.Free q) : Access h (.called q) h.pending
  | started {q : Nat} {x : τ} {rest : List τ} (next : h.pending q = x :: rest) :
    Access h (.started q x) (Function.update h.pending q rest)
  | finished (q : Nat) (x : τ) : Access h (.finished q x) h.pending
  | returned {q : Nat} (n : Nat) (empty : h.pending q = []) : Access h (.returned q n) h.pending
  | crashed (q : Nat) (x : τ) : Access h (.crashed q x) h.pending

/-- One step. -/
inductive Step (h : UiHost τ) : HostAct τ α → UiHost τ → Prop where
  | queued (q : Nat) (x : τ) :
    Step h (.queued q x) { h with pending := Function.update h.pending q (h.pending q ++ [x]) }
  | did {th : Nat} {d : Deed τ α} {t : HostThread τ} {pending : Nat → List τ}
    (move : (h.threads th).Move d t) (access : h.Access d pending) :
    Step h (.did th d) ⟨pending, Function.update h.threads th t⟩

/-- Any number of steps, with all that happened in them. -/
inductive Run (h : UiHost τ) : List (HostAct τ α) → UiHost τ → Prop where
  | nil : Run h [] h
  | snoc {acts : List (HostAct τ α)} {k l : UiHost τ} {act : HostAct τ α} (run : Run h acts k)
    (step : Step k act l) : Run h (acts ++ [act]) l

/-- What one more act adds to a list of what acts show. -/
theorem filterMap_concat {β γ : Type} (f : β → Option γ) (l : List β) (b : β) :
    (l ++ [b]).filterMap f = l.filterMap f ++ (f b).toList := by
  rw [List.filterMap_append, List.filterMap_cons]
  cases f b <;> rfl

/-- The tasks that were put into a queue, in order. -/
def queuedIn (q : Nat) (acts : List (HostAct τ α)) : List τ :=
  acts.filterMap (HostAct.queued? q)

/-- The tasks of a queue that were started, in order. -/
def startedIn (q : Nat) (acts : List (HostAct τ α)) : List τ :=
  acts.filterMap (HostAct.started? q)

/-- The tasks of a queue that have ended, in order. -/
def endedIn (q : Nat) (acts : List (HostAct τ α)) : List τ :=
  acts.filterMap (HostAct.ended? q)

/-- The numbers that the runs of a queue returned, in order. -/
def returnedIn (q : Nat) (acts : List (HostAct τ α)) : List Nat :=
  acts.filterMap (HostAct.returned? q)

variable {h k l : UiHost τ} {act : HostAct τ α} {acts later : List (HostAct τ α)} {q th : Nat}
  {t : HostThread τ} {d : Deed τ α} {c c' : UiCall τ} {c? c'? : Option (UiCall τ)}

/-- One run can go on as another. -/
theorem Run.append (run : Run h acts k) (run' : Run k later l) : Run h (acts ++ later) l := by
  induction run' with
  | nil => rwa [List.append_nil]
  | snoc _ step ih =>
    rw [← List.append_assoc]
    exact ih.snoc step

/-- A run stops at each point on its way. -/
theorem Run.exists_mid {before after : List (HostAct τ α)} (run : Run h (before ++ after) l) :
    ∃ k, Run h before k ∧ Run k after l := by
  generalize hacts : before ++ after = acts at run
  induction run generalizing after with
  | nil =>
    obtain ⟨rfl, rfl⟩ := List.append_eq_nil_iff.1 hacts
    exact ⟨h, .nil, .nil⟩
  | @snoc acts k l act run step ih =>
    obtain rfl | ⟨after, last, rfl⟩ := List.eq_nil_or_concat' after
    · obtain rfl := (List.append_nil before).symm.trans hacts
      exact ⟨l, run.snoc step, .nil⟩
    · rw [← List.append_assoc] at hacts
      obtain ⟨hmid, hlast⟩ := List.append_inj' hacts rfl
      obtain rfl := (List.cons.inj hlast).1
      obtain ⟨mid, toMid, fromMid⟩ := ih hmid
      exact ⟨mid, toMid, fromMid.snoc step⟩

/-- Without an act nothing changes. -/
theorem Run.eq_of_nil (run : Run h ([] : List (HostAct τ α)) k) : k = h := by
  generalize hacts : ([] : List (HostAct τ α)) = acts at run
  cases run with
  | nil => rfl
  | snoc => exact absurd hacts.symm (List.concat_ne_nil _ _)

/-- It begins with its first step. -/
theorem Run.exists_first (run : Run h (act :: later) l) : ∃ k, Step h act k ∧ Run k later l := by
  obtain ⟨k, first, rest⟩ := (show Run h ([act] ++ later) l from run).exists_mid
  generalize hacts : [act] = acts at first
  cases first with
  | nil => cases hacts
  | @snoc acts k' _ act' run' step =>
    obtain ⟨rfl, hlast⟩ := List.append_inj' (show [] ++ [act] = acts ++ [act'] from hacts) rfl
    obtain rfl := (List.cons.inj hlast).1
    obtain rfl := run'.eq_of_nil
    exact ⟨k, step, rest⟩

/-! ### No queue has two runs -/

/-- Each queue is run by one thread at most, and once. -/
structure Exclusive (h : UiHost τ) : Prop where
  nodup (th : Nat) : (h.threads th).queues.Nodup
  apart {th th' q : Nat} (hq : q ∈ (h.threads th).queues) (hq' : q ∈ (h.threads th').queues) : th = th'

/-- At first no queue has a run. -/
theorem exclusive_start : (start : UiHost τ).Exclusive where
  nodup _ := List.nodup_nil
  apart hq := absurd hq List.not_mem_nil

/-- One thread may run other queues than before if no other thread runs them. -/
theorem Exclusive.update (hs : h.Exclusive) {pending : Nat → List τ} (hnodup : t.queues.Nodup)
    (hnew : ∀ q ∈ t.queues, q ∈ (h.threads th).queues ∨ h.Free q) :
    Exclusive ⟨pending, Function.update h.threads th t⟩ := by
  have hother : ∀ {th' q}, th' ≠ th → q ∈ t.queues → q ∉ (h.threads th').queues := by
    intro th' q hne hq hq'
    obtain hold | hfree := hnew q hq
    · exact hne (hs.apart hq' hold)
    · exact hfree th' hq'
  constructor
  · intro th'
    by_cases hth : th' = th
    · obtain rfl := hth
      simpa using hnodup
    · simpa [hth] using hs.nodup th'
  · intro th₁ th₂ q hq₁ hq₂
    by_cases h₁ : th₁ = th <;> by_cases h₂ : th₂ = th
    · exact h₁.trans h₂.symm
    · obtain rfl := h₁
      exact absurd (by simpa [h₂] using hq₂) (hother h₂ (by simpa using hq₁))
    · obtain rfl := h₂
      exact absurd (by simpa [h₁] using hq₁) (hother h₁ (by simpa using hq₂))
    · exact hs.apart (by simpa [h₁] using hq₁) (by simpa [h₂] using hq₂)

/-- **No queue ever has two runs.** -/
theorem Step.exclusive (step : Step h act k) (hs : h.Exclusive) : k.Exclusive := by
  cases step with
  | queued q x => exact ⟨hs.nodup, hs.apart⟩
  | @did th d t pending move access =>
    have hqueues := move.queues_eq
    cases access with
    | @called q free =>
      refine hs.update ?_ fun q' hq' => ?_
      · rw [hqueues]
        exact List.nodup_cons.2 ⟨free th, hs.nodup th⟩
      · rw [hqueues] at hq'
        obtain rfl | hold := List.mem_cons.1 hq'
        · exact .inr free
        · exact .inl hold
    | performed | started | finished =>
      have hsame : t.queues = (h.threads th).queues := hqueues
      exact hs.update (hsame ▸ hs.nodup th) fun q' hq' => .inl (hsame ▸ hq')
    | returned | crashed =>
      have htail : t.queues = (h.threads th).queues.tail := hqueues
      exact hs.update (htail ▸ (hs.nodup th).tail) fun q' hq' =>
        .inl (List.mem_of_mem_tail (htail ▸ hq'))

/-- No queue ever has two runs. -/
theorem Run.exclusive (run : Run h acts k) (hs : h.Exclusive) : k.Exclusive := by
  induction run with
  | nil => exact hs
  | snoc _ step ih => exact step.exclusive ih

/-- A queue has one run at most. -/
theorem Exclusive.unique {th' : Nat} (hs : h.Exclusive) (hc : c ∈ (h.threads th).calls)
    (hc' : c' ∈ (h.threads th').calls) (heq : c.queue = c'.queue) : c = c' := by
  obtain rfl : th = th' :=
    hs.apart (List.mem_map_of_mem hc) (heq ▸ List.mem_map_of_mem hc')
  exact List.inj_on_of_nodup_map (hs.nodup th) hc hc' heq

/-! ### Marks -/

/-- The marks of all threads are right. -/
def Marked (h : UiHost τ) : Prop :=
  ∀ th, HostThread.Marks (h.threads th).calls (h.threads th).marked

/-- At first no thread is marked. -/
theorem marked_start : (start : UiHost τ).Marked :=
  fun _ => rfl

/-- A step leaves exactly those threads marked that run a queue. -/
theorem Step.marked (step : Step h act k) (hs : h.Marked) : k.Marked := by
  cases step with
  | queued q x => exact hs
  | @did th d t pending move access =>
    intro th'
    by_cases hth : th' = th
    · obtain rfl := hth
      simpa using move.marks (hs th')
    · simpa [hth] using hs th'

/-- At all times exactly those threads are marked that run a queue. -/
theorem Run.marked (run : Run h acts k) (hs : h.Marked) : k.Marked := by
  induction run with
  | nil => exact hs
  | snoc _ step ih => exact step.marked ih

/-! ### Runs and their threads -/

/-- A thread stays within a run of its own until the run ends. -/
theorem Run.within {s : HostThread τ} (run : Run h acts k) (hs : s.Within q (h.threads th))
    (hacts : ∀ act ∈ acts, ¬ act.Ends q) : s.Within q (k.threads th) := by
  induction run with
  | nil => exact hs
  | @snoc acts k l act run step ih =>
    have hk := ih fun a ha => hacts a (List.mem_append_left _ ha)
    have hact := hacts act (List.mem_append_right _ List.mem_cons_self)
    cases step with
    | queued q' x => exact hk
    | @did th' d t pending move access =>
      by_cases hth : th = th'
      · obtain rfl := hth
        simpa using hk.move move hact
      · simpa [hth] using hk

/-- **A run that ends leaves its thread as it was when the run was called for.** -/
theorem Run.restored {s : UiHost τ} {th' : Nat} {d : Deed τ α} (run : Run k acts l)
    (hs : h.Exclusive) (call : Step h (.did th (.called q) : HostAct τ α) k)
    (hacts : ∀ act ∈ acts, ¬ act.Ends q) (fin : Step l (.did th' d) s)
    (hd : d.ended? = some q) : s.threads th = h.threads th := by
  have hl := run.exclusive (call.exclusive hs)
  have hwithin : (h.threads th).Within q (l.threads th) := by
    refine run.within ?_ hacts
    cases call with
    | did move access => simpa using move.within
  cases fin with
  | did move access =>
    -- The run ends on the thread on which it was called for, as no other thread has the queue.
    obtain ⟨inner, task, ran, hcalls⟩ := hwithin
    have hth : th' = th := by
      refine hl.apart (move.mem_queues_of_ended hd) ?_
      rw [HostThread.queues, hcalls]
      exact List.mem_map_of_mem (List.mem_append_right _ List.mem_cons_self)
    obtain rfl := hth
    simpa using HostThread.Within.ended ⟨inner, task, ran, hcalls⟩ (hl.nodup th') move hd

/-! ### The order of tasks -/

/-- Tasks are taken from the front of a queue and added at its end. -/
theorem Step.conserved (step : Step h act k) (q : Nat) :
    (act.started? q).toList ++ k.pending q = h.pending q ++ (act.queued? q).toList := by
  cases step with
  | queued q' x =>
    by_cases hq : q' = q
    · obtain rfl := hq
      simp [HostAct.started?, HostAct.queued?]
    · simp [HostAct.started?, HostAct.queued?, hq, Function.update_of_ne (Ne.symm hq)]
  | did move access =>
    cases access with
    | @started q' x rest next =>
      by_cases hq : q' = q
      · obtain rfl := hq
        simp [HostAct.started?, HostAct.queued?, next]
      · simp [HostAct.started?, HostAct.queued?, hq, Function.update_of_ne (Ne.symm hq)]
    | _ => simp [HostAct.started?, HostAct.queued?]

/-- **The tasks that were started and those that wait are the ones that waited and were queued**, in
order. -/
theorem Run.conserved (run : Run h acts k) (q : Nat) :
    startedIn q acts ++ k.pending q = h.pending q ++ queuedIn q acts := by
  unfold startedIn queuedIn
  induction run with
  | nil => exact (List.append_nil _).symm
  | snoc _ step ih =>
    rw [filterMap_concat, filterMap_concat, List.append_assoc, step.conserved q,
      ← List.append_assoc, ih, List.append_assoc]

/-! ### What runs return -/

/-- The run of a queue that is in progress, if any. -/
inductive Serves (h : UiHost τ) (q : Nat) : Option (UiCall τ) → Prop where
  | free (free : h.Free q) : Serves h q none
  | call {th : Nat} {c : UiCall τ} (mem : c ∈ (h.threads th).calls) (queue : c.queue = q) :
    Serves h q (some c)

/-- What happens to the run of one queue. -/
inductive Progress (q : Nat) : HostAct τ α → Option (UiCall τ) → Option (UiCall τ) → Prop where
  | queued (q' : Nat) (x : τ) (c? : Option (UiCall τ)) : Progress q (.queued q' x) c? c?
  | other {th : Nat} {d : Deed τ α} (hd : d.queue? ≠ some q) (c? : Option (UiCall τ)) :
    Progress q (.did th d) c? c?
  | called (th : Nat) (before : Bool) :
    Progress q (.did th (.called q)) none (some ⟨q, before, none, 0⟩)
  | started (th : Nat) (before : Bool) (x : τ) (ran : Nat) :
    Progress q (.did th (.started q x)) (some ⟨q, before, none, ran⟩) (some ⟨q, before, some x, ran⟩)
  | finished (th : Nat) (before : Bool) (x : τ) (ran : Nat) :
    Progress q (.did th (.finished q x)) (some ⟨q, before, some x, ran⟩)
      (some ⟨q, before, none, ran + 1⟩)
  | returned (th : Nat) (before : Bool) (ran : Nat) :
    Progress q (.did th (.returned q ran)) (some ⟨q, before, none, ran⟩) none
  | crashed (th : Nat) (before : Bool) (x : τ) (ran : Nat) :
    Progress q (.did th (.crashed q x)) (some ⟨q, before, some x, ran⟩) none

/-- A deed that is not about a queue leaves the run of the queue as it is. -/
theorem serves_of_other {pending : Nat → List τ} (move : (h.threads th).Move d t)
    (hd : d.queue? ≠ some q)
    (serves : Serves (⟨pending, Function.update h.threads th t⟩ : UiHost τ) q c?) :
    h.Serves q c? := by
  have hcalls : ∀ {c : UiCall τ} {th'}, c.queue = q →
      (c ∈ (Function.update h.threads th t th').calls ↔ c ∈ (h.threads th').calls) := by
    rintro c th' rfl
    by_cases hth : th' = th
    · obtain rfl := hth
      simpa using move.mem_iff hd
    · simp [hth]
  cases serves with
  | free free =>
    refine .free fun th' hq => ?_
    obtain ⟨c, hc, hcq⟩ := List.mem_map.1 hq
    exact free th' (List.mem_map.2 ⟨c, (hcalls hcq).2 hc, hcq⟩)
  | call mem hcq => exact .call ((hcalls hcq).1 mem) hcq

/-- A run that is the innermost of a thread is the one in progress. -/
theorem Serves.eq_of_top {outer : List (UiCall τ)} (serves : h.Serves q c?) (hs : h.Exclusive)
    (top : (h.threads th).calls = c :: outer) (hcq : c.queue = q) : c? = some c := by
  have hc : c ∈ (h.threads th).calls := top ▸ List.mem_cons_self
  cases serves with
  | free free => exact absurd (List.mem_map.2 ⟨c, hc, hcq⟩) (free th)
  | call mem hcq' => exact congrArg some (hs.unique mem hc (hcq'.trans hcq.symm))

/-- After the innermost run of a thread has ended, its queue has no run. -/
theorem Serves.eq_none {outer : List (UiCall τ)} {pending : Nat → List τ} {before : Bool}
    (serves : Serves (⟨pending, Function.update h.threads th ⟨before, outer⟩⟩ : UiHost τ) q c'?)
    (hs : h.Exclusive) (top : (h.threads th).calls = c :: outer) (hcq : c.queue = q) :
    c'? = none := by
  have hc : c ∈ (h.threads th).calls := top ▸ List.mem_cons_self
  cases serves with
  | free => rfl
  | @call th' c' mem hcq' =>
    exfalso
    by_cases hth : th' = th
    · obtain rfl := hth
      have hmem : c' ∈ outer := by simpa using mem
      have hnodup := hs.nodup th'
      rw [HostThread.queues, top, List.map_cons, List.nodup_cons] at hnodup
      exact hnodup.1 (List.mem_map.2 ⟨c', hmem, hcq'.trans hcq.symm⟩)
    · have hmem : c' ∈ (h.threads th').calls := by simpa [hth] using mem
      exact hth (hs.apart (List.mem_map.2 ⟨c', hmem, hcq'⟩) (List.mem_map.2 ⟨c, hc, hcq⟩))

/-- **Each step lets the run of a queue make progress**, or leaves it alone. -/
theorem Step.progress (step : Step h act k) (hs : h.Exclusive) (serves : k.Serves q c'?) :
    ∃ c?, h.Serves q c? ∧ Progress q act c? c'? := by
  have hk := step.exclusive hs
  cases step with
  | queued q' x =>
    refine ⟨c'?, ?_, .queued q' x c'?⟩
    cases serves with
    | free free => exact .free free
    | call mem hcq => exact .call mem hcq
  | @did th d t pending move access =>
    by_cases hd : d.queue? = some q
    · -- The run of this queue is the innermost of the thread, before and after.
      have hself : Function.update h.threads th t th = t := Function.update_self ..
      cases move with
      | performed => cases hd
      | called q' code =>
        obtain rfl := Option.some.inj hd
        cases access with
        | called free =>
          obtain rfl := serves.eq_of_top hk (congrArg HostThread.calls hself) rfl
          exact ⟨none, .free free, .called th _⟩
      | @started q' ran before outer x top =>
        obtain rfl := Option.some.inj hd
        obtain rfl := serves.eq_of_top hk (congrArg HostThread.calls hself) rfl
        exact ⟨_, .call (top ▸ List.mem_cons_self) rfl, .started th before x ran⟩
      | @finished q' ran before x outer top =>
        obtain rfl := Option.some.inj hd
        obtain rfl := serves.eq_of_top hk (congrArg HostThread.calls hself) rfl
        exact ⟨_, .call (top ▸ List.mem_cons_self) rfl, .finished th before x ran⟩
      | @returned q' ran before outer top =>
        obtain rfl := Option.some.inj hd
        obtain rfl := serves.eq_none hs top rfl
        exact ⟨_, .call (top ▸ List.mem_cons_self) rfl, .returned th before ran⟩
      | @crashed q' ran before x outer top =>
        obtain rfl := Option.some.inj hd
        obtain rfl := serves.eq_none hs top rfl
        exact ⟨_, .call (top ▸ List.mem_cons_self) rfl, .crashed th before x ran⟩
    · exact ⟨c'?, serves_of_other move hd serves, .other hd c'?⟩

/-- The books of a queue: which tasks were started and have ended, and what its runs returned. -/
structure Balanced (q : Nat) (acts : List (HostAct τ α)) (c? : Option (UiCall τ)) : Prop where
  /-- All tasks that were started have ended, but for the one that is running. -/
  ended : endedIn q acts ++ (c?.bind UiCall.task).toList = startedIn q acts
  /-- If no task has crashed, all that have ended are counted. -/
  counted : (∀ act ∈ acts, ¬ act.Crashes q) →
    (returnedIn q acts).sum + (c?.map UiCall.ran).getD 0 = (endedIn q acts).length

/-- The books stay balanced. -/
theorem Progress.balanced (progress : Progress q act c? c'?) (hs : Balanced q acts c?) :
    Balanced q (acts ++ [act]) c'? := by
  obtain ⟨hended, hcounted⟩ := hs
  have hsplit : (∀ a ∈ acts ++ [act], ¬ a.Crashes q) →
      (∀ a ∈ acts, ¬ a.Crashes q) ∧ ¬ act.Crashes q := fun hcalm =>
    ⟨fun a ha => hcalm a (List.mem_append_left _ ha),
      hcalm act (List.mem_append_right _ List.mem_cons_self)⟩
  refine ⟨?_, fun hcalm => ?_⟩
  · unfold endedIn startedIn at hended ⊢
    rw [filterMap_concat, filterMap_concat]
    cases progress with
    | other hd => simpa [HostAct.eq_none_of_other hd] using hended
    | _ => simpa [HostAct.ended?, HostAct.started?] using hended
  · obtain ⟨hbefore, hact⟩ := hsplit hcalm
    have hcount := hcounted hbefore
    unfold endedIn returnedIn at hcount ⊢
    rw [filterMap_concat, filterMap_concat]
    cases progress with
    | other hd => simpa [HostAct.eq_none_of_other hd] using hcount
    | crashed => exact absurd rfl hact
    | finished => simpa [HostAct.ended?, HostAct.returned?, ← Nat.add_assoc] using hcount
    | _ => simpa [HostAct.ended?, HostAct.returned?] using hcount

/-- **The books of a queue are balanced at all times**, from any state in which no one runs it. -/
theorem Run.balanced (run : Run h acts k) (hs : h.Exclusive) (free : h.Free q)
    (serves : k.Serves q c?) : Balanced q acts c? := by
  induction run generalizing c? with
  | nil =>
    cases serves with
    | free => exact ⟨rfl, fun _ => rfl⟩
    | call mem hcq => exact absurd (List.mem_map.2 ⟨_, mem, hcq⟩) (free _)
  | snoc run step ih =>
    obtain ⟨c?, hbefore, progress⟩ := step.progress (run.exclusive hs) serves
    exact progress.balanced (ih hbefore)

end UiHost

end AnnotationBridge
