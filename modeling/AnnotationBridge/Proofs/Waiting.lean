import AnnotationBridge.Proofs.Exchange

/-!
# Waiting for a batch

From the time a batch is sent until a wait for it ends, time may pass in several steps, and the
waits of other passes may end in between. A request of the batch is under way as long as it has not
ended, and then it has brought its own answer.

* `Exchange.Tracks`: where the requests of a batch are. `Exchange.Tracks.deliver`,
  `Exchange.Tracks.settleAll`, `Exchange.Tracks.advanceTo`: how that goes on.
* `Exchange.Tracks.finish`: what the end of a wait answers.
* `Exchange.endsBy_waitEnd?_eq`: a wait is long enough for all that ends before its deadline.
* `Exchange.join_answers`: the answers to a batch after a wait for it.
-/

namespace AnnotationBridge

open Lsp

namespace Exchange

/-- Where the requests of a batch are: under way, or ended and then answered by their own actions,
unless they were lost. No other request is taken for one of them. -/
structure Tracks (x : Exchange) (batch : List Sent) (ended : Sent → Bool) : Prop where
  underWay_iff : ∀ s ∈ batch, s ∈ x.underWay ↔ ended s = false
  number_inj : ∀ u ∈ x.underWay, ∀ s ∈ batch, u.number = s.number → u = s
  request_inj : ∀ u ∈ x.underWay, ∀ s ∈ batch, u.request = s.request → u = s
  answer : ∀ s ∈ batch, x.answers.get? s.request = if ended s then s.actions? else none

variable {x y : Exchange} {batch : List Sent} {ended ended' : Sent → Bool} {s : Sent}

/-- What is known depends only on which requests of the batch have ended. -/
theorem Tracks.congr (h : x.Tracks batch ended) (heq : ∀ s ∈ batch, ended s = ended' s) :
    x.Tracks batch ended' where
  underWay_iff s hs := by
    rw [← heq s hs]
    exact h.underWay_iff s hs
  number_inj := h.number_inj
  request_inj := h.request_inj
  answer s hs := by
    rw [← heq s hs]
    exact h.answer s hs

/-- Passing time ends the requests that end until then. -/
theorem Tracks.deliver (h : x.Tracks batch ended) (time : Nat) :
    (x.deliver time).Tracks batch fun s => ended s || s.endsBy time where
  underWay_iff s hs := by
    show s ∈ x.underWay.filter _ ↔ _
    rw [List.mem_filter, h.underWay_iff s hs, Bool.not_eq_true', Bool.or_eq_false_iff]
  number_inj u hu := h.number_inj u (List.mem_filter.1 hu).1
  request_inj u hu := h.request_inj u (List.mem_filter.1 hu).1
  answer s hs := by
    show (List.foldl receive x.answers _).get? s.request = _
    have hmem : ∀ u, u ∈ (x.underWay.filter (·.endsBy time)).mergeSort Sent.endsBefore ↔
        u ∈ x.underWay ∧ u.endsBy time = true := fun u => by
      rw [List.mem_mergeSort, List.mem_filter]
    rw [get?_foldl_receive, h.answer s hs]
    cases hended : ended s with
    | true =>
      -- It is not under way any more, so nothing that ends now is about it.
      rw [findSome?_actionsFor?_of_ne, Option.or_none, Bool.true_or]
      intro u hu hreq
      obtain rfl := h.request_inj u ((hmem u).1 hu).1 s hs hreq
      exact Bool.false_ne_true (((h.underWay_iff u hs).1 ((hmem u).1 hu).1).symm.trans hended)
    | false =>
      rw [Bool.false_or, if_neg Bool.false_ne_true, Option.none_or]
      cases hnow : s.endsBy time with
      | true =>
        rw [if_pos rfl]
        refine findSome?_actionsFor?_of_mem ((hmem s).2 ⟨(h.underWay_iff s hs).2 hended, hnow⟩) ?_
        exact fun u hu hreq => h.request_inj u ((hmem u).1 hu).1 s hs hreq
      | false =>
        rw [if_neg Bool.false_ne_true]
        refine findSome?_actionsFor?_of_ne fun u hu hreq => ?_
        obtain rfl := h.request_inj u ((hmem u).1 hu).1 s hs hreq
        exact Bool.false_ne_true (hnow.symm.trans ((hmem u).1 hu).2)

/-- Answering other requests with nothing does not matter. -/
theorem Tracks.answerEmpty (h : x.Tracks batch ended) {ids : List RequestId}
    (other : ∀ s ∈ batch, s.request ∉ ids) : (x.answerEmpty ids).Tracks batch ended where
  underWay_iff := h.underWay_iff
  number_inj := h.number_inj
  request_inj := h.request_inj
  answer s hs := by
    rw [get?_answerEmpty, if_neg (other s hs)]
    exact h.answer s hs

/-- The end of another pass's wait matters only by the time at which it comes. -/
theorem Tracks.settle (h : x.Tracks batch ended) {w : Waiting}
    (other : ∀ u ∈ w.batch, ∀ s ∈ batch, u.request ≠ s.request) :
    (x.settle w).2.Tracks batch fun s => ended s || s.endsBy w.ends := by
  show ((x.deliver w.ends).finish w.batch _).2.Tracks _ _
  rw [snd_finish]
  refine (h.deliver w.ends).answerEmpty fun s hs hmem => ?_
  obtain ⟨u, hu, hreq⟩ := List.mem_map.1 hmem
  exact other u (List.mem_filter.1 (List.mem_filter.1 hu).1).1 s hs hreq

/-- When waits of others have ended, the requests have ended that ended in the meantime. -/
theorem Tracks.settleAll {ws : List Waiting} (h : x.Tracks batch ended)
    (other : ∀ w ∈ ws, ∀ u ∈ w.batch, ∀ s ∈ batch, u.request ≠ s.request) :
    (x.settleAll ws).2.Tracks batch fun s => ended s || ws.any (s.endsBy ·.ends) := by
  induction ws generalizing x ended with
  | nil => exact h.congr fun s _ => (Bool.or_false _).symm
  | cons w ws ih =>
    have hfirst := h.settle (other w List.mem_cons_self)
    refine (ih hfirst fun w' hw' => other w' (List.mem_cons_of_mem w hw')).congr fun s _ => ?_
    rw [List.any_cons, Bool.or_assoc]

/-- **Letting time pass ends the requests that end until then, whatever waits of other passes end in
between.** -/
theorem Tracks.advanceTo (h : x.Tracks batch ended)
    (other : ∀ w ∈ x.waiting, ∀ u ∈ w.batch, ∀ s ∈ batch, u.request ≠ s.request) (time : Nat) :
    (x.advanceTo time).2.Tracks batch fun s => ended s || s.endsBy time := by
  unfold Exchange.advanceTo
  generalize hdue : (x.waiting.filter (·.ends ≤ time)).mergeSort (fun v w => v.ends ≤ w.ends) = due
  have hmem : ∀ w ∈ due, w ∈ x.waiting ∧ w.ends ≤ time := fun w hw => by
    rw [← hdue, List.mem_mergeSort, List.mem_filter, decide_eq_true_iff] at hw
    exact hw
  have hstart : Tracks { x with waiting := x.waiting.filter (time < ·.ends) } batch ended :=
    ⟨h.underWay_iff, h.number_inj, h.request_inj, h.answer⟩
  have hsettled := hstart.settleAll fun w hw => other w (hmem w hw).1
  refine (hsettled.deliver time).congr fun s _ => ?_
  have himp : due.any (s.endsBy ·.ends) = true → s.endsBy time = true := fun hany => by
    obtain ⟨w, hw, hends⟩ := List.any_eq_true.1 hany
    exact Sent.endsBy_of_le (hmem w hw).2 hends
  cases hany : due.any (s.endsBy ·.ends) with
  | true => rw [himp hany, Bool.or_true, Bool.or_true]
  | false => rw [Bool.or_false]

/-- A request that is told from the others by its number has ended if it is not under way. -/
theorem hasEnded_eq_true_iff (inj : ∀ u ∈ x.underWay, u.number = s.number → u = s) :
    x.hasEnded s = true ↔ s ∉ x.underWay := by
  unfold Exchange.hasEnded
  rw [Bool.not_eq_true', ← Bool.not_eq_true, List.any_eq_true]
  refine not_congr ⟨?_, fun hs => ⟨s, hs, beq_self_eq_true _⟩⟩
  rintro ⟨u, hu, hnum⟩
  exact inj u hu (eq_of_beq hnum) ▸ hu

/-- Whether a request of the batch is seen to have ended. -/
theorem Tracks.hasEnded (h : x.Tracks batch ended) (hs : s ∈ batch) : x.hasEnded s = ended s := by
  rw [Bool.eq_iff_iff, hasEnded_eq_true_iff fun u hu => h.number_inj u hu s hs,
    h.underWay_iff s hs, Bool.not_eq_false]

/-- **The end of a wait answers what was lost**, as far as it was noticed. -/
theorem Tracks.finish (h : x.Tracks batch ended) {noticed : List Sent}
    (hnoticed : ∀ u ∈ noticed, u ∈ batch ∧ ended u = true)
    (inj : ∀ u ∈ batch, ∀ s ∈ batch, u.request = s.request → u = s) (hs : s ∈ batch) :
    (s ∈ noticed → (x.finish batch noticed).2.answers.get? s.request =
        some (s.actions?.getD [])) ∧
      (s ∉ noticed → (x.finish batch noticed).2.answers.get? s.request =
        if ended s then s.actions? else none) := by
  rw [snd_finish, get?_answerEmpty, h.answer s hs]
  have hmem : s.request ∈ (noticed.filter (·.actions?.isNone)).map Sent.request ↔
      s ∈ noticed ∧ s.actions? = none := by
    rw [← Option.isNone_iff_eq_none]
    constructor
    · intro hin
      obtain ⟨u, hu, hreq⟩ := List.mem_map.1 hin
      obtain ⟨hu, hlost⟩ := List.mem_filter.1 hu
      obtain rfl := inj u (hnoticed u hu).1 s hs hreq
      exact ⟨hu, hlost⟩
    · rintro ⟨hseen, hlost⟩
      exact List.mem_map.2 ⟨s, List.mem_filter.2 ⟨hseen, hlost⟩, rfl⟩
  constructor
  · intro hseen
    rw [if_pos (hnoticed s hseen).2]
    cases hact : s.actions? with
    | none => rw [if_pos (hmem.2 ⟨hseen, hact⟩)]
    | some actions =>
      rw [if_neg fun hin => Option.some_ne_none actions (hact.symm.trans (hmem.1 hin).2)]
      rfl
  · exact fun hunseen => if_neg fun hin => hunseen (hmem.1 hin).1

/-- **The end of the wait for the batch itself answers what was lost.** -/
theorem Tracks.conclude (h : x.Tracks batch ended)
    (inj : ∀ u ∈ batch, ∀ s ∈ batch, u.request = s.request → u = s) (hs : s ∈ batch) :
    (x.conclude batch).2.answers.get? s.request =
      if ended s then some (s.actions?.getD []) else none := by
  have hnoticed : ∀ u ∈ batch.filter x.hasEnded, u ∈ batch ∧ ended u = true := fun u hu => by
    obtain ⟨hu, hend⟩ := List.mem_filter.1 hu
    exact ⟨hu, (h.hasEnded hu).symm.trans hend⟩
  obtain ⟨hseen, hunseen⟩ := h.finish hnoticed inj hs
  cases hend : ended s with
  | true =>
    rw [if_pos rfl]
    exact hseen (List.mem_filter.2 ⟨hs, (h.hasEnded hs).trans hend⟩)
  | false =>
    rw [hend] at hunseen
    exact hunseen fun hin => Bool.false_ne_true (hend.symm.trans (hnoticed s hin).2)

/-! ### How long a wait lasts -/

/-- A maximum is not below the value to start from. -/
theorem le_foldl_max_self (ns : List Nat) (least : Nat) : least ≤ ns.foldl max least := by
  induction ns generalizing least with
  | nil => exact Nat.le_refl _
  | cons m ns ih => exact Nat.le_trans (Nat.le_max_left least m) (ih _)

/-- The greatest number of a list is at least any of its numbers. -/
theorem le_foldl_max {n : Nat} {ns : List Nat} (hn : n ∈ ns) (least : Nat) :
    n ≤ ns.foldl max least := by
  induction ns generalizing least with
  | nil => cases hn
  | cons m ns ih =>
    rcases List.mem_cons.1 hn with rfl | hn
    · exact Nat.le_trans (Nat.le_max_right least n) (le_foldl_max_self ns _)
    · exact ih hn _

/-- If all requests end, the times are those of the requests. -/
theorem mem_of_mapM_endTime? {times : List Nat} (h : batch.mapM Sent.endTime? = some times)
    (hs : s ∈ batch) : ∃ time ∈ times, s.endTime? = some time := by
  induction batch generalizing times with
  | nil => cases hs
  | cons u rest ih =>
    rw [List.mapM_cons] at h
    obtain ⟨first, hfirst, h⟩ := Option.bind_eq_some_iff.1 h
    obtain ⟨later, hlater, h⟩ := Option.bind_eq_some_iff.1 h
    obtain rfl := Option.some.inj h
    rcases List.mem_cons.1 hs with rfl | hs
    · exact ⟨first, List.mem_cons_self, hfirst⟩
    · obtain ⟨time, hmem, htime⟩ := ih hlater hs
      exact ⟨time, List.mem_cons_of_mem _ hmem, htime⟩

end Exchange

/-- Whether a request ends before a limit. -/
def Sent.endsWithin (s : Sent) (limit : Nat) : Bool :=
  s.endTime?.any (· < limit)

namespace Exchange

variable {x : Exchange} {batch : List Sent} {s : Sent} {deadline : Nat}

/-- A wait is over at once if all has ended already, or if there is no time. -/
theorem waitEnd?_eq_none_iff :
    x.waitEnd? deadline batch = none ↔ (∀ s ∈ batch, x.hasEnded s = true) ∨ deadline = 0 := by
  unfold waitEnd?
  rw [← List.all_eq_true, ← beq_iff_eq (a := deadline), ← Bool.or_eq_true_iff]
  split
  · exact iff_of_true rfl ‹_›
  · refine iff_of_false ?_ ‹_›
    split <;> exact Option.some_ne_none _

/-- A wait ends now or later. -/
theorem now_le_of_waitEnd? {time : Nat} (h : x.waitEnd? deadline batch = some time) :
    x.now ≤ time := by
  unfold waitEnd? at h
  split at h
  · cases h
  · split at h
    · rename_i times _
      obtain rfl := Option.some.inj h
      exact Nat.le_min.2 ⟨Nat.le_add_right _ _, le_foldl_max_self times x.now⟩
    · obtain rfl := Option.some.inj h
      exact Nat.le_add_right _ _

/-- **A wait is long enough for all that ends before its deadline, and for no more.** -/
theorem endsBy_waitEnd?_eq {time : Nat} (h : x.waitEnd? deadline batch = some time)
    (hs : s ∈ batch) (hne : s.endTime? ≠ some (x.now + deadline)) :
    s.endsBy time = s.endsWithin (x.now + deadline) := by
  unfold waitEnd? at h
  split at h
  · cases h
  · unfold Sent.endsBy Sent.endsWithin
    cases hend : s.endTime? with
    | none => rfl
    | some stop =>
      have hstop : stop ≠ x.now + deadline := fun heq => hne (hend.trans (congrArg some heq))
      simp only [Option.any_some]
      rw [decide_eq_decide]
      split at h
      · rename_i times htimes
        obtain rfl := Option.some.inj h
        obtain ⟨stop', hmem, hend'⟩ := mem_of_mapM_endTime? htimes hs
        obtain rfl := Option.some.inj (hend.symm.trans hend')
        have := le_foldl_max hmem x.now
        omega
      · obtain rfl := Option.some.inj h
        omega

/-- **The answers to a batch after a wait for it**: each request that has ended before the deadline
has the actions that it brought, or nothing if it was lost, and no other request has an answer. -/
theorem join_answers (h : x.Tracks batch fun _ => false)
    (inj : ∀ u ∈ batch, ∀ s ∈ batch, u.request = s.request → u = s)
    (other : ∀ w ∈ x.waiting, ∀ u ∈ w.batch, ∀ s ∈ batch, u.request ≠ s.request)
    (hlater : ∀ s ∈ batch, ∀ stop, s.endTime? = some stop → x.now ≤ stop)
    (hne : ∀ s ∈ batch, s.endTime? ≠ some (x.now + deadline)) (hs : s ∈ batch) :
    (x.join deadline batch).2.2.answers.get? s.request =
      if s.endsWithin (x.now + deadline) then some (s.actions?.getD []) else none := by
  unfold join
  cases hwait : x.waitEnd? deadline batch with
  | some time =>
    show ((x.advanceTo time).2.conclude batch).2.answers.get? s.request = _
    rw [(h.advanceTo other time).conclude inj hs, Bool.false_or,
      endsBy_waitEnd?_eq hwait hs (hne s hs)]
  | none =>
    -- The batch is not empty, so there was no time to wait, and none of it has ended.
    have hnot : ∀ u ∈ batch, x.hasEnded u = false := fun u hu => h.hasEnded hu
    have hzero : deadline = 0 := (waitEnd?_eq_none_iff.1 hwait).resolve_left fun hall =>
      Bool.false_ne_true ((hnot s hs).symm.trans (hall s hs))
    have hnone : batch.filter x.hasEnded = [] :=
      List.filter_eq_nil_iff.2 fun u hu => by rw [hnot u hu]; exact Bool.false_ne_true
    have hlate : s.endsWithin (x.now + deadline) = false := by
      unfold Sent.endsWithin
      cases hend : s.endTime? with
      | none => rfl
      | some stop =>
        have := hlater s hs stop hend
        simp only [Option.any_some, decide_eq_false_iff_not]
        omega
    show (x.endAtOnce deadline batch).2.answers.get? s.request = _
    rw [endAtOnce, if_pos (beq_iff_eq.2 hzero), glance, hnone, snd_finish, hlate, get?_answerEmpty,
      if_neg (by exact List.not_mem_nil), h.answer s hs]
    rfl

end Exchange

end AnnotationBridge
