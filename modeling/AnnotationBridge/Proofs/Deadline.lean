import AnnotationBridge.Proofs.Pending
import Mathlib.Data.ENat.Lattice
import Mathlib.Order.CompletePartialOrder

/-!
# Waiting until a deadline

A wait for requests ends when the last of them has ended, at the latest at its deadline. It has
noticed then which of them ended, and answers with nothing those that were lost. A wait without any
time looks at its requests once, and one look notices only so many.

* `Exchange.Holds.now_join`: when a wait ends. `Exchange.Holds.exists_finish`: what it has noticed.
* `Exchange.Holds.fst_join`: when it is complete. `Exchange.Holds.get?_join`: the answers after it.
* `Exchange.Pending.join_spec`: how a wait ends.
* `Exchange.crowd_times_out`: a wait that gives up although all requests have ended.
  `Exchange.asked_again_times_out`: one that gives up with nothing outstanding, although a request
  has not ended.
-/

namespace AnnotationBridge

open Lsp

namespace Exchange

variable {x : Exchange} {batch : List Sent} {s : Sent} {deadline : Nat} {apart : Prop}

/-! ### When a wait ends -/

/-- The last end of the requests of a batch that all end. -/
theorem foldl_max_eq_iSup {times : List Nat} (h : batch.mapM Sent.endTime? = some times)
    (least : Nat) : (times.foldl max least : ℕ) = max (least : ℕ∞) (⨆ s ∈ batch, s.endsAt) := by
  induction batch generalizing times least with
  | nil =>
    obtain rfl := Option.some.inj h
    simp
  | cons u rest ih =>
    rw [List.mapM_cons] at h
    obtain ⟨first, hfirst, h⟩ := Option.bind_eq_some_iff.1 h
    obtain ⟨later, hlater, h⟩ := Option.bind_eq_some_iff.1 h
    obtain rfl := Option.some.inj h
    have hends : u.endsAt = first := by
      rw [Sent.endsAt, hfirst]
      rfl
    have hlast : ⨆ s ∈ u :: rest, s.endsAt = max (first : ℕ∞) (⨆ s ∈ rest, s.endsAt) := by
      simp only [List.mem_cons, iSup_or, iSup_sup_eq, iSup_iSup_eq_left, hends]
    rw [List.foldl_cons, ih hlater, hlast, Nat.mono_cast.map_max, max_assoc]

/-- A batch with a request that never ends. -/
theorem iSup_endsAt_eq_top (h : batch.mapM Sent.endTime? = none) :
    ⨆ s ∈ batch, s.endsAt = ⊤ := by
  obtain ⟨s, hs, hnever⟩ : ∃ s ∈ batch, s.endTime? = none := by
    induction batch with
    | nil => cases h
    | cons u rest ih =>
      rw [List.mapM_cons] at h
      cases hu : u.endTime? with
      | none => exact ⟨u, List.mem_cons_self, hu⟩
      | some first =>
        cases hrest : rest.mapM Sent.endTime? with
        | none =>
          obtain ⟨s, hs, hnever⟩ := ih hrest
          exact ⟨s, List.mem_cons_of_mem u hs, hnever⟩
        | some later =>
          rw [hu, hrest] at h
          cases h
  refine top_unique (le_trans ?_ (le_iSup₂ s hs))
  rw [Sent.endsAt, hnever]
  exact le_rfl

/-- **A wait ends when the last of its requests has ended, at the latest at its deadline.** -/
theorem Holds.now_join (h : x.Holds batch) (deadline : Nat) :
    ((x.join deadline batch).2.2.now : ℕ∞) =
      min ((x.now + deadline : ℕ) : ℕ∞) (max (x.now : ℕ∞) (⨆ s ∈ batch, s.endsAt)) := by
  unfold Exchange.join
  cases hwait : x.waitEnd? deadline batch with
  | none =>
    show ((x.endAtOnce deadline batch).2.now : ℕ∞) = _
    rw [now_endAtOnce]
    rcases waitEnd?_eq_none_iff.1 hwait with hall | rfl
    · have hlast : ⨆ s ∈ batch, s.endsAt ≤ (x.now : ℕ∞) := iSup₂_le fun s hs =>
        Sent.endsBy_eq_true_iff.1 (h.past s hs (hall s hs))
      rw [max_eq_left hlast, min_eq_right (Nat.cast_le.2 (Nat.le_add_right _ _))]
    · exact (min_eq_left (le_max_left _ _)).symm
  | some time =>
    show (((x.advanceTo time).2.conclude batch).2.now : ℕ∞) = _
    rw [conclude, now_finish, now_advanceTo, max_eq_right (now_le_of_waitEnd? hwait)]
    unfold waitEnd? at hwait
    split at hwait
    · cases hwait
    · split at hwait
      · rename_i times htimes
        obtain rfl := Option.some.inj hwait
        rw [← foldl_max_eq_iSup htimes, ← Nat.mono_cast.map_min]
      · rename_i hnever
        obtain rfl := Option.some.inj hwait
        rw [iSup_endsAt_eq_top hnever, max_top_right, min_top_right]

/-! ### What a wait notices -/

/-- What has ended has ended before the deadline, unless it ends just then. -/
theorem Holds.endsWithin_of_hasEnded (h : x.Holds batch) (hs : s ∈ batch)
    (hne : s.endTime? ≠ some (x.now + deadline)) (hend : x.hasEnded s = true) :
    s.endsWithin (x.now + deadline) = true := by
  obtain ⟨e, he, htime⟩ := Sent.endsBy_iff.1 (h.past s hs hend)
  have hstop : s.endTime? = some e.time := by rw [Sent.endTime?, he, Option.map_some]
  have : e.time ≠ x.now + deadline := fun heq => hne (hstop.trans (congrArg some heq))
  rw [Sent.endsWithin, hstop, Option.any_some, decide_eq_true_iff]
  omega

/-- How many ended requests a wait for so many can notice. -/
def noticeable (deadline size : Nat) : Nat :=
  if deadline = 0 then noticeLimit else size

/-- The requests of a batch that a wait for it notices to have ended. -/
def noticed (x : Exchange) (deadline : Nat) (batch : List Sent) : List Sent :=
  (batch.filter (·.endsWithin (x.now + deadline))).take (noticeable deadline batch.length)

/-- The requests of a batch that have ended, which a wait for it does not notice. -/
def overlooked (x : Exchange) (deadline : Nat) (batch : List Sent) : List Sent :=
  (batch.filter (·.endsWithin (x.now + deadline))).drop (noticeable deadline batch.length)

/-- The requests that end in time are noticed or overlooked. -/
theorem noticed_append_overlooked (x : Exchange) (deadline : Nat) (batch : List Sent) :
    x.noticed deadline batch ++ x.overlooked deadline batch =
      batch.filter (·.endsWithin (x.now + deadline)) :=
  List.take_append_drop _ _

/-- A request that is noticed ends in time. -/
theorem of_mem_noticed (hs : s ∈ x.noticed deadline batch) :
    s ∈ batch ∧ s.endsWithin (x.now + deadline) = true :=
  List.mem_filter.1 (List.mem_of_mem_take hs)

/-- A request that is overlooked ends in time, too. -/
theorem of_mem_overlooked (hs : s ∈ x.overlooked deadline batch) :
    s ∈ batch ∧ s.endsWithin (x.now + deadline) = true :=
  List.mem_filter.1 (List.mem_of_mem_drop hs)

/-- With some time, or if not too many have ended for one look, nothing is overlooked. -/
theorem overlooked_eq_nil (hall : 0 < deadline ∨
    (batch.filter (·.endsWithin (x.now + deadline))).length ≤ noticeLimit) :
    x.overlooked deadline batch = [] := by
  refine List.drop_eq_nil_of_le ?_
  unfold noticeable
  split
  · exact hall.resolve_left (by omega)
  · exact List.length_filter_le _ _

/-- All requests that end in time are noticed, if there is time to look or there are not too many.
-/
theorem noticed_eq_filter (hall : 0 < deadline ∨
    (batch.filter (·.endsWithin (x.now + deadline))).length ≤ noticeLimit) :
    x.noticed deadline batch = batch.filter (·.endsWithin (x.now + deadline)) := by
  rw [← x.noticed_append_overlooked, overlooked_eq_nil hall, List.append_nil]

/-- **What a wait has noticed at its end** are the requests that ended before its deadline; without
any time, the first of them. -/
theorem Holds.exists_finish (h : x.Holds batch)
    (hne : ∀ s ∈ batch, s.endTime? ≠ some (x.now + deadline)) :
    ∃ y : Exchange, y.Holds batch ∧ (x.Apart batch → y.Apart batch) ∧
      (∀ s ∈ batch, y.hasEnded s = s.endsWithin (x.now + deadline)) ∧
      (x.join deadline batch).1 = (y.finish batch (x.noticed deadline batch)).1 ∧
      (x.join deadline batch).2.2 = (y.finish batch (x.noticed deadline batch)).2 := by
  have hpast : ∀ s ∈ batch, x.hasEnded s = true → s.endsWithin (x.now + deadline) = true :=
    fun s hs => h.endsWithin_of_hasEnded hs (hne s hs)
  unfold Exchange.join noticed noticeable
  cases hwait : x.waitEnd? deadline batch with
  | none =>
    have hsame : ∀ s ∈ batch, x.hasEnded s = s.endsWithin (x.now + deadline) := fun s hs => by
      refine Bool.eq_iff_iff.2 ⟨hpast s hs, fun hends => ?_⟩
      rcases waitEnd?_eq_none_iff.1 hwait with hall | rfl
      · exact hall s hs
      · exact h.earlier s hs hends
    refine ⟨x, h, id, hsame, ?_⟩
    rw [← List.filter_congr hsame]
    dsimp only
    unfold Exchange.endAtOnce
    by_cases hzero : deadline = 0
    · rw [if_pos (beq_iff_eq.2 hzero), if_pos hzero]
      exact ⟨rfl, rfl⟩
    · rw [if_neg fun heq => hzero (beq_iff_eq.1 heq), if_neg hzero,
        List.take_of_length_le (List.length_filter_le _ _)]
      exact ⟨rfl, rfl⟩
  | some time =>
    have hpositive : deadline ≠ 0 := fun hzero =>
      Option.some_ne_none time (hwait.symm.trans (waitEnd?_eq_none_iff.2 (.inr hzero)))
    have hsame : ∀ s ∈ batch, (x.advanceTo time).2.hasEnded s = s.endsWithin (x.now + deadline) :=
      fun s hs => (h.hasEnded_advanceTo hs (now_le_of_waitEnd? hwait)).trans
        (endsBy_waitEnd?_eq hwait hs (hne s hs))
    refine ⟨(x.advanceTo time).2, h.advanceTo time, (·.advanceTo time), hsame, ?_⟩
    rw [if_neg hpositive, List.take_of_length_le (List.length_filter_le _ _),
      ← List.filter_congr hsame]
    exact ⟨rfl, rfl⟩

/-! ### How a wait ends -/

/-- A wait that has noticed the end of all its requests is complete. Else it counts those that have
no answer. -/
theorem fst_finish (x : Exchange) (batch noticed : List Sent) :
    (x.finish batch noticed).1 =
      if noticed.length = batch.length then .completed
      else .timedOut (batch.countP fun s =>
        ((x.finish batch noticed).2.answers.get? s.request).isNone) := by
  rw [snd_finish]
  unfold finish
  dsimp only
  split <;> rfl

/-- When a wait has noticed the end of all its requests. -/
theorem length_noticed_eq_iff :
    (x.noticed deadline batch).length = batch.length ↔
      (∀ s ∈ batch, s.endsWithin (x.now + deadline) = true) ∧
        (0 < deadline ∨ batch.length ≤ noticeLimit) := by
  have hle := List.length_filter_le (·.endsWithin (x.now + deadline)) batch
  rw [noticed, noticeable, List.length_take, ← List.length_filter_eq_length_iff]
  split <;> omega

/-- **A wait is complete exactly if all its requests have ended and can be noticed.** Else it counts
those that have no answer. -/
theorem Holds.fst_join (h : x.Holds batch)
    (hne : ∀ s ∈ batch, s.endTime? ≠ some (x.now + deadline)) :
    (x.join deadline batch).1 =
      if (∀ s ∈ batch, s.endsWithin (x.now + deadline) = true) ∧
          (0 < deadline ∨ batch.length ≤ noticeLimit) then .completed
      else .timedOut (batch.countP fun s =>
        ((x.join deadline batch).2.2.answers.get? s.request).isNone) := by
  obtain ⟨y, -, -, -, houtcome, hafter⟩ := h.exists_finish hne
  rw [houtcome, hafter, fst_finish]
  exact if_congr length_noticed_eq_iff rfl rfl

/-- **After a wait all requests whose end it noticed have answers.** So have those that brought
something. -/
theorem Holds.isSome_join (h : x.Holds batch)
    (hne : ∀ s ∈ batch, s.endTime? ≠ some (x.now + deadline)) (hs : s ∈ batch)
    (hend : s.endsWithin (x.now + deadline) = true)
    (hseen : s ∈ x.noticed deadline batch ∨ s.actions?.isSome = true) :
    ((x.join deadline batch).2.2.answers.get? s.request).isSome = true := by
  obtain ⟨y, hy, -, hsame, -, hafter⟩ := h.exists_finish hne
  rw [hafter]
  by_cases hbrings : s.actions?.isSome = true
  · obtain ⟨actions, hget⟩ := Option.isSome_iff_exists.1
      (hy.answered s hs ((hsame s hs).trans hend) hbrings)
    rw [keeps_finish y batch _ _ _ hget, Option.isSome_some]
  · have hlost : s ∈ (x.noticed deadline batch).filter (·.actions?.isNone) :=
      List.mem_filter.2 ⟨hseen.resolve_right hbrings, by simpa using hbrings⟩
    rw [snd_finish, get?_answerEmpty, if_pos (List.mem_map_of_mem hlost), Option.isSome_some]

/-- **The answers after a wait for requests that are kept apart.** -/
theorem Holds.get?_join (h : x.Holds batch) (a : x.Apart batch)
    (hne : ∀ s ∈ batch, s.endTime? ≠ some (x.now + deadline)) :
    let answers := (x.join deadline batch).2.2.answers
    (∀ s ∈ x.noticed deadline batch, answers.get? s.request = some (s.actions?.getD [])) ∧
      (∀ s ∈ x.overlooked deadline batch, answers.get? s.request = s.actions?) ∧
      ∀ s ∈ batch, s.endsWithin (x.now + deadline) = false → answers.get? s.request = none := by
  intro answers
  obtain ⟨y, -, hapart, hsame, -, hafter⟩ := h.exists_finish hne
  have hanswer : ∀ s ∈ batch, (s ∈ x.noticed deadline batch →
      answers.get? s.request = some (s.actions?.getD [])) ∧ (s ∉ x.noticed deadline batch →
        answers.get? s.request = if s.endsWithin (x.now + deadline) then s.actions? else none) := by
    intro s hs
    have hfinish := ((hapart a).tracks.congr hsame).finish (fun _ => of_mem_noticed) a.request_inj hs
    rwa [← hafter] at hfinish
  refine ⟨fun s hs => (hanswer s (of_mem_noticed hs).1).1 hs, fun s hs => ?_, fun s hs hlate => ?_⟩
  · obtain ⟨hmem, hend⟩ := of_mem_overlooked hs
    have hdisjoint : (x.noticed deadline batch).Disjoint (x.overlooked deadline batch) :=
      List.disjoint_take_drop (a.distinct.of_map.filter _) (Nat.le_refl _)
    rw [(hanswer s hmem).2 fun hin => hdisjoint hin hs, if_pos hend]
  · have hunseen : s ∉ x.noticed deadline batch := fun hin =>
      Bool.false_ne_true (hlate.symm.trans (of_mem_noticed hin).2)
    rw [(hanswer s hs).2 hunseen, hlate]
    rfl

/-- **The requests without an answer after a wait**, if they are kept apart, are those that have not
ended, and those that were lost and overlooked. -/
theorem Holds.countP_join (h : x.Holds batch) (a : x.Apart batch)
    (hne : ∀ s ∈ batch, s.endTime? ≠ some (x.now + deadline)) :
    batch.countP (fun s => ((x.join deadline batch).2.2.answers.get? s.request).isNone) =
      batch.countP (fun s => !s.endsWithin (x.now + deadline)) +
        (x.overlooked deadline batch).countP (·.actions?.isNone) := by
  obtain ⟨hseen, hunseen, hlate⟩ := h.get?_join a hne
  generalize (x.join deadline batch).2.2.answers = answers at hseen hunseen hlate ⊢
  have hnoticed : (x.noticed deadline batch).countP
      (fun s => (answers.get? s.request).isNone) = 0 := by
    refine List.countP_eq_zero.2 fun s hs => ?_
    rw [hseen s hs]
    exact Bool.false_ne_true
  have hoverlooked : (x.overlooked deadline batch).countP
      (fun s => (answers.get? s.request).isNone) =
        (x.overlooked deadline batch).countP (·.actions?.isNone) :=
    List.countP_congr fun s hs => by rw [hunseen s hs]
  have hrest : (batch.filter fun s => !s.endsWithin (x.now + deadline)).countP
      (fun s => (answers.get? s.request).isNone) =
        batch.countP fun s => !s.endsWithin (x.now + deadline) := by
    rw [List.countP_eq_length_filter (p := fun s : Sent => !s.endsWithin (x.now + deadline)),
      List.countP_eq_length]
    intro s hs
    obtain ⟨hs, hend⟩ := List.mem_filter.1 hs
    rw [hlate s hs ((Bool.not_eq_true' _).mp hend)]
    rfl
  rw [List.countP_eq_countP_filter_add batch _ (·.endsWithin (x.now + deadline)), hrest,
    ← x.noticed_append_overlooked, List.countP_append, hnoticed, hoverlooked, Nat.zero_add,
    Nat.add_comm]

/-- **How a wait ends.** A wait for requests, none of which ends exactly at its deadline, is over
when the last of them has ended, at the latest at the deadline, however many there are. It is
complete exactly if all have ended before the deadline, and there was some time or they were not too
many for one look; then all have answers. Else it counts those that have no answer. A request that
ended has one, unless it was lost and too many ended for one look.

Suppose that the requests are kept apart. Those that have not ended have no answer. If all ends
could be noticed, a wait that is not complete counts those that have not ended, and there are some;
each that has ended is answered, with nothing if it was lost. If too many had ended for one look,
only the first of these are noticed, and of the rest those that were lost are counted as well. -/
theorem Pending.join_spec (pending : Pending apart x batch) (deadline : Nat)
    (hne : ∀ s ∈ batch, s.endTime? ≠ some (x.now + deadline)) :
    let limit := x.now + deadline
    let ended := batch.filter (·.endsWithin limit)
    let late := batch.countP fun s => !s.endsWithin limit
    let outcome := (x.join deadline batch).1
    let after := (x.join deadline batch).2.2
    (after.now : ℕ∞) = min (limit : ℕ∞) (max (x.now : ℕ∞) (⨆ s ∈ batch, s.endsAt)) ∧
      (outcome = .completed ↔ (∀ s ∈ batch, s.endsWithin limit = true) ∧
        (0 < deadline ∨ batch.length ≤ noticeLimit)) ∧
      (outcome = .completed → ∀ s ∈ batch, (after.answers.get? s.request).isSome = true) ∧
      (outcome ≠ .completed →
        outcome = .timedOut (batch.countP fun s => (after.answers.get? s.request).isNone)) ∧
      (∀ s ∈ ended, 0 < deadline ∨ ended.length ≤ noticeLimit ∨ s.actions?.isSome = true →
        (after.answers.get? s.request).isSome = true) ∧
      (apart →
        (∀ s ∈ batch, s.endsWithin limit = false → after.answers.get? s.request = none) ∧
        (0 < deadline ∨ ended.length ≤ noticeLimit →
          (outcome ≠ .completed → outcome = .timedOut late ∧ 0 < late) ∧
          ∀ s ∈ ended, after.answers.get? s.request = some (s.actions?.getD [])) ∧
        (deadline = 0 → noticeLimit < ended.length →
          outcome = .timedOut (late + (ended.drop noticeLimit).countP (·.actions?.isNone)) ∧
          (∀ s ∈ ended.take noticeLimit, after.answers.get? s.request = some (s.actions?.getD [])) ∧
          ∀ s ∈ ended.drop noticeLimit, after.answers.get? s.request = s.actions?)) := by
  intro limit ended late outcome after
  have h := pending.holds
  have houtcome : outcome = if _ then .completed else .timedOut _ := h.fst_join hne
  have hcomplete : outcome = .completed ↔ (∀ s ∈ batch, s.endsWithin limit = true) ∧
      (0 < deadline ∨ batch.length ≤ noticeLimit) := by
    rw [houtcome, ite_eq_left_iff]
    refine ⟨fun himp => ?_, fun hboth hnot => absurd hboth hnot⟩
    exact Decidable.byContradiction fun hnot => JoinOutcome.noConfusion (himp hnot)
  have hsome : ∀ s ∈ ended, 0 < deadline ∨ ended.length ≤ noticeLimit ∨ s.actions?.isSome = true →
      (after.answers.get? s.request).isSome = true := by
    intro s hs hcase
    obtain ⟨hmem, hend⟩ := List.mem_filter.1 hs
    refine h.isSome_join hne hmem hend ?_
    rw [← or_assoc] at hcase
    exact hcase.imp_left fun hall => noticed_eq_filter hall ▸ hs
  have hcounts : outcome ≠ .completed → outcome = .timedOut _ := fun hnot =>
    houtcome.trans (if_neg fun hboth => hnot (hcomplete.2 hboth))
  refine ⟨h.now_join deadline, hcomplete, fun hdone s hs => ?_, fun hnot => ?_, hsome, fun ha => ?_⟩
  · obtain ⟨hevery, hfew⟩ := hcomplete.1 hdone
    refine hsome s (List.mem_filter.2 ⟨hs, hevery s hs⟩) ?_
    exact hfew.imp_right fun hfew => .inl ((List.length_filter_le _ _).trans hfew)
  · exact hcounts hnot
  · have a := pending.isApart ha
    obtain ⟨hseen, hunseen, hlate⟩ := h.get?_join a hne
    rw [h.countP_join a hne] at hcounts
    refine ⟨hlate, fun hall => ⟨fun hnot => ⟨?_, ?_⟩, ?_⟩, fun hzero hmany => ?_⟩
    · rw [hcounts hnot, overlooked_eq_nil hall, List.countP_nil, Nat.add_zero]
    · refine Nat.pos_of_ne_zero fun hzero => hnot (hcomplete.2 ?_)
      have hevery : ∀ s ∈ batch, s.endsWithin limit = true := fun s hs => by
        simpa using List.countP_eq_zero.1 hzero s hs
      exact ⟨hevery, hall.imp_right fun hfew => List.length_filter_eq_length_iff.2 hevery ▸ hfew⟩
    · rwa [noticed_eq_filter hall] at hseen
    · have hnot : outcome ≠ .completed := fun hdone => by
        have hsize := (hcomplete.1 hdone).2
        have hle : ended.length ≤ batch.length := List.length_filter_le _ _
        omega
      rw [noticed, noticeable, if_pos hzero] at hseen
      rw [overlooked, noticeable, if_pos hzero] at hunseen hcounts
      exact ⟨hcounts hnot, hseen, hunseen⟩

/-- Of four requests that are waited for some time after they were sent, two have ended at the
deadline, one of which was lost. -/
theorem join_spec_four_requests :
    let x := ((Exchange.empty.ask Sample.pass).2.advanceTo 3).2
    let batch := (Exchange.empty.ask Sample.pass).1
    let after := (x.join 10 batch).2.2
    Pending True x batch ∧ (∀ s ∈ batch, s.endTime? ≠ some (x.now + 10)) ∧
      (x.join 10 batch).1 = .timedOut 2 ∧ after.now = 13 ∧
      after.answers.get? ⟨1, 1⟩ = some [Sample.fix] ∧ after.answers.get? ⟨1, 2⟩ = some [] ∧
      after.answers.get? ⟨1, 3⟩ = none := by
  intro x batch after
  have fresh : Exchange.empty.Fresh Sample.pass := fresh_empty (by decide)
  have hbatch : batch =
      [⟨0, ⟨1, 1⟩, some ⟨0, .answer (some [Sample.fix])⟩⟩, ⟨1, ⟨1, 2⟩, some ⟨5, .crash⟩⟩,
        ⟨2, ⟨1, 3⟩, some ⟨20, .answer (some [Sample.fix])⟩⟩, ⟨3, ⟨1, 4⟩, none⟩] := rfl
  have hnow : x.now = 3 := now_advanceTo _ 3
  have pending : Pending True x batch :=
    ((Pending.nil _).ask (fun _ => fresh) fun _ _ hs => absurd hs List.not_mem_nil).advance 3
  have hne : ∀ s ∈ batch, s.endTime? ≠ some (x.now + 10) := by
    rw [hnow, hbatch]
    decide
  obtain ⟨htime, hcomplete, -, -, -, hapart⟩ := pending.join_spec 10 hne
  obtain ⟨hlate, hall, -⟩ := hapart trivial
  obtain ⟨htimedOut, hended⟩ := hall (.inl (by decide))
  rw [hnow, hbatch] at hlate hcomplete htimedOut hended
  rw [hnow, iSup_endsAt_eq_top (by rw [hbatch]; rfl), max_top_right, min_top_right] at htime
  refine ⟨pending, hne, (htimedOut fun heq => ?_).1, Nat.cast_injective htime, ?_, ?_, ?_⟩
  · exact absurd (hcomplete.1 heq).1 (by decide)
  · exact hended ⟨0, ⟨1, 1⟩, some ⟨0, .answer (some [Sample.fix])⟩⟩ List.mem_cons_self
  · exact hended ⟨1, ⟨1, 2⟩, some ⟨5, .crash⟩⟩ (List.mem_cons_of_mem _ List.mem_cons_self)
  · exact hlate ⟨2, ⟨1, 3⟩, some ⟨20, .answer (some [Sample.fix])⟩⟩ (by simp) rfl

/-! ### Waits that give up with nothing outstanding -/

namespace Sample

/-- A pass with so many requests for one server, which offers nothing after some time. -/
def askedOf (size delayMs : Nat) : Pass :=
  { pass with inquiries :=
      [⟨⟨⟨1⟩, "x", ⟨some (.simple true)⟩, ⟨fun _ _ => ⟨delayMs, some (.answer none)⟩⟩⟩,
        (List.range size).map request⟩] }

end Sample

/-- Of 129 requests, which nobody else asks, all have ended with an answer, and a wait without any
time is not complete: it says that it gave up, with no request outstanding. -/
theorem crowd_times_out :
    let batch := (Exchange.empty.ask (Sample.askedOf 129 0)).1
    let x := ((Exchange.empty.ask (Sample.askedOf 129 0)).2.advanceTo 1).2
    Pending True x batch ∧ batch.length = 129 ∧ (∀ s ∈ batch, s.endsWithin x.now = true) ∧
      (∀ s ∈ batch, s.endTime? ≠ some x.now) ∧ (x.join 0 batch).1 = .timedOut 0 := by
  intro batch x
  have fresh : Exchange.empty.Fresh (Sample.askedOf 129 0) := by
    have hids : (Sample.askedOf 129 0).requests.map Request.id =
        (List.range 129).map (RequestId.mk 1) := rfl
    refine fresh_empty ?_
    rw [hids]
    exact List.nodup_range.map fun _ _ => congrArg RequestId.index
  have pending : Pending True x batch :=
    ((Pending.nil _).ask (fun _ => fresh) fun _ _ hs => absurd hs List.not_mem_nil).advance 1
  have hnow : x.now = 1 := now_advanceTo _ 1
  have hlength : batch.length = 129 := by
    have hrequest := congrArg List.length (Exchange.empty.ask_sends (Sample.askedOf 129 0)).2.1
    rw [List.length_map] at hrequest
    exact hrequest.trans rfl
  have hending : ∀ s ∈ batch, s.ending = some ⟨0, .answer none⟩ := fun s hs => by
    obtain ⟨i, hi, n, params, r, rfl, hending⟩ := exists_reply hs
    obtain rfl := List.mem_singleton.1 hi
    exact hending
  have hended : ∀ s ∈ batch, s.endsWithin x.now = true := fun s hs => by
    rw [Sent.endsWithin, Sent.endTime?, hending s hs, hnow]
    rfl
  have hne : ∀ s ∈ batch, s.endTime? ≠ some x.now := fun s hs => by
    rw [Sent.endTime?, hending s hs, hnow]
    decide
  refine ⟨pending, hlength, hended, hne, ?_⟩
  have hcrowd : ¬ (0 < 0 ∨ batch.length ≤ noticeLimit) := by
    rw [hlength]
    decide
  have houtcome : (x.join 0 batch).1 = if _ then .completed else .timedOut _ :=
    pending.holds.fst_join hne
  rw [houtcome, if_neg fun hboth => hcrowd hboth.2]
  refine congrArg JoinOutcome.timedOut (List.countP_eq_zero.2 fun s hs => ?_)
  have hbrings : s.actions?.isSome = true := by
    rw [Sent.actions?, hending s hs]
    rfl
  have hanswered : ((x.join 0 batch).2.2.answers.get? s.request).isSome = true :=
    pending.holds.isSome_join hne hs (hended s hs) (.inr hbrings)
  obtain ⟨actions, hget⟩ := Option.isSome_iff_exists.1 hanswered
  rw [hget]
  exact Bool.false_ne_true

/-- A pass is asked again while its request is under way. The second request has not ended at its
deadline, but the first has answered it, and the wait says that no request is outstanding. -/
theorem asked_again_times_out :
    let p := Sample.askedOf 1 100
    let x := ((Exchange.empty.ask p).2.advanceTo 50).2
    Pending False (x.ask p).2 (x.ask p).1 ∧ (x.ask p).1.map Sent.endTime? = [some 150] ∧
      ((x.ask p).2.join 75 (x.ask p).1).1 = .timedOut 0 ∧
      ((x.ask p).2.join 75 (x.ask p).1).2.2.now = 125 := by
  intro p x
  refine ⟨(Pending.nil x).ask False.elim False.elim, ?_, ?_, ?_⟩
  all_goals decide +kernel

end Exchange

end AnnotationBridge
