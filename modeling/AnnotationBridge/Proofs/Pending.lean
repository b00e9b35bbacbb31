import AnnotationBridge.Proofs.Resolve
import AnnotationBridge.Proofs.Traffic
import Mathlib.Data.ENat.Basic

/-!
# Requests that someone holds

Whoever asks a pass holds its requests until he waits for them. Meanwhile other passes may be asked,
started and waited for, and time may pass.

* `Exchange.Pending`: the lists of requests that someone may hold, and where they come from.
* `Exchange.Holds`: what is known of such a list. `Exchange.Pending.holds`: it is so for each of
  them, whatever happens meanwhile.
* `Exchange.Apart`: what is known besides if nobody else asks the same.
* `Exchange.exists_reply`: what becomes of a request is up to the client.
-/

namespace AnnotationBridge

open Lsp

namespace Sent

/-- The time at which a request ends, which may be never. -/
def endsAt (s : Sent) : ℕ∞ :=
  s.endTime?.elim ⊤ (↑)

/-- A request has ended by a time exactly if its end is not after it. -/
theorem endsBy_eq_true_iff {s : Sent} {time : Nat} : s.endsBy time = true ↔ s.endsAt ≤ time := by
  unfold endsBy endsAt
  cases s.endTime? with
  | none => simp
  | some stop => simp

/-- A request ends within a limit exactly if its end is before it. -/
theorem endsWithin_eq_true_iff {s : Sent} {limit : Nat} :
    s.endsWithin limit = true ↔ s.endsAt < limit := by
  unfold endsWithin endsAt
  cases s.endTime? with
  | none => simp
  | some stop => simp

end Sent

namespace Exchange

/-! ### Requests that someone holds -/

/-- The lists of requests that someone may hold. They come from passes that were asked; some of them
may be chosen, in any order. Meanwhile passes may be asked, started and waited for, and time may
pass.

The requests are kept apart if nobody else asks the same: then each pass is asked for the first
time, and what happens meanwhile is about other requests. -/
inductive Pending (apart : Prop) : Exchange → List Sent → Prop where
  | nil (x : Exchange) : Pending apart x []
  | ask {x batch p} (h : Pending apart x batch) (fresh : apart → x.Fresh p)
      (other : apart → ∀ s ∈ batch, ∀ q ∈ p.requests, s.request ≠ q.id) :
      Pending apart (x.ask p).2 (batch ++ (x.ask p).1)
  | choose {x batch chosen} (h : Pending apart x batch) (part : chosen.Subperm batch) :
      Pending apart x chosen
  | askOther {x batch p} (h : Pending apart x batch)
      (other : apart → ∀ s ∈ batch, ∀ q ∈ p.requests, s.request ≠ q.id) :
      Pending apart (x.ask p).2 batch
  | startOther {x batch p} (h : Pending apart x batch)
      (other : apart → ∀ s ∈ batch, ∀ q ∈ p.requests, s.request ≠ q.id) (deadline : Nat) :
      Pending apart (x.start deadline p).2 batch
  | joinOther {x batch rest} (h : Pending apart x batch)
      (other : apart → ∀ s ∈ batch, ∀ u ∈ rest, s.request ≠ u.request) (deadline : Nat) :
      Pending apart (x.join deadline rest).2.2 batch
  | advance {x batch} (h : Pending apart x batch) (time : Nat) :
      Pending apart (x.advanceTo time).2 batch

variable {x y : Exchange} {batch chosen rest : List Sent} {ended : Sent → Bool} {s u : Sent}
  {p : Pass} {deadline time : Nat} {ids : List RequestId} {apart : Prop}

/-- What is known of requests that someone holds. They are told from all others by their numbers.
Those that ended before now have ended, perhaps some that end just now, and no others; those that
have ended are answered, unless they were lost. -/
structure Holds (x : Exchange) (batch : List Sent) : Prop where
  number_inj : ∀ u ∈ x.underWay, ∀ s ∈ batch, u.number = s.number → u = s
  numbers : ∀ s ∈ batch, s.number < x.received.length
  distinct : (batch.map Sent.number).Nodup
  past : ∀ s ∈ batch, x.hasEnded s = true → s.endsBy x.now = true
  earlier : ∀ s ∈ batch, s.endsWithin x.now = true → x.hasEnded s = true
  answered : ∀ s ∈ batch, x.hasEnded s = true → s.actions?.isSome = true →
    (x.answers.get? s.request).isSome = true

/-- What is known besides of requests that are kept apart. Each has a place for its answer of its
own, in which no wait of a pass takes part. -/
structure Apart (x : Exchange) (batch : List Sent) : Prop where
  tracks : x.Tracks batch x.hasEnded
  distinct : (batch.map Sent.request).Nodup
  unawaited : ∀ w ∈ x.waiting, ∀ u ∈ w.batch, ∀ s ∈ batch, u.request ≠ s.request

/-- A request that is held has ended exactly if it is not under way. -/
theorem Holds.hasEnded_iff (h : x.Holds batch) (hs : s ∈ batch) :
    x.hasEnded s = true ↔ s ∉ x.underWay :=
  hasEnded_eq_true_iff fun u hu => h.number_inj u hu s hs

/-- Nobody holds anything. -/
theorem Holds.nil (x : Exchange) : x.Holds [] := by
  have hnone : ∀ {P : Sent → Prop}, ∀ s ∈ [], P s := fun s hs => absurd hs List.not_mem_nil
  exact ⟨fun _ _ => hnone, hnone, List.nodup_nil, hnone, hnone, hnone⟩

/-- Some of the requests, in another order. -/
theorem Holds.choose (h : x.Holds batch) (part : chosen.Subperm batch) : x.Holds chosen where
  number_inj u hu s hs := h.number_inj u hu s (part.subset hs)
  numbers s hs := h.numbers s (part.subset hs)
  distinct := by
    obtain ⟨some', hperm, hsub⟩ := part
    exact (hperm.map Sent.number).nodup_iff.1 ((hsub.map Sent.number).nodup h.distinct)
  past s hs := h.past s (part.subset hs)
  earlier s hs := h.earlier s (part.subset hs)
  answered s hs := h.answered s (part.subset hs)

/-- More answers do not matter. -/
theorem Holds.of_keeps (h : x.Holds batch) (now : y.now = x.now) (underWay : y.underWay = x.underWay)
    (received : y.received = x.received) (keeps : x.answers.Keeps y.answers) : y.Holds batch := by
  have hended : ∀ s, y.hasEnded s = x.hasEnded s := fun s => by
    unfold Exchange.hasEnded
    rw [underWay]
  refine ⟨underWay ▸ h.number_inj, received ▸ h.numbers, h.distinct, fun s hs hend => ?_,
    fun s hs hbefore => ?_, fun s hs hend hbrings => ?_⟩
  · rw [now]
    exact h.past s hs ((hended s).symm.trans hend)
  · rw [hended]
    exact h.earlier s hs (now ▸ hbefore)
  · obtain ⟨actions, hget⟩ := Option.isSome_iff_exists.1
      (h.answered s hs ((hended s).symm.trans hend) hbrings)
    rw [keeps s.request actions hget, Option.isSome_some]

/-! ### Time -/

/-- Noting which requests have ended takes no time. -/
theorem now_finish (x : Exchange) (batch noticed : List Sent) :
    (x.finish batch noticed).2.now = x.now := by
  rw [snd_finish]
  rfl

/-- Neither does a wait without a deadline. -/
theorem now_endAtOnce (x : Exchange) (deadline : Nat) (batch : List Sent) :
    (x.endAtOnce deadline batch).2.now = x.now := by
  unfold endAtOnce
  split
  · exact x.now_finish _ _
  · exact x.now_finish _ _

/-- The end of a wait is not before the time at which it is due. -/
theorem now_settle (x : Exchange) (w : Waiting) : (x.settle w).2.now = max x.now w.ends :=
  (x.deliver w.ends).now_finish _ _

/-- The end of several waits takes no longer than the last of them. -/
theorem now_settleAll {ws : List Waiting} (hws : ∀ w ∈ ws, w.ends ≤ time) :
    x.now ≤ (x.settleAll ws).2.now ∧ (x.settleAll ws).2.now ≤ max x.now time := by
  induction ws generalizing x with
  | nil => exact ⟨Nat.le_refl _, Nat.le_max_left _ _⟩
  | cons w ws ih =>
    obtain ⟨hw, hrest⟩ := List.forall_mem_cons.1 hws
    have hlater := ih (x := (x.settle w).2) hrest
    rw [now_settle] at hlater
    show x.now ≤ ((x.settle w).2.settleAll ws).2.now ∧
      ((x.settle w).2.settleAll ws).2.now ≤ max x.now time
    omega

/-- Letting time pass leads to the given time, unless that is over. -/
theorem now_advanceTo (x : Exchange) (time : Nat) : (x.advanceTo time).2.now = max x.now time := by
  unfold Exchange.advanceTo
  generalize hdue : (x.waiting.filter (·.ends ≤ time)).mergeSort (fun v w => v.ends ≤ w.ends) = due
  have hends : ∀ w ∈ due, w.ends ≤ time := fun w hw => by
    rw [← hdue, List.mem_mergeSort, List.mem_filter, decide_eq_true_iff] at hw
    exact hw.2
  have hsettled := now_settleAll (x := { x with waiting := x.waiting.filter (time < ·.ends) }) hends
  show max (settleAll _ due).2.now time = _
  dsimp only at hsettled
  omega

/-- Passing time ends the requests that end until then. -/
theorem Holds.hasEnded_deliver (h : x.Holds batch) (hs : s ∈ batch) (time : Nat) :
    (x.deliver time).hasEnded s = (x.hasEnded s || s.endsBy time) := by
  have hinj : ∀ u ∈ (x.deliver time).underWay, u.number = s.number → u = s := fun u hu =>
    h.number_inj u (List.mem_filter.1 hu).1 s hs
  have hmem : s ∈ (x.deliver time).underWay ↔ s ∈ x.underWay ∧ (!s.endsBy time) = true :=
    List.mem_filter
  rw [Bool.eq_iff_iff, hasEnded_eq_true_iff hinj, hmem, Bool.or_eq_true, h.hasEnded_iff hs,
    Bool.not_eq_true', not_and_or, Bool.not_eq_false]

/-- Whether a request has ended before some time, when that time has come. -/
theorem endsWithin_max (hpast : s.endsWithin x.now = true → x.hasEnded s = true)
    (h : s.endsWithin (max x.now time) = true) : (x.hasEnded s || s.endsBy time) = true := by
  rw [Bool.or_eq_true]
  rcases Nat.le_total x.now time with hle | hle
  · rw [Nat.max_eq_right hle, Sent.endsWithin_eq_true_iff] at h
    exact .inr (Sent.endsBy_eq_true_iff.2 h.le)
  · rw [Nat.max_eq_left hle] at h
    exact .inl (hpast h)

/-- Requests are still held after answers have arrived. -/
theorem Holds.deliver (h : x.Holds batch) (time : Nat) : (x.deliver time).Holds batch := by
  refine ⟨fun u hu => h.number_inj u (List.mem_filter.1 hu).1, h.numbers, h.distinct,
    fun s hs hend => ?_, fun s hs hbefore => ?_, fun s hs hend hbrings => ?_⟩
  · rw [h.hasEnded_deliver hs, Bool.or_eq_true] at hend
    rcases hend with hend | hend
    · exact Sent.endsBy_of_le (Nat.le_max_left _ _) (h.past s hs hend)
    · exact Sent.endsBy_of_le (Nat.le_max_right _ _) hend
  · rw [h.hasEnded_deliver hs]
    exact endsWithin_max (h.earlier s hs) hbefore
  · show ((List.foldl receive x.answers _).get? s.request).isSome = true
    rw [get?_foldl_receive, Option.isSome_or, Bool.or_eq_true, or_iff_not_imp_left]
    intro hnone
    -- It has no answer yet, so it is under way and brings one now.
    have hnot : ¬ x.hasEnded s = true := fun hended => hnone (h.answered s hs hended hbrings)
    have hnow : s.endsBy time = true := by
      rw [h.hasEnded_deliver hs, Bool.or_eq_true] at hend
      exact hend.resolve_left hnot
    have hunderWay : s ∈ x.underWay := by
      by_contra hout
      exact hnot ((h.hasEnded_iff hs).2 hout)
    refine List.findSome?_isSome_iff.2 ⟨s, ?_, ?_⟩
    · rw [List.mem_mergeSort, List.mem_filter]
      exact ⟨hunderWay, hnow⟩
    · rw [Sent.actionsFor?, if_pos rfl]
      exact hbrings

/-! ### What happens meanwhile -/

/-- Requests are still held after others have been noted as ended. -/
theorem Holds.finish (h : x.Holds batch) (rest noticed : List Sent) :
    (x.finish rest noticed).2.Holds batch :=
  h.of_keeps (x.now_finish _ _) (by rw [snd_finish]; rfl) (x.received_finish _ _)
    (x.keeps_finish _ _)

/-- Requests are still held after a wait without a deadline. -/
theorem Holds.endAtOnce (h : x.Holds batch) (deadline : Nat) (rest : List Sent) :
    (x.endAtOnce deadline rest).2.Holds batch := by
  unfold Exchange.endAtOnce
  split
  · exact h.finish rest _
  · exact h.finish rest _

/-- Requests are still held after waits of others have ended. -/
theorem Holds.settleAll {ws : List Waiting} (h : x.Holds batch) : (x.settleAll ws).2.Holds batch := by
  induction ws generalizing x with
  | nil => exact h
  | cons w ws ih => exact ih ((h.deliver w.ends).finish _ _)

/-- Which passes wait does not matter. -/
theorem Holds.withWaiting (h : x.Holds batch) (ws : List Waiting) :
    Holds { x with waiting := ws } batch :=
  h.of_keeps rfl rfl rfl (.refl _)

/-- Time may pass. -/
theorem Holds.advanceTo (h : x.Holds batch) (time : Nat) : (x.advanceTo time).2.Holds batch :=
  (h.withWaiting _).settleAll.deliver time

/-- What has ended when some time has come. -/
theorem Holds.hasEnded_advanceTo (h : x.Holds batch) (hs : s ∈ batch) (hle : x.now ≤ time) :
    (x.advanceTo time).2.hasEnded s = s.endsBy time := by
  rw [Bool.eq_iff_iff]
  constructor
  · intro hend
    have hpast := (h.advanceTo time).past s hs hend
    rwa [now_advanceTo, Nat.max_eq_right hle] at hpast
  · intro hends
    refine ((h.withWaiting _).settleAll.hasEnded_deliver hs time).trans ?_
    rw [hends, Bool.or_true]

/-- Requests are still held after another batch has been waited for. -/
theorem Holds.join (h : x.Holds batch) (deadline : Nat) (rest : List Sent) :
    (x.join deadline rest).2.2.Holds batch := by
  unfold Exchange.join
  cases x.waitEnd? deadline rest with
  | none => exact h.endAtOnce deadline rest
  | some time => exact (h.advanceTo time).finish rest _

/-! ### Asking -/

/-- What a pass puts under way is none of the requests that someone holds already. -/
theorem Holds.not_asked (h : x.Holds batch) (hs : s ∈ batch) (hu : u ∈ (x.ask p).1) :
    u.number ≠ s.number := by
  have hnew := List.mem_map_of_mem (f := Sent.number) hu
  rw [(x.ask_sends p).1.numbers, List.mem_range'_1] at hnew
  have hold := h.numbers s hs
  omega

/-- What becomes of a request that was sent to a client is what that client replies. -/
theorem exists_reply_of_sendAll {uri : Uri} {c : Connection} {rs : List Request}
    (hs : s ∈ (x.sendAll uri c rs).1) :
    ∃ n params, ∃ r : Reply, c.client.reply n params = r ∧
      s.ending = r.outcome.map fun outcome => ⟨x.now + r.delayMs, outcome⟩ := by
  induction rs generalizing x with
  | nil => cases hs
  | cons r rs ih =>
    rcases List.mem_cons.1 hs with rfl | hs
    · exact ⟨_, _, _, rfl, rfl⟩
    · exact ih (x := (x.send uri c r).2) hs

/-- The end of a request that is sent is what its client says. -/
theorem exists_reply_of_inquireAll {uri : Uri} {is : List Inquiry}
    (hs : s ∈ (x.inquireAll uri is).1) :
    ∃ i ∈ is, ∃ n params, ∃ r : Reply, i.connection.client.reply n params = r ∧
      s.ending = r.outcome.map fun outcome => ⟨x.now + r.delayMs, outcome⟩ := by
  induction is generalizing x with
  | nil => cases hs
  | cons i is ih =>
    rw [inquireAll_cons] at hs
    rcases List.mem_append.1 hs with hs | hs
    · unfold Exchange.inquire at hs
      split at hs
      · exact ⟨i, List.mem_cons_self, exists_reply_of_sendAll hs⟩
      · cases hs
    · obtain ⟨i', hi', hreply⟩ := ih hs
      have hnow : (x.inquire uri i).2.now = x.now := (x.inquireAll_sends uri [i]).1.now
      rw [hnow] at hreply
      exact ⟨i', List.mem_cons_of_mem i hi', hreply⟩

/-- **What becomes of a request of a pass is what the client of its connection replies.** -/
theorem exists_reply (hs : s ∈ (x.ask p).1) :
    ∃ i ∈ p.inquiries, ∃ n params, ∃ r : Reply, i.connection.client.reply n params = r ∧
      s.ending = r.outcome.map fun outcome => ⟨x.now + r.delayMs, outcome⟩ :=
  exists_reply_of_inquireAll hs

/-- A request that is sent ends now or later. -/
theorem now_le_endsAt (hs : s ∈ (x.ask p).1) : (x.now : ℕ∞) ≤ s.endsAt := by
  obtain ⟨i, -, n, params, r, -, hending⟩ := exists_reply hs
  unfold Sent.endsAt Sent.endTime?
  rw [hending]
  cases r.outcome with
  | none => exact le_top
  | some outcome => exact Nat.cast_le.2 (Nat.le_add_right _ _)

/-- A pass that is asked adds its requests. -/
theorem Holds.ask (h : x.Holds batch) (p : Pass) : (x.ask p).2.Holds (batch ++ (x.ask p).1) := by
  obtain ⟨hsends, -, hanswers⟩ := x.ask_sends p
  have hinj : ∀ u ∈ (x.ask p).2.underWay, ∀ s ∈ batch ++ (x.ask p).1,
      u.number = s.number → u = s := by
    intro u hu s hs heq
    rw [hsends.underWay] at hu
    rcases List.mem_append.1 hu with hu | hu <;> rcases List.mem_append.1 hs with hs | hs
    · exact h.number_inj u hu s hs heq
    · -- Numbers that were given out before are smaller.
      have hold := x.numbered u hu
      have hnew := List.mem_map_of_mem (f := Sent.number) hs
      rw [hsends.numbers, List.mem_range'_1] at hnew
      omega
    · exact absurd heq (h.not_asked hs hu)
    · have hnodup : ((x.ask p).1.map Sent.number).Nodup := hsends.numbers ▸ List.nodup_range'
      exact List.inj_on_of_nodup_map hnodup hu hs heq
  have hended : ∀ s ∈ batch ++ (x.ask p).1, (x.ask p).2.hasEnded s = true →
      s ∈ batch ∧ x.hasEnded s = true := by
    intro s hs hend
    rw [hasEnded_eq_true_iff fun u hu => hinj u hu s hs, hsends.underWay, List.mem_append,
      not_or] at hend
    have hold := (List.mem_append.1 hs).resolve_right hend.2
    exact ⟨hold, (h.hasEnded_iff hold).2 hend.1⟩
  refine ⟨hinj, fun s hs => ?_, ?_, fun s hs hend => ?_, fun s hs hbefore => ?_,
    fun s hs hend hbrings => ?_⟩
  · rw [hsends.received]
    rcases List.mem_append.1 hs with hs | hs
    · exact Nat.lt_of_lt_of_le (h.numbers s hs) (Nat.le_add_right _ _)
    · have hnew := List.mem_map_of_mem (f := Sent.number) hs
      rw [hsends.numbers, List.mem_range'_1] at hnew
      exact hnew.2
  · rw [List.map_append, List.nodup_append, hsends.numbers]
    refine ⟨h.distinct, List.nodup_range', ?_⟩
    rintro n hn n' hn' rfl
    obtain ⟨s, hs, rfl⟩ := List.mem_map.1 hn
    have hold := h.numbers s hs
    rw [List.mem_range'_1] at hn'
    omega
  · obtain ⟨hold, hend⟩ := hended s hs hend
    rw [hsends.now]
    exact h.past s hold hend
  · rw [hsends.now] at hbefore
    rcases List.mem_append.1 hs with hs' | hs'
    · rw [hasEnded_eq_true_iff fun u hu => hinj u hu s hs, hsends.underWay, List.mem_append, not_or]
      exact ⟨(h.hasEnded_iff hs').1 (h.earlier s hs' hbefore), fun hnew => h.not_asked hs' hnew rfl⟩
    · rw [Sent.endsWithin_eq_true_iff] at hbefore
      exact absurd hbefore (not_lt.2 (now_le_endsAt hs'))
  · obtain ⟨hold, hend⟩ := hended s hs hend
    obtain ⟨actions, hget⟩ := Option.isSome_iff_exists.1 (h.answered s hold hend hbrings)
    rw [hanswers, keeps_answerEmpty x _ _ _ hget, Option.isSome_some]

/-- Requests are still held after another pass has been asked. -/
theorem Holds.askOther (h : x.Holds batch) (p : Pass) : (x.ask p).2.Holds batch :=
  (h.ask p).choose (List.sublist_append_left _ _).subperm

/-- Requests are still held after another pass has been started. -/
theorem Holds.startOther (h : x.Holds batch) (deadline : Nat) (p : Pass) :
    (x.start deadline p).2.Holds batch := by
  unfold Exchange.start
  dsimp only
  cases (x.ask p).2.waitEnd? deadline (x.ask p).1 with
  | none => exact (h.askOther p).endAtOnce deadline _
  | some time => exact (h.askOther p).withWaiting _

/-- **Whatever happens meanwhile, this is known of the requests that someone holds.** -/
theorem Pending.holds (h : Pending apart x batch) : x.Holds batch := by
  induction h with
  | nil x => exact .nil x
  | ask _ _ _ ih => exact ih.ask _
  | choose _ part ih => exact ih.choose part
  | askOther _ _ ih => exact ih.askOther _
  | startOther _ _ deadline ih => exact ih.startOther deadline _
  | joinOther _ _ deadline ih => exact ih.join deadline _
  | advance _ time ih => exact ih.advanceTo time

/-! ### Requests that are kept apart -/

/-- Which requests have ended can be told by following them. -/
theorem Tracks.self (h : x.Tracks batch ended) : x.Tracks batch x.hasEnded :=
  h.congr fun _ hs => (h.hasEnded hs).symm

/-- What is known of a batch is known of each part of it. -/
theorem Tracks.of_subset (h : x.Tracks batch ended) (hsub : chosen ⊆ batch) :
    x.Tracks chosen ended where
  underWay_iff s hs := h.underWay_iff s (hsub hs)
  number_inj u hu s hs := h.number_inj u hu s (hsub hs)
  request_inj u hu s hs := h.request_inj u hu s (hsub hs)
  answer s hs := h.answer s (hsub hs)

/-- What is known of two batches is known of both together. -/
theorem Tracks.append (h : x.Tracks batch ended) (h' : x.Tracks rest ended) :
    x.Tracks (batch ++ rest) ended where
  underWay_iff s hs := (List.mem_append.1 hs).elim (h.underWay_iff s) (h'.underWay_iff s)
  number_inj u hu s hs := (List.mem_append.1 hs).elim (h.number_inj u hu s) (h'.number_inj u hu s)
  request_inj u hu s hs :=
    (List.mem_append.1 hs).elim (h.request_inj u hu s) (h'.request_inj u hu s)
  answer s hs := (List.mem_append.1 hs).elim (h.answer s) (h'.answer s)

/-- Different requests of a batch fill different slots. -/
theorem Apart.request_inj (a : x.Apart batch) :
    ∀ u ∈ batch, ∀ s ∈ batch, u.request = s.request → u = s :=
  fun _ hu _ hs => List.inj_on_of_nodup_map a.distinct hu hs

/-- An empty batch shares nothing with others. -/
theorem Apart.nil (x : Exchange) : x.Apart [] := by
  have hnone : ∀ {P : Sent → Prop}, ∀ s ∈ [], P s := fun s hs => absurd hs List.not_mem_nil
  exact ⟨⟨hnone, fun _ _ => hnone, fun _ _ => hnone, hnone⟩, List.nodup_nil, fun _ _ _ _ => hnone⟩

/-- A part of a batch that is apart is apart. -/
theorem Apart.choose (a : x.Apart batch) (part : chosen.Subperm batch) : x.Apart chosen where
  tracks := a.tracks.of_subset part.subset
  distinct := by
    obtain ⟨some', hperm, hsub⟩ := part
    exact (hperm.map Sent.request).nodup_iff.1 ((hsub.map Sent.request).nodup a.distinct)
  unawaited w hw u hu s hs := a.unawaited w hw u hu s (part.subset hs)

/-- Answering other requests with nothing does not matter. -/
theorem Apart.finish (a : x.Apart batch) {noticed : List Sent} (hnoticed : noticed ⊆ rest)
    (other : ∀ s ∈ batch, ∀ u ∈ rest, s.request ≠ u.request) :
    (x.finish rest noticed).2.Apart batch := by
  rw [snd_finish]
  refine ⟨a.tracks.answerEmpty fun s hs hmem => ?_, a.distinct, a.unawaited⟩
  obtain ⟨u, hu, hreq⟩ := List.mem_map.1 hmem
  exact other s hs u (hnoticed (List.mem_filter.1 hu).1) hreq.symm

/-- A batch stays apart while others are waited for without a deadline. -/
theorem Apart.endAtOnce (a : x.Apart batch)
    (other : ∀ s ∈ batch, ∀ u ∈ rest, s.request ≠ u.request) (deadline : Nat) :
    (x.endAtOnce deadline rest).2.Apart batch := by
  unfold Exchange.endAtOnce
  split
  · exact a.finish (fun u hu => List.filter_subset_self _ (List.mem_of_mem_take hu)) other
  · exact a.finish (List.filter_subset_self _) other

/-- A batch stays apart while time passes. -/
theorem Apart.advanceTo (a : x.Apart batch) (time : Nat) : (x.advanceTo time).2.Apart batch where
  tracks := (a.tracks.advanceTo a.unawaited time).self
  distinct := a.distinct
  unawaited w hw := a.unawaited w ((x.advanceTo_settles time).waiting hw)

/-- A batch stays apart while another one is waited for. -/
theorem Apart.join (a : x.Apart batch) (other : ∀ s ∈ batch, ∀ u ∈ rest, s.request ≠ u.request)
    (deadline : Nat) : (x.join deadline rest).2.2.Apart batch := by
  unfold Exchange.join
  cases x.waitEnd? deadline rest with
  | none => exact a.endAtOnce other deadline
  | some time => exact (a.advanceTo time).finish (List.filter_subset_self _) other

/-- Other passes may be asked. -/
theorem Apart.askOther (a : x.Apart batch) (h : x.Holds batch)
    (other : ∀ s ∈ batch, ∀ q ∈ p.requests, s.request ≠ q.id) : (x.ask p).2.Apart batch := by
  obtain ⟨hsends, -, hanswers⟩ := x.ask_sends p
  have htracks : (x.ask p).2.Tracks batch x.hasEnded := by
    refine ⟨fun s hs => ?_, (h.askOther p).number_inj, fun u hu s hs heq => ?_, fun s hs => ?_⟩
    · rw [hsends.underWay, List.mem_append, ← a.tracks.underWay_iff s hs]
      exact or_iff_left fun hnew => h.not_asked hs hnew rfl
    · rw [hsends.underWay] at hu
      rcases List.mem_append.1 hu with hu | hu
      · exact a.tracks.request_inj u hu s hs heq
      · obtain ⟨i, hi, -, q, hq, hid⟩ := exists_asked hu
        exact absurd (heq.symm.trans hid) (other s hs q (List.mem_flatMap.2 ⟨i, hi, hq⟩))
    · rw [hanswers, get?_answerEmpty, if_neg, a.tracks.answer s hs]
      intro hmem
      obtain ⟨q, hq, hid⟩ := List.mem_map.1 hmem
      obtain ⟨i, hi, -, hqi⟩ := mem_unasked.1 hq
      exact other s hs q (List.mem_flatMap.2 ⟨i, hi, hqi⟩) hid.symm
  exact ⟨htracks.self, a.distinct, hsends.waiting ▸ a.unawaited⟩

/-- A batch stays apart while another pass is started. -/
theorem Apart.startOther (a : x.Apart batch) (h : x.Holds batch)
    (other : ∀ s ∈ batch, ∀ q ∈ p.requests, s.request ≠ q.id) (deadline : Nat) :
    (x.start deadline p).2.Apart batch := by
  have hasked := a.askOther h other
  have hbatch : ∀ s ∈ batch, ∀ u ∈ (x.ask p).1, s.request ≠ u.request := fun s hs u hu heq => by
    obtain ⟨i, hi, -, q, hq, hid⟩ := exists_asked hu
    exact other s hs q (List.mem_flatMap.2 ⟨i, hi, hq⟩) (heq.trans hid)
  unfold Exchange.start
  dsimp only
  cases (x.ask p).2.waitEnd? deadline (x.ask p).1 with
  | none => exact hasked.endAtOnce hbatch deadline
  | some time =>
    refine ⟨⟨hasked.tracks.underWay_iff, hasked.tracks.number_inj, hasked.tracks.request_inj,
      hasked.tracks.answer⟩, hasked.distinct, fun w hw u hu s hs heq => ?_⟩
    rcases List.mem_append.1 hw with hw | hw
    · exact hasked.unawaited w hw u hu s hs heq
    · obtain rfl := List.mem_singleton.1 hw
      exact hbatch s hs u hu heq.symm

/-- A pass that is asked for the first time adds its requests. -/
theorem Apart.ask (a : x.Apart batch) (h : x.Holds batch) (fresh : x.Fresh p)
    (other : ∀ s ∈ batch, ∀ q ∈ p.requests, s.request ≠ q.id) :
    (x.ask p).2.Apart (batch ++ (x.ask p).1) := by
  obtain ⟨hsends, hrequest, -⟩ := x.ask_sends p
  have hold := a.askOther h other
  refine ⟨hold.tracks.append fresh.tracks.self, ?_, fun w hw u hu s hs heq => ?_⟩
  · rw [List.map_append, List.nodup_append, hrequest]
    refine ⟨a.distinct, (List.nodup_append.1 fresh.nodup_append).1, ?_⟩
    rintro id hid id' hid' rfl
    obtain ⟨s, hs, rfl⟩ := List.mem_map.1 hid
    obtain ⟨q, hq, hreq⟩ := List.mem_map.1 hid'
    obtain ⟨i, hi, -, hqi⟩ := mem_asked.1 hq
    exact other s hs q (List.mem_flatMap.2 ⟨i, hi, hqi⟩) hreq.symm
  · rcases List.mem_append.1 hs with hs | hs
    · exact hold.unawaited w hw u hu s hs heq
    · rw [hsends.waiting] at hw
      obtain ⟨i, hi, -, q, hq, hid⟩ := exists_asked hs
      exact fresh.unawaited w hw u hu q (List.mem_flatMap.2 ⟨i, hi, hq⟩) (heq.trans hid)

/-- **Each request that is kept apart has a place for its answer of its own.** -/
theorem Pending.isApart (h : Pending apart x batch) (ha : apart) : x.Apart batch := by
  induction h with
  | nil x => exact .nil x
  | ask h fresh other ih => exact ih.ask h.holds (fresh ha) (other ha)
  | choose _ part ih => exact ih.choose part
  | askOther h other ih => exact ih.askOther h.holds (other ha)
  | startOther h other deadline ih => exact ih.startOther h.holds (other ha) deadline
  | joinOther _ other deadline ih => exact ih.join (other ha) deadline
  | advance _ time ih => exact ih.advanceTo time

end Exchange

end AnnotationBridge
