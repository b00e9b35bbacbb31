import AnnotationBridge.Proofs.Behaviour
import AnnotationBridge.Proofs.Waiting
import Mathlib.Data.List.Nodup

/-!
# The result of a pass that was waited for

Each request of a pass answers, fails, loses its task or never ends, at a time of its own. What a
pass has found at its deadline depends on each of its requests alone.

* `Reply.offerBy`: what a request offers by a deadline. `Inquiry.item?`: the item that this makes.
* `Exchange.Fresh`: nobody has heard of the requests of a pass.
* `Exchange.answer_of_join`: the answer to each request after the wait.
* `Exchange.resolve_spec`: the result, and that it changes only by the item of a request if what
  becomes of that request changes.
-/

namespace AnnotationBridge

open Lsp

/-! ### What is expected -/

/-- What a request that has ended offers: nothing for `null`, for an error and for a lost task. -/
def Outcome.offer : Outcome → List Action
  | .answer (some actions) => actions
  | .answer none | .failure _ | .crash => []

/-- What a request offers by a deadline; none if it has not ended before. -/
def Reply.offerBy (deadline : Nat) (r : Reply) : Option (List Action) :=
  match r.outcome with
  | some outcome => if r.delayMs < deadline then some outcome.offer else none
  | none => none

/-- The item of a request, if there is one: without support for code actions the marker is kept
without actions; else it is kept with what the request offers by the deadline. -/
def Inquiry.item? (deadline : Nat) (β : RequestId → Reply) (i : Inquiry) (q : Request) :
    Option Finding :=
  (if i.connection.support.isSupported then (β q.id).offerBy deadline else some []).map
    (⟨q.marker, ·⟩)

/-- The result that is expected of a pass: for each connection the items of its requests, in order,
and the number of requests without an offer among those that are put to a server. -/
def Pass.expected (deadline : Nat) (β : RequestId → Reply) (p : Pass) : PassResult where
  pass := p.number
  editor := p.editor
  findings := p.inquiries.map fun i => ⟨i.connection, i.requests.filterMap (i.item? deadline β)⟩
  unresolved := (p.inquiries.flatMap Inquiry.asked).countP fun q =>
    ((β q.id).offerBy deadline).isNone

/-- A request that brings no answer offers nothing. -/
theorem Outcome.offer_eq (o : Outcome) : o.offer = o.actions?.getD [] := by
  cases o with
  | answer actions => cases actions <;> rfl
  | failure error => rfl
  | crash => rfl

/-! ### The requests of a pass -/

namespace Pass

variable {p : Pass} {q : Request}

/-- Each request is put to its server or not. -/
theorem perm_asked_unasked (is : List Inquiry) :
    (is.flatMap Inquiry.asked ++ is.flatMap Inquiry.unasked).Perm (is.flatMap Inquiry.requests) := by
  induction is with
  | nil => exact .refl _
  | cons i is ih =>
    rw [List.flatMap_cons, List.flatMap_cons, List.flatMap_cons]
    by_cases hsupport : i.connection.support.isSupported = true
    · rw [Inquiry.asked, Inquiry.unasked, if_pos hsupport, if_pos hsupport, List.nil_append,
        List.append_assoc]
      exact ih.append_left _
    · rw [Inquiry.asked, Inquiry.unasked, if_neg hsupport, if_neg hsupport, List.nil_append]
      have hswap : (is.flatMap Inquiry.asked ++ (i.requests ++ is.flatMap Inquiry.unasked)).Perm
          (i.requests ++ (is.flatMap Inquiry.asked ++ is.flatMap Inquiry.unasked)) := by
        rw [← List.append_assoc, ← List.append_assoc]
        exact List.perm_append_comm.append_right _
      exact hswap.trans (ih.append_left _)

/-- Where a request stands in its pass, and that all others have other identifiers. -/
theorem exists_split (hnodup : (p.requests.map Request.id).Nodup) (hq : q ∈ p.requests) :
    ∃ first i last before after, p.inquiries = first ++ i :: last ∧
      i.requests = before ++ q :: after ∧
      ∀ other ∈ (first.flatMap Inquiry.requests ++ before) ++
        (after ++ last.flatMap Inquiry.requests), other.id ≠ q.id := by
  obtain ⟨i, hi, hqi⟩ := List.mem_flatMap.1 hq
  obtain ⟨first, last, hinquiries⟩ := List.append_of_mem hi
  obtain ⟨before, after, hrequests⟩ := List.append_of_mem hqi
  refine ⟨first, i, last, before, after, hinquiries, hrequests, fun other hother heq => ?_⟩
  have hsplit : p.requests = (first.flatMap Inquiry.requests ++ before) ++
      q :: (after ++ last.flatMap Inquiry.requests) := by
    rw [requests, hinquiries, List.flatMap_append, List.flatMap_cons, hrequests, List.append_assoc,
      List.append_assoc, List.cons_append]
  rw [hsplit, List.map_append, List.map_cons, List.nodup_middle, ← List.map_append,
    List.nodup_cons] at hnodup
  exact hnodup.1 (heq ▸ List.mem_map_of_mem hother)

end Pass

namespace Exchange

variable {x : Exchange} {p : Pass} {i : Inquiry} {q : Request} {deadline : Nat}
  {β : RequestId → Reply}

/-- Nobody has heard of the requests of a pass. -/
structure Fresh (x : Exchange) (p : Pass) : Prop where
  nodup : (p.requests.map Request.id).Nodup
  unanswered : ∀ q ∈ p.requests, x.answers.get? q.id = none
  unsent : ∀ s ∈ x.underWay, ∀ q ∈ p.requests, s.request ≠ q.id
  unawaited : ∀ w ∈ x.waiting, ∀ s ∈ w.batch, ∀ q ∈ p.requests, s.request ≠ q.id

/-- Where nothing was sent, nobody has heard of any requests. -/
theorem fresh_empty (nodup : (p.requests.map Request.id).Nodup) : Exchange.empty.Fresh p where
  nodup := nodup
  unanswered _ _ := rfl
  unsent _ hs := absurd hs List.not_mem_nil
  unawaited _ hw := absurd hw List.not_mem_nil

/-- No request that was put to a server ends exactly at the deadline. -/
def NoneAt (deadline : Nat) (p : Pass) (β : RequestId → Reply) : Prop :=
  ∀ i ∈ p.inquiries, i.connection.support.isSupported = true → ∀ q ∈ i.requests,
    (β q.id).outcome.isSome = true → (β q.id).delayMs ≠ deadline

/-! ### The answers after the wait -/

/-- The requests that are sent are those to servers that offer code actions. -/
theorem mem_asked : q ∈ p.inquiries.flatMap Inquiry.asked ↔
    ∃ i ∈ p.inquiries, i.connection.support.isSupported = true ∧ q ∈ i.requests := by
  unfold Inquiry.asked
  rw [List.mem_flatMap]
  constructor
  · rintro ⟨i, hi, hq⟩
    split at hq
    · exact ⟨i, hi, ‹_›, hq⟩
    · cases hq
  · rintro ⟨i, hi, hsupport, hq⟩
    exact ⟨i, hi, by rwa [if_pos hsupport]⟩

/-- The requests that are not sent are those to the other servers. -/
theorem mem_unasked : q ∈ p.inquiries.flatMap Inquiry.unasked ↔
    ∃ i ∈ p.inquiries, ¬ i.connection.support.isSupported = true ∧ q ∈ i.requests := by
  unfold Inquiry.unasked
  rw [List.mem_flatMap]
  constructor
  · rintro ⟨i, hi, hq⟩
    split at hq
    · cases hq
    · exact ⟨i, hi, ‹_›, hq⟩
  · rintro ⟨i, hi, hsupport, hq⟩
    exact ⟨i, hi, by rwa [if_neg hsupport]⟩

/-- A request that was sent is one of those that are put to a server. -/
theorem exists_asked {s : Sent} (hs : s ∈ (x.ask p).1) :
    ∃ i ∈ p.inquiries, i.connection.support.isSupported = true ∧
      ∃ q ∈ i.requests, s.request = q.id := by
  have hmem := List.mem_map_of_mem (f := Sent.request) hs
  rw [(x.ask_sends p).2.1] at hmem
  obtain ⟨q, hq, hid⟩ := List.mem_map.1 hmem
  obtain ⟨i, hi, hsupport, hqi⟩ := mem_asked.1 hq
  exact ⟨i, hi, hsupport, q, hqi, hid.symm⟩

/-- No request is both put to a server and not. -/
theorem Fresh.nodup_append (hfresh : x.Fresh p) :
    ((p.inquiries.flatMap Inquiry.asked).map Request.id ++
      (p.inquiries.flatMap Inquiry.unasked).map Request.id).Nodup := by
  rw [← List.map_append]
  exact ((Pass.perm_asked_unasked p.inquiries).map Request.id).nodup_iff.2 hfresh.nodup

/-- The requests that were sent have different identifiers. -/
theorem Fresh.request_inj (hfresh : x.Fresh p) :
    ∀ u ∈ (x.ask p).1, ∀ s ∈ (x.ask p).1, u.request = s.request → u = s := by
  have hnodup : ((x.ask p).1.map Sent.request).Nodup := by
    rw [(x.ask_sends p).2.1]
    exact (List.nodup_append.1 hfresh.nodup_append).1
  exact fun u hu s hs => List.inj_on_of_nodup_map hnodup hu hs

/-- **After asking, all that was sent is under way.** -/
theorem Fresh.tracks (hfresh : x.Fresh p) :
    (x.ask p).2.Tracks (x.ask p).1 fun _ => false := by
  obtain ⟨hsends, hrequest, hanswers⟩ := x.ask_sends p
  have hnumbers : ((x.ask p).1.map Sent.number).Nodup := by
    rw [hsends.numbers]
    exact List.nodup_range'
  refine ⟨fun s hs => ?_, fun u hu s hs heq => ?_, fun u hu s hs heq => ?_, fun s hs => ?_⟩
  · rw [hsends.underWay]
    exact iff_of_true (List.mem_append_right _ hs) rfl
  · rw [hsends.underWay] at hu
    rcases List.mem_append.1 hu with hu | hu
    · -- Numbers that were given out before are smaller.
      have hold := x.numbered u hu
      have hnew := List.mem_map_of_mem (f := Sent.number) hs
      rw [hsends.numbers, List.mem_range'_1] at hnew
      omega
    · exact List.inj_on_of_nodup_map hnumbers hu hs heq
  · rw [hsends.underWay] at hu
    rcases List.mem_append.1 hu with hu | hu
    · obtain ⟨i, hi, -, q, hq, hid⟩ := exists_asked hs
      exact absurd (heq.trans hid) (hfresh.unsent u hu q (List.mem_flatMap.2 ⟨i, hi, hq⟩))
    · exact hfresh.request_inj u hu s hs heq
  · obtain ⟨i, hi, -, q, hq, hid⟩ := exists_asked hs
    have hmem := List.mem_map_of_mem (f := Sent.request) hs
    rw [hrequest] at hmem
    rw [hanswers, get?_answerEmpty, if_neg fun hun =>
      (List.nodup_append.1 hfresh.nodup_append).2.2 _ hmem _ hun rfl, hid]
    exact hfresh.unanswered q (List.mem_flatMap.2 ⟨i, hi, hq⟩)

/-- What a request that was sent has brought at the deadline is what it was expected to offer. -/
theorem Behaves.offer_eq (hβ : x.Behaves p β) {s : Sent} (hs : s ∈ (x.ask p).1) :
    (if s.endsWithin (x.now + deadline) then some (s.actions?.getD []) else none) =
      (β s.request).offerBy deadline := by
  unfold Sent.endsWithin Sent.endTime? Sent.actions? Reply.offerBy
  rw [hβ s hs]
  cases (β s.request).outcome with
  | none => rfl
  | some outcome =>
    simp only [Option.map_some, Option.any_some, Option.bind_some, decide_eq_true_iff,
      Nat.add_lt_add_iff_left, Outcome.offer_eq]

/-- **The answer to each request of a pass after the wait.** -/
theorem Fresh.answer_of_join (hfresh : x.Fresh p) (hβ : x.Behaves p β)
    (hnone : NoneAt deadline p β) (hi : i ∈ p.inquiries) (hq : q ∈ i.requests) :
    ((x.ask p).2.join deadline (x.ask p).1).2.2.answers.get? q.id =
      if i.connection.support.isSupported then (β q.id).offerBy deadline else some [] := by
  obtain ⟨hsends, hrequest, hanswers⟩ := x.ask_sends p
  by_cases hsupport : i.connection.support.isSupported = true
  · have hmem : q.id ∈ (x.ask p).1.map Sent.request := by
      rw [hrequest]
      exact List.mem_map_of_mem (mem_asked.2 ⟨i, hi, hsupport, hq⟩)
    obtain ⟨s, hs, hid⟩ := List.mem_map.1 hmem
    have hend : ∀ u ∈ (x.ask p).1, ∀ stop, u.endTime? = some stop →
        ∃ outcome, (β u.request).outcome = some outcome ∧ stop = x.now + (β u.request).delayMs := by
      intro u hu stop hstop
      unfold Sent.endTime? at hstop
      rw [hβ u hu] at hstop
      cases hout : (β u.request).outcome with
      | none => rw [hout] at hstop; cases hstop
      | some outcome =>
        rw [hout] at hstop
        exact ⟨outcome, rfl, (Option.some.inj hstop).symm⟩
    rw [if_pos hsupport, ← hid, join_answers hfresh.tracks hfresh.request_inj ?_ ?_ ?_ hs, hsends.now,
      hβ.offer_eq hs]
    · intro w hw u hu s' hs' heq
      rw [hsends.waiting] at hw
      obtain ⟨i', hi', -, q', hq', hid'⟩ := exists_asked hs'
      exact hfresh.unawaited w hw u hu q' (List.mem_flatMap.2 ⟨i', hi', hq'⟩) (heq.trans hid')
    · intro u hu stop hstop
      obtain ⟨outcome, -, rfl⟩ := hend u hu stop hstop
      rw [hsends.now]
      exact Nat.le_add_right _ _
    · intro u hu hstop
      obtain ⟨outcome, hout, hdelay⟩ := hend u hu _ hstop
      obtain ⟨i', hi', hsupport', q', hq', hid'⟩ := exists_asked hu
      rw [hsends.now, hid'] at hdelay
      rw [hid'] at hout
      exact hnone i' hi' hsupport' q' hq' (by rw [hout]; rfl) (Nat.add_left_cancel hdelay).symm
  · rw [if_neg hsupport]
    refine keeps_join _ _ _ _ _ ?_
    rw [hanswers, get?_answerEmpty, if_pos (List.mem_map_of_mem (mem_unasked.2 ⟨i, hi, hsupport, hq⟩)),
      hfresh.unanswered q (List.mem_flatMap.2 ⟨i, hi, hq⟩)]
    rfl

/-! ### The result -/

/-- **A pass that is waited for off the UI thread has the expected result.** -/
theorem Fresh.resolve_eq (hfresh : x.Fresh p) (hβ : x.Behaves p β) (hnone : NoneAt deadline p β) :
    (x.resolve false deadline p).1 = .ok (p.expected deadline β) := by
  show Except.ok (p.resolved ((x.ask p).2.join deadline (x.ask p).1).2.2.answers) = _
  generalize hanswers : ((x.ask p).2.join deadline (x.ask p).1).2.2.answers = answers
  have hget : ∀ i ∈ p.inquiries, ∀ q ∈ i.requests, answers.get? q.id =
      if i.connection.support.isSupported then (β q.id).offerBy deadline else some [] := by
    intro i hi q hq
    rw [← hanswers]
    exact hfresh.answer_of_join hβ hnone hi hq
  congr 1
  unfold Pass.resolved Pass.expected
  congr 1
  · refine List.map_congr_left fun i hi => ?_
    rw [Inquiry.findings]
    congr 1
    refine List.filterMap_congr fun q hq => ?_
    rw [Request.finding?, hget i hi q hq, Inquiry.item?]
  · rw [Pass.requests, ← (Pass.perm_asked_unasked p.inquiries).countP_eq, List.countP_append]
    have hasked : (p.inquiries.flatMap Inquiry.asked).countP (fun q => (answers.get? q.id).isNone) =
        (p.inquiries.flatMap Inquiry.asked).countP fun q => ((β q.id).offerBy deadline).isNone := by
      refine List.countP_congr fun q hq => ?_
      obtain ⟨i, hi, hsupport, hqi⟩ := mem_asked.1 hq
      rw [hget i hi q hqi, if_pos hsupport]
    have hunasked :
        (p.inquiries.flatMap Inquiry.unasked).countP (fun q => (answers.get? q.id).isNone) = 0 := by
      refine List.countP_eq_zero.2 fun q hq => ?_
      obtain ⟨i, hi, hsupport, hqi⟩ := mem_unasked.1 hq
      rw [hget i hi q hqi, if_neg hsupport]
      exact Bool.false_ne_true
    rw [hasked, hunasked, Nat.add_zero]

/-- With other clients, the same requests are fresh. -/
theorem Fresh.withClients (hfresh : x.Fresh p) (clients : Connection → Client) :
    x.Fresh (p.withClients clients) := by
  have hsame := p.requests_withClients clients
  refine ⟨?_, ?_, ?_, ?_⟩
  · rw [hsame]
    exact hfresh.nodup
  · rw [hsame]
    exact hfresh.unanswered
  · rw [hsame]
    exact hfresh.unsent
  · rw [hsame]
    exact hfresh.unawaited

/-- The items that are expected with other clients, connection by connection. -/
theorem items_expected_withClients (deadline : Nat) (β : RequestId → Reply) (p : Pass)
    (clients : Connection → Client) :
    ((p.withClients clients).expected deadline β).findings.map Findings.items =
      p.inquiries.map fun i => i.requests.filterMap (i.item? deadline β) := by
  unfold Pass.expected Pass.withClients
  rw [List.map_map, List.map_map]
  rfl

/-- What a request contributes to the items of its connection. -/
theorem filterMap_middle {α γ : Type} (f : α → Option γ) (before after : List α) (a : α) :
    (before ++ a :: after).filterMap f =
      before.filterMap f ++ (f a).toList ++ after.filterMap f := by
  rw [List.filterMap_append, List.filterMap_cons]
  cases f a <;> simp

/-- **If what becomes of one request changes, only the item of that request changes.** -/
theorem items_expected_of_eq_off (hnodup : (p.requests.map Request.id).Nodup)
    (hq : q ∈ p.requests) {β' : RequestId → Reply} (hsame : ∀ id, id ≠ q.id → β' id = β id) :
    ∃ first last before after, ∃ o o' : Option Finding,
      (p.inquiries.map fun i => i.requests.filterMap (i.item? deadline β)) =
          first ++ (before ++ o.toList ++ after) :: last ∧
        (p.inquiries.map fun i => i.requests.filterMap (i.item? deadline β')) =
          first ++ (before ++ o'.toList ++ after) :: last ∧
        ∀ f, o = some f ∨ o' = some f → f.marker = q.marker := by
  obtain ⟨first, i, last, before, after, hinquiries, hrequests, hother⟩ :=
    Pass.exists_split hnodup hq
  have hitem : ∀ (j : Inquiry) (other : Request), other.id ≠ q.id →
      j.item? deadline β' other = j.item? deadline β other := fun j other hne => by
    rw [Inquiry.item?, Inquiry.item?, hsame other.id hne]
  have hitems : ∀ (j : Inquiry) (rs : List Request), (∀ other ∈ rs, other.id ≠ q.id) →
      rs.filterMap (j.item? deadline β') = rs.filterMap (j.item? deadline β) := fun j rs hne =>
    List.filterMap_congr fun other hmem => hitem j other (hne other hmem)
  have hmarker : ∀ β f, i.item? deadline β q = some f → f.marker = q.marker := by
    intro β f hf
    obtain ⟨actions, -, rfl⟩ := Option.map_eq_some_iff.1 hf
    rfl
  refine ⟨first.map fun j => j.requests.filterMap (j.item? deadline β),
    last.map fun j => j.requests.filterMap (j.item? deadline β),
    before.filterMap (i.item? deadline β), after.filterMap (i.item? deadline β),
    i.item? deadline β q, i.item? deadline β' q, ?_, ?_, ?_⟩
  · rw [hinquiries, List.map_append, List.map_cons, hrequests, filterMap_middle]
  · rw [hinquiries, List.map_append, List.map_cons, hrequests, filterMap_middle,
      hitems i before fun other hmem => hother other (by simp [hmem]),
      hitems i after fun other hmem => hother other (by simp [hmem])]
    congr 1
    · refine List.map_congr_left fun j hj => hitems j _ fun other hmem => hother other ?_
      exact List.mem_append_left _ (List.mem_append_left _ (List.mem_flatMap.2 ⟨j, hj, hmem⟩))
    · congr 1
      refine List.map_congr_left fun j hj => hitems j _ fun other hmem => hother other ?_
      exact List.mem_append_right _ (List.mem_append_right _ (List.mem_flatMap.2 ⟨j, hj, hmem⟩))
  · rintro f (hf | hf)
    · exact hmarker β f hf
    · exact hmarker β' f hf

/-- **What a pass has found.** A pass with fresh requests that is waited for off the UI thread has a
result, with one entry for each connection in the same order: all markers without actions if the
connection has no support for code actions, and else the markers whose request ended before the
deadline, in order, each with what that request offers. The other requests are counted. Anything can
become of each request; if what becomes of one request changes, only the item of that request
does. -/
theorem resolve_spec (x : Exchange) (p : Pass) (deadline : Nat) (β : RequestId → Reply)
    (hfresh : x.Fresh p) (hβ : x.Behaves p β) (hnone : NoneAt deadline p β) :
    ∃ result, (x.resolve false deadline p).1 = .ok result ∧
      result.pass = p.number ∧ result.editor = p.editor ∧
      result.findings = (p.inquiries.map fun i =>
        ⟨i.connection, i.requests.filterMap fun q =>
          (if i.connection.support.isSupported then (β q.id).offerBy deadline else some []).map
            (⟨q.marker, ·⟩)⟩) ∧
      result.unresolved = (p.inquiries.flatMap Inquiry.asked).countP
        (fun q => ((β q.id).offerBy deadline).isNone) ∧
      result.itemCount + result.unresolved = p.requestCount ∧
      (∀ β', ∃ clients, x.Behaves (p.withClients clients) β') ∧
      ∀ q ∈ p.requests, ∀ clients β', (∀ id, id ≠ q.id → β' id = β id) →
        x.Behaves (p.withClients clients) β' → NoneAt deadline (p.withClients clients) β' →
        ∃ result', (x.resolve false deadline (p.withClients clients)).1 = .ok result' ∧
          ∃ first last before after, ∃ o o' : Option Finding,
            result.findings.map Findings.items = first ++ (before ++ o.toList ++ after) :: last ∧
            result'.findings.map Findings.items = first ++ (before ++ o'.toList ++ after) :: last ∧
            ∀ f, o = some f ∨ o' = some f → f.marker = q.marker := by
  have hresult := hfresh.resolve_eq hβ hnone
  refine ⟨p.expected deadline β, hresult, rfl, rfl, rfl, rfl, ?_, x.exists_behaves p, ?_⟩
  · rw [← Except.ok.inj hresult]
    exact PassResult.itemCount_add_unresolved p _
  · intro q hq clients β' hsame hβ' hnone'
    refine ⟨_, (hfresh.withClients clients).resolve_eq hβ' hnone', ?_⟩
    rw [items_expected_withClients]
    have hitems : (p.expected deadline β).findings.map Findings.items =
        p.inquiries.map fun i => i.requests.filterMap (i.item? deadline β) := by
      unfold Pass.expected
      rw [List.map_map]
      rfl
    rw [hitems]
    exact items_expected_of_eq_off hfresh.nodup hq hsame

namespace Sample

/-- The marker of a request. -/
def marker (number : Nat) : Marker :=
  ⟨⟨1⟩, "x", number, { range := ⟨⟨0, 0⟩, ⟨0, 4⟩⟩, message := "m" }, ⟨0, 4⟩, "text"⟩

/-- A request of the pass. -/
def request (number : Nat) : Request :=
  ⟨⟨1, number⟩, marker number⟩

/-- What a server offers. -/
def fix : Action :=
  .action { title := "Fix" }

/-- What becomes of the requests: the second one is answered, the task of the third is lost, the
fourth is answered too late, and the fifth never ends. -/
def behaviour (id : RequestId) : Reply :=
  [⟨0, none⟩, ⟨0, some (.answer (some [fix]))⟩, ⟨5, some .crash⟩, ⟨20, some (.answer (some [fix]))⟩,
    ⟨0, none⟩][id.index]?.getD ⟨0, none⟩

/-- A pass about two connections, the first of which has no support for code actions. -/
def pass : Pass :=
  ⟨1, ⟨1⟩, ⟨⟨1⟩, ⟨"file:///w/b", by decide⟩, none, "b", none, ⟨"text".toList, 0⟩⟩,
    [⟨⟨⟨1⟩, "x", ⟨none⟩, .echo⟩, [request 0]⟩,
      ⟨⟨⟨2⟩, "x", ⟨some (.simple true)⟩,
          .scripted 0 (([1, 2, 3, 4].map fun index => ⟨1, index⟩).map behaviour)⟩,
        [request 1, request 2, request 3, request 4]⟩]⟩

end Sample

/-- Of two connections and five requests, one is not asked, two have ended at the deadline, and two
have not. -/
theorem resolve_spec_two_connections :
    ∃ result, (Exchange.empty.resolve false 10 Sample.pass).1 = .ok result ∧
      result.findings.map Findings.items =
        [[⟨Sample.marker 0, []⟩], [⟨Sample.marker 1, [Sample.fix]⟩, ⟨Sample.marker 2, []⟩]] ∧
      result.unresolved = 2 := by
  have fresh : Exchange.empty.Fresh Sample.pass := fresh_empty (by decide)
  have behaves : Exchange.empty.Behaves Sample.pass Sample.behaviour := by
    have hask : (Exchange.empty.ask Sample.pass).1 =
        [⟨0, ⟨1, 1⟩, some ⟨0, .answer (some [Sample.fix])⟩⟩, ⟨1, ⟨1, 2⟩, some ⟨5, .crash⟩⟩,
          ⟨2, ⟨1, 3⟩, some ⟨20, .answer (some [Sample.fix])⟩⟩, ⟨3, ⟨1, 4⟩, none⟩] := rfl
    unfold Behaves
    rw [hask]
    simp only [List.forall_mem_cons]
    exact ⟨rfl, rfl, rfl, rfl, fun _ h => absurd h List.not_mem_nil⟩
  have none : NoneAt 10 Sample.pass Sample.behaviour := by
    unfold NoneAt
    decide
  obtain ⟨result, hok, -, -, hfindings, hunresolved, -⟩ :=
    resolve_spec Exchange.empty Sample.pass 10 Sample.behaviour fresh behaves none
  refine ⟨result, hok, ?_, ?_⟩
  · rw [hfindings]
    rfl
  · rw [hunresolved]
    decide

end Exchange

end AnnotationBridge
