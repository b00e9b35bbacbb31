import AnnotationBridge.Proofs.Resolve
import AnnotationBridge.Proofs.Traffic

/-!
# Waiting on the UI thread

Nobody waits for a pass on the UI thread: that is refused. But the questions have been asked by
then, and requests to servers that offer no code actions have been answered, so the refusal leaves
things as they were only if there was nothing to ask.

* `Exchange.ask_eq_self_iff`: when asking changes nothing.
* `Session.resolve_refused`: what a refusal leaves behind.
* `Session.refused_pass_was_sent`: a refusal after which servers have been asked.
-/

namespace AnnotationBridge

open Lsp

namespace Answers

/-- A request that has an answer gets no other. -/
theorem record_eq_self {a : Answers} {id : RequestId} (h : (a.get? id).isSome = true)
    (actions : List Action) : a.record id actions = a :=
  if_pos h

end Answers

namespace Exchange

variable {x : Exchange} {p : Pass}

/-- Requests are answered with nothing one after the other. -/
theorem answerEmpty_append (x : Exchange) (ids more : List RequestId) :
    x.answerEmpty (ids ++ more) = (x.answerEmpty ids).answerEmpty more := by
  unfold answerEmpty
  rw [List.foldl_append]

/-- Answering requests with nothing does nothing exactly if they all have answers. -/
theorem answerEmpty_eq_self_iff {ids : List RequestId} :
    x.answerEmpty ids = x ↔ ∀ id ∈ ids, (x.answers.get? id).isSome = true := by
  constructor
  · intro hsame id hid
    rw [← hsame, get?_answerEmpty, if_pos hid, Option.isSome_some]
  · intro hall
    have hanswers : ids.foldl (fun answers id => answers.record id []) x.answers = x.answers := by
      induction ids with
      | nil => rfl
      | cons id ids ih =>
        obtain ⟨hid, hids⟩ := List.forall_mem_cons.1 hall
        rw [List.foldl_cons, Answers.record_eq_self hid, ih hids]
    unfold answerEmpty
    rw [hanswers]

/-- If no server has to be asked, there is nothing to do but to answer with nothing. -/
theorem inquireAll_of_asked_eq_nil {uri : Uri} {is : List Inquiry}
    (h : is.flatMap Inquiry.asked = []) :
    (x.inquireAll uri is).2 = x.answerEmpty ((is.flatMap Inquiry.unasked).map Request.id) := by
  induction is generalizing x with
  | nil => rfl
  | cons i is ih =>
    obtain ⟨hfirst, hrest⟩ := List.append_eq_nil_iff.1 (List.flatMap_cons ▸ h)
    have hinquire : (x.inquire uri i).2 = x.answerEmpty (i.unasked.map Request.id) := by
      unfold Inquiry.asked at hfirst
      unfold inquire Inquiry.unasked
      split
      · rw [if_pos ‹_›] at hfirst
        rw [hfirst]
        rfl
      · rfl
    rw [inquireAll_cons, List.flatMap_cons, List.map_append, answerEmpty_append, ← hinquire]
    exact ih hrest

/-- **Asking changes nothing exactly if no server has to be asked and the other requests have been
answered.** -/
theorem ask_eq_self_iff :
    (x.ask p).2 = x ↔ p.inquiries.flatMap Inquiry.asked = [] ∧
      ∀ q ∈ p.inquiries.flatMap Inquiry.unasked, (x.answers.get? q.id).isSome = true := by
  have hempty : p.inquiries.flatMap Inquiry.asked = [] → ((x.ask p).2 = x ↔
      ∀ q ∈ p.inquiries.flatMap Inquiry.unasked, (x.answers.get? q.id).isSome = true) := by
    intro hnone
    rw [ask, inquireAll_of_asked_eq_nil hnone, answerEmpty_eq_self_iff, List.forall_mem_map]
  refine ⟨fun hsame => ?_, fun ⟨hnone, hanswered⟩ => (hempty hnone).2 hanswered⟩
  have hbatch : (x.ask p).1 = [] := by
    have hunderWay := (x.ask_sends p).1.underWay
    rwa [hsame, List.self_eq_append_right] at hunderWay
  have hnone : p.inquiries.flatMap Inquiry.asked = [] := by
    have hrequest := (x.ask_sends p).2.1
    rw [hbatch] at hrequest
    exact List.map_eq_nil_iff.1 hrequest.symm
  exact ⟨hnone, (hempty hnone).1 hsame⟩

end Exchange

namespace Session

/-- **What a refusal leaves behind.** Waiting for a pass on the UI thread is refused, and leaves
exactly what asking the pass leaves: the annotator and the time are the same, each client has
received the questions of the pass that go to it, the requests to servers that offer code actions
are under way, and the other requests are answered with nothing unless they had an answer.

So everything is as it was exactly if no server had to be asked and all other requests had been
answered; for a pass without any answers, exactly if it has no requests. -/
theorem resolve_refused (s : Session) (p : Pass) :
    let refused := (s.resolve true p).2
    (s.resolve true p).1 = .error .joinOnUiThread ∧
      refused = (s.ask p).2 ∧ refused.annotator = s.annotator ∧ refused.now = s.now ∧
      (∀ id, refused.exchange.receivedBy id = s.exchange.receivedBy id ++
        (p.traffic.filter (·.1 = id)).map Prod.snd) ∧
      (∃ batch, refused.exchange.underWay = s.exchange.underWay ++ batch ∧
        batch.map Sent.request = (p.inquiries.flatMap Inquiry.asked).map Request.id) ∧
      (∀ id, refused.exchange.answers.get? id =
        if id ∈ (p.inquiries.flatMap Inquiry.unasked).map Request.id then
          some ((s.exchange.answers.get? id).getD [])
        else s.exchange.answers.get? id) ∧
      (refused = s ↔ p.inquiries.flatMap Inquiry.asked = [] ∧
        ∀ q ∈ p.inquiries.flatMap Inquiry.unasked, (s.exchange.answers.get? q.id).isSome = true) ∧
      ((∀ q ∈ p.requests, s.exchange.answers.get? q.id = none) →
        (refused = s ↔ p.requests = [])) := by
  intro refused
  obtain ⟨hsends, hrequest, hanswers⟩ := s.exchange.ask_sends p
  have hsame : refused = s ↔ p.inquiries.flatMap Inquiry.asked = [] ∧
      ∀ q ∈ p.inquiries.flatMap Inquiry.unasked, (s.exchange.answers.get? q.id).isSome = true := by
    rw [← Exchange.ask_eq_self_iff]
    exact ⟨fun h => congrArg Session.exchange h, fun h => congrArg (s.withExchange []) h⟩
  refine ⟨rfl, rfl, rfl, hsends.now, fun id => ?_, ⟨_, hsends.underWay, hrequest⟩, fun id => ?_,
    hsame, fun hunanswered => ?_⟩
  · show ((s.exchange.ask p).2.received.filter _).map Prod.snd = _
    rw [Exchange.received_ask, List.filter_append, List.map_append]
    rfl
  · show (s.exchange.ask p).2.answers.get? id = _
    rw [hanswers, Exchange.get?_answerEmpty]
  · have hperm := Pass.perm_asked_unasked p.inquiries
    rw [hsame, Pass.requests]
    constructor
    · rintro ⟨hasked, hanswered⟩
      have hunasked : p.inquiries.flatMap Inquiry.unasked = [] := by
        refine List.eq_nil_iff_forall_not_mem.2 fun q hq => ?_
        have hnone := hunanswered q (hperm.mem_iff.1 (List.mem_append_right _ hq))
        exact absurd (hanswered q hq) (by rw [hnone]; exact Bool.false_ne_true)
      rw [hasked, hunasked] at hperm
      exact hperm.nil_eq.symm
    · intro hempty
      rw [hempty] at hperm
      obtain ⟨hasked, hunasked⟩ := List.append_eq_nil_iff.1 hperm.eq_nil
      rw [hunasked]
      exact ⟨hasked, fun q hq => absurd hq List.not_mem_nil⟩

/-- A pass about an editor without markers is refused on the UI thread, and all is as it was. -/
theorem resolve_refused_without_markers :
    let s := ((start (.ofString "/w") {} tokenLocator).openDocument Sample.uri "text").connect "x"
      ⟨some (.simple true)⟩ .echo
    ∃ p, (s.collect ⟨1⟩).1 = some p ∧ p.inquiries.length = 1 ∧
      (∀ q ∈ p.requests, s.exchange.answers.get? q.id = none) ∧
      (s.resolve true p).1 = .error .joinOnUiThread ∧ (s.resolve true p).2 = s := by
  intro s
  obtain ⟨p, made⟩ := Option.isSome_iff_exists.1 (show (s.collect ⟨1⟩).1.isSome = true by cbv)
  have hpass := made
  cbv at hpass
  obtain rfl := Option.some.inj hpass
  have hunanswered : ∀ q ∈ ([] : List Request), s.exchange.answers.get? q.id = none :=
    fun q hq => absurd hq List.not_mem_nil
  obtain ⟨hrefused, -, -, -, -, -, -, -, hsame⟩ := resolve_refused s _
  exact ⟨_, made, rfl, hunanswered, hrefused, (hsame hunanswered).2 rfl⟩

/-- A pass with questions for two servers, and for a third one that offers no code actions, is
refused on the UI thread. The two servers have received the questions, and the requests to the third
are answered. -/
theorem refused_pass_was_sent :
    ∃ p, (Sample.published.collect ⟨1⟩).1 = some p ∧
      let s := (Sample.published.collect ⟨1⟩).2
      let refused := (s.resolve true p).2
      let asked := [.about Sample.uri (Sample.diagnostic "one"),
        .about Sample.uri (Sample.diagnostic "two")]
      (s.resolve true p).1 = .error .joinOnUiThread ∧
        s.exchange.received = [] ∧ s.exchange.answers.get? ⟨1, 4⟩ = none ∧
        refused.exchange.receivedBy ⟨1⟩ = asked ∧ refused.exchange.receivedBy ⟨2⟩ = asked ∧
        refused.exchange.answers.get? ⟨1, 4⟩ = some [] := by
  obtain ⟨p, made⟩ := Option.isSome_iff_exists.1
    (show (Sample.published.collect ⟨1⟩).1.isSome = true by cbv)
  have hpass := made
  cbv at hpass
  obtain rfl := Option.some.inj hpass
  refine ⟨_, made, rfl, ?_, ?_, ?_, ?_, ?_⟩
  all_goals cbv

end Session

end AnnotationBridge
