import AnnotationBridge.Exchange

/-!
# Requests and their answers

Answers are written once, by whatever comes first. Asking puts requests under way and answers the
requests to servers that offer no code actions.

* `Answers.Keeps`: later answers keep the earlier ones. `Exchange.keeps_join`: waiting does.
* `Exchange.Sends`, `Exchange.ask_sends`: what asking does.
* `Exchange.get?_foldl_receive`, `Exchange.get?_answerEmpty`: where answers come from.
-/

namespace AnnotationBridge

open Lsp

/-! ### Answers are written once -/

namespace Answers

/-- All answers of the first are answers of the second. -/
def Keeps (a b : Answers) : Prop :=
  ∀ id actions, a.get? id = some actions → b.get? id = some actions

/-- Answers keep themselves. -/
theorem Keeps.refl (a : Answers) : a.Keeps a :=
  fun _ _ h => h

/-- What is kept twice is kept. -/
theorem Keeps.trans {a b c : Answers} (h : a.Keeps b) (h' : b.Keeps c) : a.Keeps c :=
  fun id actions hget => h' id actions (h id actions hget)

end Answers

namespace Sent

/-- What a request brings for an identifier, if it is the one with that identifier. -/
def actionsFor? (id : RequestId) (s : Sent) : Option (List Action) :=
  if s.request = id then s.actions? else none

/-- A request ends by a time if it ends at all, and not later. -/
theorem endsBy_iff {s : Sent} {time : Nat} :
    s.endsBy time = true ↔ ∃ e, s.ending = some e ∧ e.time ≤ time := by
  unfold endsBy endTime?
  cases s.ending <;> simp

/-- A request that ends by a time ends by any later time. -/
theorem endsBy_of_le {s : Sent} {earlier later : Nat} (hle : earlier ≤ later)
    (h : s.endsBy earlier = true) : s.endsBy later = true := by
  obtain ⟨e, he, htime⟩ := endsBy_iff.1 h
  exact endsBy_iff.2 ⟨e, he, Nat.le_trans htime hle⟩

end Sent

namespace Exchange

variable {x y : Exchange} {batch : List Sent} {s : Sent} {id : RequestId}

/-- What was received, as seen from an identifier. -/
theorem get?_receive (answers : Answers) (s : Sent) (id : RequestId) :
    (receive answers s).get? id = (answers.get? id).or (s.actionsFor? id) := by
  unfold receive Sent.actionsFor?
  cases hs : s.actions? with
  | none => simp
  | some actions =>
    show (answers.record s.request actions).get? id = _
    rw [Answers.get?_record]
    by_cases hid : id = s.request
    · rw [if_pos hid, if_pos hid.symm, ← hid]
      cases answers.get? id <;> rfl
    · rw [if_neg hid, if_neg fun h => hid h.symm, Option.or_none]

/-- The first answer counts. -/
theorem get?_foldl_receive (ended : List Sent) (answers : Answers) (id : RequestId) :
    (ended.foldl receive answers).get? id =
      (answers.get? id).or (ended.findSome? (·.actionsFor? id)) := by
  induction ended generalizing answers with
  | nil => simp
  | cons s rest ih =>
    rw [List.foldl_cons, ih, get?_receive, Option.or_assoc, List.findSome?_cons]
    cases s.actionsFor? id <;> rfl

/-- Requests that have nothing to do with an identifier bring nothing for it. -/
theorem findSome?_actionsFor?_of_ne {ended : List Sent} (h : ∀ s ∈ ended, s.request ≠ id) :
    ended.findSome? (·.actionsFor? id) = none :=
  List.findSome?_eq_none_iff.2 fun s hs => if_neg (h s hs)

/-- If only one request is about its identifier, that request's actions count. -/
theorem findSome?_actionsFor?_of_mem {ended : List Sent} (hs : s ∈ ended)
    (only : ∀ u ∈ ended, u.request = s.request → u = s) :
    ended.findSome? (·.actionsFor? s.request) = s.actions? := by
  cases hfound : ended.findSome? (·.actionsFor? s.request) with
  | none =>
    have := List.findSome?_eq_none_iff.1 hfound s hs
    rw [Sent.actionsFor?, if_pos rfl] at this
    exact this.symm
  | some actions =>
    obtain ⟨u, hu, hact⟩ := List.exists_of_findSome?_eq_some hfound
    by_cases hreq : u.request = s.request
    · obtain rfl := only u hu hreq
      rw [Sent.actionsFor?, if_pos rfl] at hact
      exact hact.symm
    · rw [Sent.actionsFor?, if_neg hreq] at hact
      cases hact

/-- Which identifiers have an answer after some were answered with nothing. -/
theorem get?_answerEmpty (x : Exchange) (ids : List RequestId) (id : RequestId) :
    (x.answerEmpty ids).answers.get? id =
      if id ∈ ids then some ((x.answers.get? id).getD []) else x.answers.get? id := by
  unfold answerEmpty
  show (ids.foldl (fun answers id => answers.record id []) x.answers).get? id = _
  generalize x.answers = answers
  induction ids generalizing answers with
  | nil => simp
  | cons first rest ih =>
    rw [List.foldl_cons, ih, Answers.get?_record]
    by_cases hfirst : id = first
    · by_cases hrest : id ∈ rest <;> simp [hfirst]
    · simp [hfirst]

/-! ### What waiting keeps -/

/-- Answering requests with nothing keeps the answers that there are. -/
theorem keeps_answerEmpty (x : Exchange) (ids : List RequestId) :
    x.answers.Keeps (x.answerEmpty ids).answers := by
  intro id actions hget
  rw [get?_answerEmpty, hget]
  split <;> rfl

/-- So do answers that arrive. -/
theorem keeps_deliver (x : Exchange) (time : Nat) : x.answers.Keeps (x.deliver time).answers := by
  intro id actions hget
  show (List.foldl receive x.answers _).get? id = _
  rw [get?_foldl_receive, hget]
  rfl

/-- The end of a wait changes nothing but answers. -/
theorem snd_finish (x : Exchange) (batch noticed : List Sent) :
    (x.finish batch noticed).2 =
      x.answerEmpty ((noticed.filter (·.actions?.isNone)).map Sent.request) := by
  unfold finish
  dsimp only
  split <;> rfl

/-- So does noting which requests have ended. -/
theorem keeps_finish (x : Exchange) (batch noticed : List Sent) :
    x.answers.Keeps (x.finish batch noticed).2.answers := by
  rw [snd_finish]
  exact keeps_answerEmpty _ _

/-- So does the end of waits. -/
theorem keeps_settleAll (x : Exchange) (ws : List Waiting) :
    x.answers.Keeps (x.settleAll ws).2.answers := by
  induction ws generalizing x with
  | nil => exact .refl _
  | cons w ws ih =>
    have hsettle : x.answers.Keeps (x.settle w).2.answers :=
      (keeps_deliver x w.ends).trans (keeps_finish _ _ _)
    exact hsettle.trans (ih _)

/-- So does the passing of time. -/
theorem keeps_advanceTo (x : Exchange) (time : Nat) :
    x.answers.Keeps (x.advanceTo time).2.answers :=
  (keeps_settleAll { x with waiting := x.waiting.filter (time < ·.ends) } _).trans
    (keeps_deliver _ _)

/-- **Waiting takes no answer back.** -/
theorem keeps_join (x : Exchange) (deadline : Nat) (batch : List Sent) :
    x.answers.Keeps (x.join deadline batch).2.2.answers := by
  unfold join
  cases x.waitEnd? deadline batch with
  | none =>
    dsimp only
    unfold endAtOnce
    split
    · exact keeps_finish _ _ _
    · exact keeps_finish _ _ _
  | some time => exact (keeps_advanceTo x time).trans (keeps_finish _ _ _)

/-! ### Asking -/

/-- An exchange after a batch was sent: the requests are under way, numbered on from those
before. -/
structure Sends (x : Exchange) (batch : List Sent) (y : Exchange) : Prop where
  now : y.now = x.now
  waiting : y.waiting = x.waiting
  underWay : y.underWay = x.underWay ++ batch
  received : y.received.length = x.received.length + batch.length
  numbers : batch.map Sent.number = List.range' x.received.length batch.length

/-- Sending no requests may answer some with nothing. -/
theorem Sends.nil (x : Exchange) (ids : List RequestId) : x.Sends [] (x.answerEmpty ids) :=
  ⟨rfl, rfl, (List.append_nil _).symm, rfl, rfl⟩

/-- Sending some and then others sends all of them. -/
theorem Sends.append {z : Exchange} {later : List Sent} (h : x.Sends batch y)
    (h' : y.Sends later z) : x.Sends (batch ++ later) z where
  now := h'.now.trans h.now
  waiting := h'.waiting.trans h.waiting
  underWay := by rw [h'.underWay, h.underWay, List.append_assoc]
  received := by rw [h'.received, h.received, List.length_append, Nat.add_assoc]
  numbers := by
    rw [List.map_append, h.numbers, h'.numbers, h.received, List.length_append,
      List.range'_append_1]

/-- A request that is sent is under way. -/
theorem send_sends (x : Exchange) (uri : Uri) (c : Connection) (r : Request) :
    x.Sends [(x.send uri c r).1] (x.send uri c r).2 :=
  ⟨rfl, rfl, rfl, List.length_append, rfl⟩

/-- Sending requests to one client puts them all under way, and answers nothing. -/
theorem sendAll_sends (x : Exchange) (uri : Uri) (c : Connection) (rs : List Request) :
    x.Sends (x.sendAll uri c rs).1 (x.sendAll uri c rs).2 ∧
      (x.sendAll uri c rs).1.map Sent.request = rs.map Request.id ∧
      (x.sendAll uri c rs).2.answers = x.answers := by
  induction rs generalizing x with
  | nil => exact ⟨.nil x [], rfl, rfl⟩
  | cons r rs ih =>
    obtain ⟨hsends, hrequest, hanswers⟩ := ih (x.send uri c r).2
    exact ⟨(send_sends x uri c r).append hsends, congrArg (r.id :: ·) hrequest, hanswers⟩

end Exchange

/-- The requests that an inquiry puts to its server. -/
def Inquiry.asked (i : Inquiry) : List Request :=
  if i.connection.support.isSupported then i.requests else []

/-- The requests that an inquiry does not put to its server, because it offers no code actions. -/
def Inquiry.unasked (i : Inquiry) : List Request :=
  if i.connection.support.isSupported then [] else i.requests

namespace Exchange

variable {x y : Exchange} {batch : List Sent} {s : Sent} {id : RequestId}

/-- The first inquiry is put before the others. -/
theorem inquireAll_cons (x : Exchange) (uri : Uri) (i : Inquiry) (is : List Inquiry) :
    x.inquireAll uri (i :: is) =
      ((x.inquire uri i).1 ++ ((x.inquire uri i).2.inquireAll uri is).1,
        ((x.inquire uri i).2.inquireAll uri is).2) :=
  rfl

/-- Inquiries send the requests to those that offer code actions, and answer the others with
nothing. -/
theorem inquireAll_sends (x : Exchange) (uri : Uri) (is : List Inquiry) :
    x.Sends (x.inquireAll uri is).1 (x.inquireAll uri is).2 ∧
      (x.inquireAll uri is).1.map Sent.request = (is.flatMap Inquiry.asked).map Request.id ∧
      (x.inquireAll uri is).2.answers =
        (x.answerEmpty ((is.flatMap Inquiry.unasked).map Request.id)).answers := by
  induction is generalizing x with
  | nil => exact ⟨.nil x [], rfl, rfl⟩
  | cons i is ih =>
    have hfirst : x.Sends (x.inquire uri i).1 (x.inquire uri i).2 ∧
        (x.inquire uri i).1.map Sent.request = i.asked.map Request.id ∧
        (x.inquire uri i).2.answers = (x.answerEmpty (i.unasked.map Request.id)).answers := by
      unfold inquire Inquiry.asked Inquiry.unasked
      by_cases hsupport : i.connection.support.isSupported = true
      · rw [if_pos hsupport, if_pos hsupport, if_pos hsupport]
        exact sendAll_sends x uri i.connection i.requests
      · rw [if_neg hsupport, if_neg hsupport, if_neg hsupport]
        exact ⟨.nil x _, rfl, rfl⟩
    obtain ⟨hsends, hrequest, hanswers⟩ := ih (x.inquire uri i).2
    rw [inquireAll_cons]
    refine ⟨hfirst.1.append hsends, ?_, ?_⟩
    · rw [List.map_append, List.flatMap_cons, List.map_append, hfirst.2.1, hrequest]
    · rw [hanswers, List.flatMap_cons, List.map_append]
      unfold answerEmpty at hfirst ⊢
      dsimp only at hfirst ⊢
      rw [hfirst.2.2, List.foldl_append]

/-- **Asking puts the requests to servers that offer code actions under way, and answers the others
with nothing.** -/
theorem ask_sends (x : Exchange) (p : Pass) :
    x.Sends (x.ask p).1 (x.ask p).2 ∧
      (x.ask p).1.map Sent.request = (p.inquiries.flatMap Inquiry.asked).map Request.id ∧
      (x.ask p).2.answers =
        (x.answerEmpty ((p.inquiries.flatMap Inquiry.unasked).map Request.id)).answers :=
  inquireAll_sends x p.document.uri p.inquiries

end Exchange

end AnnotationBridge
