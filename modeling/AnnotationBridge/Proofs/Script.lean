import AnnotationBridge.Proofs.Resolve
import AnnotationBridge.Script
import Mathlib.Algebra.GroupWithZero.Nat

/-!
# What a script says about a diagnostic

Each request of a pass is about one diagnostic, so a script decides each by itself: by the first
rule that matches the diagnostic, whatever else is asked.

* `Script.answer?`, `Script.dueMs`: what the script answers, and when.
* `Script.shows`, `Script.offers`: whether a pass keeps the diagnostic, and with which actions.
  `Script.offer_eq`: that is what the pass makes of the reply.
* `Exchange.behaves_of_reply`: clients that look at the question only.
* `Pass.fresh_inquiriesFrom`: the requests of a pass that is made first.
* `Script.resolve_eq`: what a pass finds that is put to a script.
-/

namespace AnnotationBridge

open Lsp

/-! ### Answers -/

namespace Script

variable {s : Script} {g : Diagnostic} {deadline : Nat}

/-- The first rule that matches a diagnostic. -/
def deciding? (s : Script) (g : Diagnostic) : Option Rule :=
  s.rules.find? (·.matchesDiagnostic g)

/-- The actions that a script answers about a diagnostic: none at all if the deciding rule hangs, no
actions if it fails or if there is no such rule. -/
def answer? (s : Script) (g : Diagnostic) : Option (List Action) :=
  match s.deciding? g with
  | none => some []
  | some r => if r.hang then none else some (if r.fail then [] else r.actions)

/-- The delay of the answer about a diagnostic: that of the script and that of the deciding rule. -/
def dueMs (s : Script) (g : Diagnostic) : Nat :=
  s.latencyMs.toNat + ((s.deciding? g).map fun r => r.latencyMs.toNat).getD 0

/-- Whether a diagnostic is kept by a pass with the given time: nobody is asked about it, or the
answer comes before the time is over. -/
def shows (s : Script) (timeoutMs : Nat) (g : Diagnostic) : Bool :=
  !s.codeActions || (s.answer? g).isSome && decide (s.dueMs g < timeoutMs)

/-- The actions that are offered for a diagnostic that is kept. -/
def offers (s : Script) (g : Diagnostic) : List Action :=
  if s.codeActions then (s.answer? g).getD [] else []

/-- About a single diagnostic its own rule decides. -/
theorem ruleFor_singleton (s : Script) (g : Diagnostic) : s.ruleFor [g] = s.deciding? g := by
  simp [ruleFor, deciding?]

/-- A request about a diagnostic whose delays fit into 64 bits ends as its rule says, after both. -/
theorem reply_eq (uri : Uri) (fits : s.dueMs g < 2 ^ 64) :
    s.reply (.about uri g) = ⟨s.dueMs g, outcome (s.deciding? g)⟩ := by
  have hrule : s.ruleFor (CodeActionParams.about uri g).diagnostics = s.deciding? g :=
    s.ruleFor_singleton g
  have hlatency : s.latency? (s.deciding? g) = some (s.dueMs g) := if_pos fits
  rw [reply_of_latency? (hrule ▸ hlatency), hrule]

/-- **What becomes of the question about a diagnostic.** -/
theorem reply_about (uri : Uri) (fits : s.dueMs g < 2 ^ 64) :
    (s.reply (.about uri g)).delayMs = s.dueMs g ∧
      (s.reply (.about uri g)).outcome.map Outcome.offer = s.answer? g := by
  rw [reply_eq uri fits]
  refine ⟨rfl, ?_⟩
  unfold answer? outcome
  cases s.deciding? g with
  | none => rfl
  | some r =>
    cases hhang : r.hang <;> cases hfail : r.fail <;>
      simp [Rule.outcome, hhang, hfail, Outcome.offer]

/-- What a reply offers by a deadline. -/
theorem offerBy_reply (uri : Uri) (fits : s.dueMs g < 2 ^ 64) :
    (s.reply (.about uri g)).offerBy deadline =
      if s.dueMs g < deadline then s.answer? g else none := by
  obtain ⟨hdelay, houtcome⟩ := reply_about uri fits
  rw [← houtcome, ← hdelay, Reply.offerBy]
  cases (s.reply (.about uri g)).outcome <;> simp

/-- What a script advertises. -/
theorem isSupported_capabilities (s : Script) :
    (CodeActionSupport.ofCapabilities s.capabilities).isSupported = s.codeActions := by
  unfold capabilities CodeActionSupport.ofCapabilities
  cases s.codeActions <;> rfl

/-- **What a pass keeps of a diagnostic**, and with which actions. -/
theorem offer_eq (uri : Uri) (fits : s.dueMs g < 2 ^ 64) :
    (if s.codeActions then (s.reply (.about uri g)).offerBy deadline else some []) =
      if s.shows deadline g then some (s.offers g) else none := by
  rw [offerBy_reply uri fits]
  unfold shows offers
  cases s.codeActions with
  | false => rfl
  | true => by_cases hdue : s.dueMs g < deadline <;> cases s.answer? g <;> simp [hdue]

end Script

/-! ### Clients that look at the question only -/

namespace Exchange

variable {x : Exchange} {p : Pass} {β : RequestId → Reply} {reply : CodeActionParams → Reply}

/-- What becomes of the requests for a connection is what its client replies. -/
theorem sendAll_reply (x : Exchange) (uri : Uri) (c : Connection) (rs : List Request)
    (hclient : ∀ n params, c.client.reply n params = reply params)
    (hβ : ∀ q ∈ rs, β q.id = reply (.about uri q.marker.diagnostic)) :
    ∀ s ∈ (x.sendAll uri c rs).1, s.ending =
      (β s.request).outcome.map fun outcome => ⟨x.now + (β s.request).delayMs, outcome⟩ := by
  induction rs generalizing x with
  | nil => exact fun s hs => absurd hs List.not_mem_nil
  | cons r rs ih =>
    obtain ⟨hfirst, hrest⟩ := List.forall_mem_cons.1 hβ
    intro s hs
    rcases List.mem_cons.1 hs with rfl | hs
    · show (c.client.reply _ _).outcome.map _ = _
      rw [hclient, ← hfirst]
    · exact ih (x.send uri c r).2 hrest s hs

/-- What becomes of all requests is what the clients reply. -/
theorem inquireAll_reply (x : Exchange) (uri : Uri) (is : List Inquiry)
    (hclient : ∀ i ∈ is, ∀ n params, i.connection.client.reply n params = reply params)
    (hβ : ∀ i ∈ is, ∀ q ∈ i.requests, β q.id = reply (.about uri q.marker.diagnostic)) :
    ∀ s ∈ (x.inquireAll uri is).1, s.ending =
      (β s.request).outcome.map fun outcome => ⟨x.now + (β s.request).delayMs, outcome⟩ := by
  induction is generalizing x with
  | nil => exact fun s hs => absurd hs List.not_mem_nil
  | cons i is ih =>
    obtain ⟨hthis, hothers⟩ := List.forall_mem_cons.1 hclient
    obtain ⟨hfirst, hrest⟩ := List.forall_mem_cons.1 hβ
    have hnow : (x.inquire uri i).2.now = x.now := by
      unfold inquire
      split
      · exact (sendAll_sends x uri i.connection i.requests).1.now
      · rfl
    intro s hs
    rw [inquireAll_cons] at hs
    rcases List.mem_append.1 hs with hs | hs
    · unfold inquire at hs
      split at hs
      · exact sendAll_reply x uri i.connection i.requests hthis hfirst s hs
      · cases hs
    · rw [← hnow]
      exact ih (x.inquire uri i).2 hothers hrest s hs

/-- **Clients that look at the question only** behave as their replies say. -/
theorem behaves_of_reply
    (hclient : ∀ i ∈ p.inquiries, ∀ n params, i.connection.client.reply n params = reply params)
    (hβ : ∀ q ∈ p.requests, β q.id = reply (.about p.document.uri q.marker.diagnostic)) :
    x.Behaves p β :=
  inquireAll_reply x p.document.uri p.inquiries hclient fun i hi q hq =>
    hβ q (List.mem_flatMap.2 ⟨i, hi, hq⟩)

end Exchange

/-! ### A pass that a script answers -/

/-- Each request of a pass can be given a reply of its own. -/
theorem Pass.exists_replies {p : Pass} (hnodup : (p.requests.map Request.id).Nodup)
    (reply : Request → Reply) : ∃ β : RequestId → Reply, ∀ q ∈ p.requests, β q.id = reply q := by
  refine ⟨fun id => ((p.requests.find? (·.id = id)).map reply).getD ⟨0, none⟩, fun q hq => ?_⟩
  obtain ⟨found, hfound⟩ : ∃ found, p.requests.find? (·.id = q.id) = some found :=
    Option.isSome_iff_exists.1 (List.find?_isSome.2 ⟨q, hq, decide_eq_true rfl⟩)
  have hid : found.id = q.id := by simpa using List.find?_some hfound
  have hsame := List.inj_on_of_nodup_map hnodup (List.mem_of_find?_eq_some hfound) hq hid
  dsimp only
  rw [hfound, hsame]
  rfl

/-- The requests of a pass are numbered in order. -/
theorem Pass.map_id_inquiriesFrom (pass start : Nat) (markersOf : Connection → List Marker)
    (connections : List Connection) :
    ∃ n, ((inquiriesFrom pass start markersOf connections).flatMap Inquiry.requests).map
      Request.id = (List.range' start n).map (RequestId.mk pass) := by
  induction connections generalizing start with
  | nil => exact ⟨0, rfl⟩
  | cons c cs ih =>
    obtain ⟨n, hn⟩ := ih (start + (markersOf c).length)
    refine ⟨(markersOf c).length + n, ?_⟩
    have hfirst : (requestsFrom pass start (markersOf c)).map Request.id =
        (List.range' start (markersOf c).length).map (RequestId.mk pass) := by
      rw [← List.zipIdx_map_snd, List.map_map, requestsFrom, List.map_map]
      rfl
    rw [inquiriesFrom, List.flatMap_cons, List.map_append, hfirst, length_requestsFrom, hn,
      ← List.map_append, List.range'_append_1]

/-- So they have different identifiers, and nobody has heard of them in an exchange in which nothing
was sent. -/
theorem Pass.fresh_inquiriesFrom (pass start : Nat) (editor : EditorId) (d : Document)
    (markersOf : Connection → List Marker) (connections : List Connection) :
    Exchange.empty.Fresh ⟨pass, editor, d, inquiriesFrom pass start markersOf connections⟩ := by
  obtain ⟨n, hn⟩ := map_id_inquiriesFrom pass start markersOf connections
  refine Exchange.fresh_empty ?_
  rw [requests, hn]
  exact List.Nodup.map (fun i j hij => (RequestId.mk.inj hij).2) List.nodup_range'

/-- What a list keeps of some elements, each in another form. -/
theorem filterMap_ite_eq_map_filter {α γ δ : Type} (key : α → γ) (keep : γ → Bool) (f : γ → δ)
    (as : List α) :
    (as.filterMap fun a => if keep (key a) then some (f (key a)) else none) =
      ((as.map key).filter keep).map f := by
  induction as with
  | nil => rfl
  | cons a as ih => cases hkeep : keep (key a) <;> simp [hkeep, ih]

/-- **What a pass finds that is put to a script**: the markers that the script has kept, in their
order, each with what the script offers. -/
theorem Script.resolve_eq {script : Script} {x : Exchange} {p : Pass} {deadline : Nat}
    (fresh : x.Fresh p)
    (scripted : ∀ i ∈ p.inquiries,
      i.connection.capabilities = script.capabilities ∧ i.connection.client = script.client)
    (fits : ∀ q ∈ p.requests, script.dueMs q.marker.diagnostic < 2 ^ 64)
    (off : ∀ q ∈ p.requests, (script.answer? q.marker.diagnostic).isSome = true →
      script.dueMs q.marker.diagnostic ≠ deadline) :
    ∃ r, (x.resolve false deadline p).1 = .ok r ∧ r.pass = p.number ∧ r.editor = p.editor ∧
      r.findings = p.inquiries.map fun i => ⟨i.connection,
        ((i.requests.map Request.marker).filter fun m => script.shows deadline m.diagnostic).map
          fun m => ⟨m, script.offers m.diagnostic⟩⟩ := by
  obtain ⟨β, hβ⟩ := Pass.exists_replies fresh.nodup fun q =>
    script.reply (.about p.document.uri q.marker.diagnostic)
  have hclient : ∀ i ∈ p.inquiries, ∀ n params,
      i.connection.client.reply n params = script.reply params := by
    intro i hi n params
    rw [(scripted i hi).2]
    rfl
  have noneAt : Exchange.NoneAt deadline p β := by
    intro i hi _ q hqi hended
    have hq : q ∈ p.requests := List.mem_flatMap.2 ⟨i, hi, hqi⟩
    obtain ⟨hdelay, houtcome⟩ := script.reply_about p.document.uri (fits q hq)
    rw [hβ q hq, ← Option.isSome_map, houtcome] at hended
    rw [hβ q hq, hdelay]
    exact off q hq hended
  refine ⟨_, fresh.resolve_eq (Exchange.behaves_of_reply hclient hβ) noneAt, rfl, rfl, ?_⟩
  refine List.map_congr_left fun i hi => ?_
  congr 1
  rw [← filterMap_ite_eq_map_filter]
  refine List.filterMap_congr fun q hqi => ?_
  have hq : q ∈ p.requests := List.mem_flatMap.2 ⟨i, hi, hqi⟩
  have hsupport : i.connection.support.isSupported = script.codeActions := by
    rw [Connection.support, (scripted i hi).1, script.isSupported_capabilities]
  rw [Inquiry.item?, hβ q hq, hsupport, script.offer_eq p.document.uri (fits q hq)]
  cases script.shows deadline q.marker.diagnostic <;> rfl

end AnnotationBridge
