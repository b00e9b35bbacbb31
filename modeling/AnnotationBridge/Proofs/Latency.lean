import AnnotationBridge.Exchange
import AnnotationBridge.Script

/-!
# The delay of a scripted answer

The delay of a script and that of the rule that decides are added in 64 bits, and the sum is
checked. So a request ends after both of them exactly if their sum fits into 64 bits. If it does
not, its task is lost as soon as it is received, and nothing is ever answered. Nothing keeps such
delays out of a script.

* `Script.askedMs`: the delay that is asked for. `Script.latency?_eq_some_iff`: when it is kept to.
* `Script.reply_of_fits`, `Script.reply_of_overflow`: what becomes of a request.
* `Script.exists_ofJson?`: any two delays can be read.
* `Script.delay_exact_iff`: when a request ends.
* `Script.delays_overflow`: a script that is read and loses a request.
-/

namespace AnnotationBridge

open Lsp

namespace Script

variable {s : Script} {rule : Option Rule} {params : CodeActionParams}

/-- The delay that a script and a rule ask for, however long. -/
def askedMs (s : Script) (rule : Option Rule) : Nat :=
  s.latencyMs.toNat + (rule.map fun r => r.latencyMs.toNat).getD 0

/-- The delay that is kept to is the one that is asked for, if that fits into 64 bits. -/
theorem latency?_eq_some_iff {delay : Nat} :
    s.latency? rule = some delay ↔ s.askedMs rule < UInt64.size ∧ delay = s.askedMs rule :=
  Option.ite_none_right_eq_some.trans (and_congr_right' (Option.some_inj.trans eq_comm))

/-- Else there is none. -/
theorem latency?_eq_none_iff : s.latency? rule = none ↔ UInt64.size ≤ s.askedMs rule :=
  ite_eq_right_iff.trans ((imp_congr_right fun _ => iff_false_intro (Option.some_ne_none _)).trans
    Nat.not_lt)

/-- A request whose delay fits ends after it, as the rule says that decides. -/
theorem reply_of_fits (h : s.askedMs (s.ruleFor params.diagnostics) < UInt64.size) :
    s.reply params =
      ⟨s.askedMs (s.ruleFor params.diagnostics), outcome (s.ruleFor params.diagnostics)⟩ :=
  reply_of_latency? (latency?_eq_some_iff.2 ⟨h, rfl⟩)

/-- The task of any other request is lost at once. -/
theorem reply_of_overflow (h : UInt64.size ≤ s.askedMs (s.ruleFor params.diagnostics)) :
    s.reply params = ⟨0, some .crash⟩ :=
  reply_of_latency?_eq_none (latency?_eq_none_iff.2 h)

/-- A delay does not fit only if a rule decides and neither of the two delays is zero. -/
theorem pos_of_overflow (h : UInt64.size ≤ s.askedMs rule) :
    ∃ r, rule = some r ∧ 0 < s.latencyMs.toNat ∧ 0 < r.latencyMs.toNat := by
  have hscript := s.latencyMs.toNat_lt_size
  cases rule with
  | none => exact absurd h (Nat.not_le.2 hscript)
  | some r =>
    have hrule := r.latencyMs.toNat_lt_size
    have hsum : s.askedMs (some r) = s.latencyMs.toNat + r.latencyMs.toNat := rfl
    refine ⟨r, rfl, ?_, ?_⟩ <;> omega

/-- The end of a request that is sent to a server with a script. -/
theorem ending_send {x : Exchange} {uri : Uri} {c : Connection} {q : Request}
    (hclient : c.client = s.client) :
    (x.send uri c q).1.ending = (s.reply (.about uri q.marker.diagnostic)).outcome.map
      fun outcome => ⟨x.now + (s.reply (.about uri q.marker.diagnostic)).delayMs, outcome⟩ := by
  have hreply : c.client.reply (x.receivedBy c.id).length (.about uri q.marker.diagnostic) =
      s.reply (.about uri q.marker.diagnostic) := by
    rw [hclient]
    rfl
  rw [← hreply]
  rfl

/-- **Any two delays of 64 bits can be read from a script.** -/
theorem exists_ofJson? (a b : UInt64) (text : String) :
    ∃ j, ofJson? j = some { latencyMs := a, rules := [{ message := some text, latencyMs := b }] } := by
  have hread : ∀ n : UInt64, Json.uint64? (.nat n.toNat) = some n := by
    intro n
    have hlt : n.toNat < UInt64.size := n.toNat_lt
    simp [Json.uint64?, Json.natBelow?, Json.nat, hlt]
  let rule : Json := .object [("latency_ms", .nat b.toNat), ("message", .string text)]
  have hrule : Rule.ofJson? rule = some { message := some text, latencyMs := b } := by
    show (Json.uint64? (.nat b.toNat)).bind (fun n => some (Rule.mk _ _ _ _ _ n)) = _
    rw [hread]
    rfl
  refine ⟨.object [("latency_ms", .nat a.toNat), ("rules", .array [rule])], ?_⟩
  show (Json.uint64? (.nat a.toNat)).bind (fun n => (List.mapM Rule.ofJson? [rule]).bind
    fun rules => some (Script.mk _ n rules)) = _
  rw [hread, List.mapM_cons, hrule]
  rfl

/-- **When a request ends.** It ends after the delays of the script and of the rule that decides
exactly if their sum fits into 64 bits, and then as the rule says and not before either delay is
over. If the sum does not fit, the task of the request is lost at once, though neither delay is
zero. The same holds of a request that is sent to a server with this script, which has no answer
then. Each request is counted. A script can ask for any two delays. -/
theorem delay_exact_iff (s : Script) :
    (∀ params : CodeActionParams,
      ((s.reply params).delayMs = s.askedMs (s.ruleFor params.diagnostics) ↔
        s.askedMs (s.ruleFor params.diagnostics) < UInt64.size) ∧
      (s.askedMs (s.ruleFor params.diagnostics) < UInt64.size →
        (s.reply params).outcome = outcome (s.ruleFor params.diagnostics) ∧
        s.latencyMs.toNat ≤ (s.reply params).delayMs ∧
        ∀ r, s.ruleFor params.diagnostics = some r → r.latencyMs.toNat ≤ (s.reply params).delayMs) ∧
      (UInt64.size ≤ s.askedMs (s.ruleFor params.diagnostics) →
        s.reply params = ⟨0, some .crash⟩ ∧ ∃ r, s.ruleFor params.diagnostics = some r ∧
          0 < s.latencyMs.toNat ∧ 0 < r.latencyMs.toNat) ∧
      ∀ count, ((RecordedServer.mk s count).receive params).2.requests = count + 1) ∧
    (∀ (x : Exchange) (uri : Uri) (c : Connection) (q : Request), c.client = s.client →
      (s.askedMs (s.ruleFor [q.marker.diagnostic]) < UInt64.size →
        (x.send uri c q).1.ending = (outcome (s.ruleFor [q.marker.diagnostic])).map
          fun outcome => ⟨x.now + s.askedMs (s.ruleFor [q.marker.diagnostic]), outcome⟩) ∧
      (UInt64.size ≤ s.askedMs (s.ruleFor [q.marker.diagnostic]) →
        (x.send uri c q).1.ending = some ⟨x.now, .crash⟩ ∧ (x.send uri c q).1.actions? = none)) ∧
    ∀ (a b : UInt64) (text : String), ∃ j,
      ofJson? j = some { latencyMs := a, rules := [{ message := some text, latencyMs := b }] } := by
  refine ⟨fun params => ⟨⟨fun hdelay => ?_, fun fits => ?_⟩, fun fits => ?_, fun overflow => ?_,
    fun _ => rfl⟩, fun x uri c q hclient => ⟨fun fits => ?_, fun overflow => ?_⟩, exists_ofJson?⟩
  · refine Nat.lt_of_not_le fun overflow => ?_
    rw [reply_of_overflow overflow] at hdelay
    exact absurd (hdelay ▸ overflow) (by decide)
  · rw [reply_of_fits fits]
  · rw [reply_of_fits fits]
    refine ⟨rfl, Nat.le_add_right _ _, fun r hrule => ?_⟩
    rw [hrule]
    exact Nat.le_add_left _ _
  · exact ⟨reply_of_overflow overflow, pos_of_overflow overflow⟩
  · rw [ending_send hclient, reply_of_fits fits]
    rfl
  · have hending : (x.send uri c q).1.ending = some ⟨x.now, .crash⟩ := by
      rw [ending_send hclient, reply_of_overflow overflow]
      rfl
    refine ⟨hending, ?_⟩
    rw [Sent.actions?, hending]
    rfl

namespace Sample

/-- A diagnostic. -/
def diagnosis : Diagnostic :=
  { range := ⟨⟨0, 0⟩, ⟨0, 1⟩⟩, message := "m" }

/-- A script that matches it, with two delays. -/
def delayed (a b : UInt64) : Script :=
  { latencyMs := a, rules := [{ message := some "m", latencyMs := b }] }

/-- A server with such a script. -/
def connection (a b : UInt64) : Connection :=
  ⟨⟨1⟩, "lsp4mp", (delayed a b).capabilities, (delayed a b).client⟩

/-- A request about the diagnostic. -/
def request : Request :=
  ⟨⟨1, 0⟩, ⟨⟨1⟩, "lsp4mp", 1, diagnosis, ⟨0, 1⟩, "m"⟩⟩

/-- A text of a script whose two delays make up `2 ^ 64` milliseconds. -/
def longDelays : String :=
  "\x7b\"latency_ms\":18446744073709551615,\"rules\":[\x7b\"message\":\"m\",\"latency_ms\":1\x7d]\x7d"

end Sample

/-- Two short delays are added, also by a server that is asked; with a long one, the request is
lost. -/
theorem delay_exact_iff_short_and_long :
    (Exchange.empty.send Uri.empty (Sample.connection 5 3) Sample.request).1.ending =
        some ⟨0 + 8, .answer (some [])⟩ ∧
      5 ≤ ((Sample.delayed 5 3).reply (.about Uri.empty Sample.diagnosis)).delayMs ∧
      (Sample.delayed 18446744073709551615 60001).reply (.about Uri.empty Sample.diagnosis) =
        ⟨0, some .crash⟩ := by
  obtain ⟨short, sent, -⟩ := delay_exact_iff (Sample.delayed 5 3)
  obtain ⟨long, -⟩ := delay_exact_iff (Sample.delayed 18446744073709551615 60001)
  refine ⟨?_, ?_, ?_⟩
  · exact (sent .empty Uri.empty (Sample.connection 5 3) Sample.request rfl).1 (by decide)
  · exact ((short (.about Uri.empty Sample.diagnosis)).2.1 (by decide)).2.1
  · exact ((long (.about Uri.empty Sample.diagnosis)).2.2.1 (by decide)).1

/-- A script with long delays is read, and its request is lost at once. -/
theorem delays_overflow :
    (ofText? Sample.longDelays).map (fun s => (s.latencyMs.toNat,
        (s.ruleFor [Sample.diagnosis]).map fun r => r.latencyMs.toNat,
        (s.reply (.about Uri.empty Sample.diagnosis)).delayMs,
        (s.reply (.about Uri.empty Sample.diagnosis)).outcome.map fun outcome =>
          outcome.actions?.isSome)) =
      some (18446744073709551615, some 1, 0, some false) := by
  decide +kernel

end Script

end AnnotationBridge
