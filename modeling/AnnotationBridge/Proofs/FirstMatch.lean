import AnnotationBridge.Script
import Mathlib.Algebra.GroupWithZero.Nat

/-!
# The rule that decides a request

A script takes the diagnostics of a request in order, and for each of them its rules in order: the
first rule that matches decides, and nothing else of the script or of the request counts. A rule
that is put behind the others can still decide a request that one of them matches, if it matches an
earlier diagnostic.

* `Rule.Matches`: when a rule matches a diagnostic. `Rule.matchesDiagnostic_iff`: that is how
  scripts look for rules.
* `Script.Decides`, `Script.Ignores`: which rule decides a request, and when none does.
  `Script.ruleFor_eq_some_iff`, `Script.ruleFor_eq_none_iff`: that is the rule that is found.
* `Script.Decides.append`, `Script.Decides.append_of_earlier`: rules that are put behind the others.
* `Script.ruleFor_congr`: rules that match nothing in a request do not count.
* `RecordedServer.receiveAll_eq`: each request is counted and is answered by itself.
* `Script.answers_spec`: all of this about a request. `Script.appended_rule_decides`: a rule that is
  put behind the one that decides, and then decides itself.
-/

namespace AnnotationBridge

open Lsp

/-! ### Matching -/

/-- A text occurs in another one if that consists of it and of something before and after it. -/
theorem occursIn_iff {needle text : List Char} : occursIn needle text = true ↔ needle <:+: text := by
  induction text with
  | nil => rw [occursIn, List.isEmpty_iff, List.infix_nil]
  | cons c cs ih => rw [occursIn, Bool.or_eq_true, List.isPrefixOf_iff_prefix, ih, List.infix_cons_iff]

namespace Rule

variable {r : Rule} {g : Diagnostic}

/-- When a rule matches a diagnostic. -/
inductive Matches (r : Rule) (g : Diagnostic) : Prop where
  /-- Its code is the code of the diagnostic. -/
  | code (code : String) (expected : r.code = some code) (given : g.code = some (.text code))
  /-- Its code is the decimal form of the number that is the code of the diagnostic. -/
  | number (n : Int32) (expected : r.code = some (toString n.toInt))
    (given : g.code = some (.number n))
  /-- Its text occurs in the message of the diagnostic. -/
  | message (before text after : String) (expected : r.message = some text)
    (given : g.message = before ++ text ++ after)

/-- A code matches the same text, or a number with that decimal form. -/
theorem matchesCode_iff : r.matchesCode g = true ↔
    (∃ code, r.code = some code ∧ g.code = some (.text code)) ∨
      ∃ n : Int32, r.code = some (toString n.toInt) ∧ g.code = some (.number n) := by
  unfold matchesCode
  cases r.code with
  | none => simp
  | some expected =>
    cases g.code with
    | none => simp
    | some code =>
      cases code with
      | number n => simp [DiagnosticCode.shown]
      | text code =>
        simpa [DiagnosticCode.shown] using eq_comm

/-- A text matches the messages in which it occurs. -/
theorem matchesMessage_iff : r.matchesMessage g = true ↔
    ∃ before text after, r.message = some text ∧ g.message = before ++ text ++ after := by
  unfold matchesMessage
  cases r.message with
  | none => simp
  | some expected =>
    rw [Option.map_some, Option.getD_some, occursIn_iff]
    constructor
    · rintro ⟨before, after, h⟩
      refine ⟨.ofList before, expected, .ofList after, rfl, ?_⟩
      rw [← String.toList_inj]
      simpa using h.symm
    · rintro ⟨before, text, after, hexpected, h⟩
      obtain rfl := Option.some.inj hexpected
      refine ⟨before.toList, after.toList, ?_⟩
      rw [h, String.toList_append, String.toList_append]

/-- **Scripts look for rules that match.** -/
theorem matchesDiagnostic_iff : r.matchesDiagnostic g = true ↔ r.Matches g := by
  rw [matchesDiagnostic, Bool.or_eq_true, matchesCode_iff, matchesMessage_iff]
  constructor
  · rintro ((⟨code, hr, hg⟩ | ⟨n, hr, hg⟩) | ⟨before, text, after, hr, hg⟩)
    · exact .code code hr hg
    · exact .number n hr hg
    · exact .message before text after hr hg
  · rintro (⟨code, hr, hg⟩ | ⟨n, hr, hg⟩ | ⟨before, text, after, hr, hg⟩)
    · exact .inl (.inl ⟨code, hr, hg⟩)
    · exact .inl (.inr ⟨n, hr, hg⟩)
    · exact .inr ⟨before, text, after, hr, hg⟩

/-- It can be decided whether a rule matches a diagnostic. -/
instance (r : Rule) (g : Diagnostic) : Decidable (r.Matches g) :=
  decidable_of_iff _ matchesDiagnostic_iff

end Rule

namespace Script

variable {s : Script} {r : Rule} {g : Diagnostic} {before after gs : List Diagnostic}

/-! ### Deciding -/

/-- No rule of the script matches any of the diagnostics. -/
def Ignores (s : Script) (gs : List Diagnostic) : Prop :=
  ∀ g ∈ gs, ∀ r ∈ s.rules, ¬ r.Matches g

/-- It can be decided whether no rule of a script matches any of some diagnostics. -/
instance (s : Script) (gs : List Diagnostic) : Decidable (s.Ignores gs) :=
  inferInstanceAs (Decidable (∀ g ∈ gs, ∀ r ∈ s.rules, ¬ r.Matches g))

/-- The rule `r` decides a request in which the diagnostic `g` comes after the diagnostics `before`,
whatever comes after it. -/
structure Decides (s : Script) (before : List Diagnostic) (g : Diagnostic) (r : Rule) : Prop where
  /-- Nothing before the diagnostic is matched. -/
  ignored : s.Ignores before
  /-- The rule matches the diagnostic. -/
  matched : r.Matches g
  /-- No rule of the script before it does. -/
  first : ∃ earlier later, s.rules = earlier ++ r :: later ∧ ∀ r' ∈ earlier, ¬ r'.Matches g

/-- No rule is found for a diagnostic exactly if none matches. -/
theorem find?_eq_none_iff :
    s.rules.find? (·.matchesDiagnostic g) = none ↔ ∀ r ∈ s.rules, ¬ r.Matches g := by
  simp only [List.find?_eq_none, Rule.matchesDiagnostic_iff]

/-- The rule that is found matches, and none before it does. -/
theorem find?_eq_some_iff : s.rules.find? (·.matchesDiagnostic g) = some r ↔
    r.Matches g ∧ ∃ earlier later, s.rules = earlier ++ r :: later ∧
      ∀ r' ∈ earlier, ¬ r'.Matches g := by
  simp only [List.find?_eq_some_iff_append, Rule.matchesDiagnostic_iff, Bool.not_eq_true',
    ← Bool.not_eq_true]

/-- No rule is found for a request exactly if none matches. -/
theorem ruleFor_eq_none_iff : s.ruleFor gs = none ↔ s.Ignores gs := by
  unfold ruleFor Ignores
  simp only [List.findSome?_eq_none_iff, find?_eq_none_iff]

/-- **The rule that is found for a request is the one that decides it.** -/
theorem ruleFor_eq_some_iff : s.ruleFor gs = some r ↔
    ∃ before g after, gs = before ++ g :: after ∧ s.Decides before g r := by
  unfold ruleFor
  simp only [List.findSome?_eq_some_iff, find?_eq_some_iff, find?_eq_none_iff]
  constructor
  · rintro ⟨before, g, after, hgs, ⟨matched, first⟩, ignored⟩
    exact ⟨before, g, after, hgs, ignored, matched, first⟩
  · rintro ⟨before, g, after, hgs, h⟩
    exact ⟨before, g, after, hgs, ⟨h.matched, h.first⟩, h.ignored⟩

/-- The rule that decides is the one that is found. -/
theorem Decides.ruleFor_eq (h : s.Decides before g r) (after : List Diagnostic) :
    s.ruleFor (before ++ g :: after) = some r :=
  ruleFor_eq_some_iff.2 ⟨before, g, after, rfl, h⟩

/-- The rule that decides is one of the script. -/
theorem Decides.mem (h : s.Decides before g r) : r ∈ s.rules := by
  obtain ⟨earlier, later, hrules, -⟩ := h.first
  rw [hrules]
  exact List.mem_append_right earlier List.mem_cons_self

/-! ### Rules that are added or left out -/

/-- The script with more rules behind its own. -/
def append (s : Script) (more : List Rule) : Script :=
  { s with rules := s.rules ++ more }

/-- Rules that are put behind the one that decides leave the decision to it if they match nothing
before the diagnostic that decides. -/
theorem Decides.append {more : List Rule} (h : s.Decides before g r)
    (hmore : ∀ g' ∈ before, ∀ r' ∈ more, ¬ r'.Matches g') : (s.append more).Decides before g r := by
  obtain ⟨earlier, later, hrules, hfirst⟩ := h.first
  refine ⟨fun g' hg' r' hr' => ?_, h.matched, earlier, later ++ more, ?_, hfirst⟩
  · rcases List.mem_append.1 hr' with hr' | hr'
    · exact h.ignored g' hg' r' hr'
    · exact hmore g' hg' r' hr'
  · rw [Script.append, hrules, List.append_assoc, List.cons_append]

/-- If one of them matches a diagnostic that the script ignores, and nothing was matched before,
then it decides. -/
theorem Decides.append_of_earlier {more : List Rule} (hs : s.Ignores (before ++ [g]))
    (h : { s with rules := more }.Decides before g r) : (s.append more).Decides before g r := by
  obtain ⟨earlier, later, hrules, hfirst⟩ := h.first
  refine ⟨fun g' hg' r' hr' => ?_, h.matched, s.rules ++ earlier, later, ?_, fun r' hr' => ?_⟩
  · rcases List.mem_append.1 hr' with hr' | hr'
    · exact hs g' (List.mem_append_left _ hg') r' hr'
    · exact h.ignored g' hg' r' hr'
  · rw [Script.append, List.append_assoc]
    exact congrArg (s.rules ++ ·) hrules
  · rcases List.mem_append.1 hr' with hr' | hr'
    · exact hs g (List.mem_append_right before List.mem_cons_self) r' hr'
    · exact hfirst r' hr'

/-- The rules of a script that match any of the diagnostics, in order. -/
def relevant (s : Script) (gs : List Diagnostic) : List Rule :=
  s.rules.filter fun r => gs.any r.matchesDiagnostic

/-- The rule that decides a request can be looked for among those that match something in it. -/
theorem ruleFor_relevant (s : Script) (gs : List Diagnostic) :
    { s with rules := s.relevant gs }.ruleFor gs = s.ruleFor gs := by
  have hfind : ∀ g ∈ gs, (s.relevant gs).find? (·.matchesDiagnostic g) =
      s.rules.find? (·.matchesDiagnostic g) := by
    intro g hg
    rw [relevant, List.find?_filter]
    congr 1
    funext r
    have hany : r.matchesDiagnostic g = true → gs.any r.matchesDiagnostic = true := fun h =>
      List.any_eq_true.2 ⟨g, hg, h⟩
    cases hmatch : r.matchesDiagnostic g <;> simp_all
  unfold ruleFor
  -- by induction on the diagnostics, of which the relevant rules are taken as they stand
  generalize s.relevant gs = kept at hfind
  induction gs with
  | nil => rfl
  | cons g gs ih =>
    obtain ⟨hfirst, hrest⟩ := List.forall_mem_cons.1 hfind
    rw [List.findSome?_cons, List.findSome?_cons, hfirst, ih hrest]

/-- **Rules that match nothing in a request do not count**, wherever they stand. -/
theorem ruleFor_congr {s' : Script} (h : s'.relevant gs = s.relevant gs) :
    s'.ruleFor gs = s.ruleFor gs := by
  rw [← ruleFor_relevant s', ← ruleFor_relevant s, h]
  rfl

/-! ### Replies -/

/-- What becomes of a request is a matter of the delay of the script and of the rule that
decides. -/
theorem reply_congr {s' : Script} {params : CodeActionParams} (hlatency : s'.latencyMs = s.latencyMs)
    (hrule : s'.ruleFor params.diagnostics = s.ruleFor params.diagnostics) :
    s'.reply params = s.reply params := by
  unfold reply latency?
  rw [hrule, hlatency]

/-- A rule that decides a request decides how and when it ends, if its delay fits. -/
theorem reply_of_ruleFor {params : CodeActionParams} (h : s.ruleFor params.diagnostics = some r)
    (fits : s.latencyMs.toNat + r.latencyMs.toNat < 2 ^ 64) :
    s.reply params = ⟨s.latencyMs.toNat + r.latencyMs.toNat, r.outcome⟩ := by
  have hlatency : s.latency? (some r) = some (s.latencyMs.toNat + r.latencyMs.toNat) := if_pos fits
  rw [reply_of_latency? (h ▸ hlatency), h]
  rfl

/-- A request that no rule matches is answered with nothing. -/
theorem reply_of_ignores {params : CodeActionParams} (h : s.Ignores params.diagnostics) :
    s.reply params = ⟨s.latencyMs.toNat, some (.answer none)⟩ := by
  have hnone := ruleFor_eq_none_iff.2 h
  have hlatency : s.latency? none = some s.latencyMs.toNat := if_pos s.latencyMs.toNat_lt
  rw [reply_of_latency? (hnone ▸ hlatency), hnone]
  rfl

end Script

namespace RecordedServer

/-- What becomes of several requests, in order, and the server after them. -/
def receiveAll (server : RecordedServer) : List CodeActionParams → List Reply × RecordedServer
  | [] => ([], server)
  | params :: rest =>
    let (reply, server) := server.receive params
    let (replies, server) := receiveAll server rest
    (reply :: replies, server)

/-- **Each request is counted, and is answered by itself.** -/
theorem receiveAll_eq (server : RecordedServer) (requests : List CodeActionParams) :
    server.receiveAll requests = (requests.map server.script.reply,
      ⟨server.script, server.requests + requests.length⟩) := by
  induction requests generalizing server with
  | nil => rfl
  | cons params rest ih =>
    rw [receiveAll]
    dsimp only [receive]
    rw [ih, List.map_cons, List.length_cons, Nat.add_assoc, Nat.add_comm 1]

end RecordedServer

namespace Script

/-- **What a script answers.** If its delays fit into 64 bits, a request that it ignores is answered
with nothing after the delay of the script. Any other request is decided by one rule: it ends after
both delays, unless the rule hangs, with the error of scripts if the rule fails, and else with its
actions.

Rules that are put behind the others change nothing unless one of them matches a diagnostic that the
script ignores and that comes before the one that decides; then the first such diagnostic and the
first of them that matches it decide. Rules that match nothing in the request do not count, so they
can be put in and left out anywhere. Each request is counted, whatever becomes of it. -/
theorem answers_spec (s : Script) (params : CodeActionParams)
    (fits : ∀ r ∈ s.rules, s.latencyMs.toNat + r.latencyMs.toNat < 2 ^ 64) :
    (s.Ignores params.diagnostics ∨ ∃ before g after r,
      params.diagnostics = before ++ g :: after ∧ s.Decides before g r) ∧
    (s.Ignores params.diagnostics → s.reply params = ⟨s.latencyMs.toNat, some (.answer none)⟩) ∧
    (∀ before g after r, params.diagnostics = before ++ g :: after → s.Decides before g r →
      ((s.reply params).delayMs = s.latencyMs.toNat + r.latencyMs.toNat ∧
        (r.hang = true → (s.reply params).outcome = none) ∧
        (r.hang = false → r.fail = true → (s.reply params).outcome =
          some (.failure (.serverError (-32603) "scripted failure"))) ∧
        (r.hang = false → r.fail = false →
          (s.reply params).outcome = some (.answer (some r.actions)))) ∧
      ∀ more : List Rule,
        ((∀ g' ∈ before, ∀ r' ∈ more, ¬ r'.Matches g') →
          (s.append more).reply params = s.reply params) ∧
        ∀ earlier g' later r', before = earlier ++ g' :: later →
          { s with rules := more }.Decides earlier g' r' →
          (s.append more).Decides earlier g' r') ∧
    (∀ s' : Script, s'.latencyMs = s.latencyMs →
      s'.relevant params.diagnostics = s.relevant params.diagnostics →
      s'.reply params = s.reply params) ∧
    ∀ (count : Nat) (requests : List CodeActionParams),
      (RecordedServer.mk s count).receiveAll requests =
        (requests.map s.reply, ⟨s, count + requests.length⟩) := by
  refine ⟨?_, reply_of_ignores, ?_, ?_, fun count requests => RecordedServer.receiveAll_eq _ requests⟩
  · cases hrule : s.ruleFor params.diagnostics with
    | none => exact .inl (ruleFor_eq_none_iff.1 hrule)
    | some r =>
      obtain ⟨before, g, after, hgs, h⟩ := ruleFor_eq_some_iff.1 hrule
      exact .inr ⟨before, g, after, r, hgs, h⟩
  · intro before g after r hgs h
    have hrule : s.ruleFor params.diagnostics = some r := hgs ▸ h.ruleFor_eq after
    have hreply := reply_of_ruleFor hrule (fits r h.mem)
    have houtcome := congrArg Reply.outcome hreply
    refine ⟨⟨congrArg Reply.delayMs hreply, fun hhang => ?_, fun hhang hfail => ?_,
      fun hhang hfail => ?_⟩, fun more => ⟨fun hmore => ?_, fun earlier g' later r' hbefore h' => ?_⟩⟩
    · exact houtcome.trans (if_pos hhang)
    · rw [houtcome, Rule.outcome, hhang, hfail]
      rfl
    · rw [houtcome, Rule.outcome, hhang, hfail]
      rfl
    · refine reply_congr rfl ?_
      rw [hrule, hgs]
      exact (h.append hmore).ruleFor_eq after
    · refine h'.append_of_earlier fun g'' hg'' => h.ignored g'' ?_
      rw [hbefore, ← List.singleton_append, ← List.append_assoc]
      exact List.mem_append_left later hg''
  · intro s' hlatency hrelevant
    exact reply_congr hlatency (ruleFor_congr hrelevant)

namespace Sample

/-- A diagnostic with a message. -/
def finding (message : String) : Diagnostic :=
  { range := ⟨⟨0, 0⟩, ⟨0, 1⟩⟩, message := message }

/-- A request about two diagnostics. -/
def question : CodeActionParams :=
  ⟨Uri.empty, ⟨⟨0, 0⟩, ⟨0, 1⟩⟩, [finding "first", finding "second"]⟩

/-- A rule for a text, with an action of that title. -/
def ruleFor (text : String) : Rule :=
  { message := some text, actions := [.action { title := text }], latencyMs := 3 }

/-- A script for the second diagnostic only. -/
def script : Script :=
  { latencyMs := 5, rules := [ruleFor "third", ruleFor "second", ruleFor "sec"] }

/-- The titles of the actions that a request is answered with. -/
def titles (reply : Reply) : Option (List String) :=
  (reply.outcome.bind Outcome.actions?).map (·.map Action.title)

/-- The second rule decides the request of the sample. -/
theorem decides : script.Decides [finding "first"] (finding "second") (ruleFor "second") :=
  ⟨by decide, by decide, [ruleFor "third"], [ruleFor "sec"], rfl, by decide⟩

end Sample

/-- The first of two rules for the second diagnostic answers, after both delays; another rule for it
changes nothing, and without the rules for other texts the answer is the same. -/
theorem answers_spec_second_diagnostic :
    (Sample.script.reply Sample.question).delayMs = 8 ∧
      Sample.titles (Sample.script.reply Sample.question) = some ["second"] ∧
      (Sample.script.append [Sample.ruleFor "second"]).reply Sample.question =
        Sample.script.reply Sample.question ∧
      { Sample.script with rules := [Sample.ruleFor "second", Sample.ruleFor "sec"] }.reply
        Sample.question = Sample.script.reply Sample.question := by
  obtain ⟨-, -, decided, others, -⟩ := answers_spec Sample.script Sample.question (by decide)
  obtain ⟨⟨hdelay, -, -, hanswer⟩, hmore⟩ := decided _ _ [] _ rfl Sample.decides
  refine ⟨hdelay, ?_, (hmore _).1 (by decide), others _ rfl ?_⟩
  · rw [Sample.titles, hanswer rfl rfl]
    rfl
  · rfl

/-- A rule for the first of two diagnostics, put behind a rule that matches the second one, changes
the answer. -/
theorem appended_rule_decides :
    (∀ r ∈ (Sample.script.append [Sample.ruleFor "first"]).rules,
      (5 : UInt64).toNat + r.latencyMs.toNat < 2 ^ 64) ∧
    (∃ r ∈ Sample.script.rules, ∃ g ∈ Sample.question.diagnostics, r.Matches g) ∧
    Sample.titles (Sample.script.reply Sample.question) = some ["second"] ∧
    Sample.titles ((Sample.script.append [Sample.ruleFor "first"]).reply Sample.question) =
      some ["first"] := by
  refine ⟨by decide, ⟨_, Sample.decides.mem, _, ?_, Sample.decides.matched⟩, ?_, ?_⟩
  · exact List.mem_cons_of_mem _ List.mem_cons_self
  · rfl
  · rfl

end Script

end AnnotationBridge
