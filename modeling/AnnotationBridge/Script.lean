import AnnotationBridge.Client
import AnnotationBridge.Files
import AnnotationBridge.Json.Text
import AnnotationBridge.Lsp.Capability

/-!
# Reply scripts

A `Script` says how a recorded server answers: its rules are tried in order on the diagnostics of a
request in order, and the first rule that matches decides.

* `Rule.matchesDiagnostic`, `Script.ruleFor`: which rule decides.
* `Script.reply`: what becomes of a request. If the delays of the script and of the rule together do
  not fit into 64 bits, its task is lost.
* `RecordedServer`: a server that answers by a script and counts the requests that it receives.
* `Script.ofText?`, `Script.ofFile`, `Script.toJson`: reading and writing a script.
-/

namespace AnnotationBridge

open Lsp
open Json (Decoder record?)

/-- One scripted answer. -/
structure Rule where
  /-- The code of the diagnostics that match. -/
  code : Option String := none
  /-- A text that occurs in the message of the diagnostics that match. -/
  message : Option String := none
  actions : List Action := []
  /-- Whether the answer is an error. -/
  fail : Bool := false
  /-- Whether there is no answer. -/
  hang : Bool := false
  /-- The delay of this answer, in addition to that of the script. -/
  latencyMs : UInt64 := 0

/-- A recorded server. -/
structure Script where
  /-- Whether the server offers code actions. -/
  codeActions : Bool := true
  /-- The delay of each answer. -/
  latencyMs : UInt64 := 0
  rules : List Rule := []

/-! ### Answers -/

/-- Whether `needle` is a run of consecutive characters of a text. -/
def occursIn (needle : List Char) : List Char → Bool
  | [] => needle.isEmpty
  | c :: cs => needle.isPrefixOf (c :: cs) || occursIn needle cs

namespace Rule

/-- Whether the code of a rule is the code of a diagnostic, the decimal form of a number
included. -/
def matchesCode (r : Rule) (d : Diagnostic) : Bool :=
  match r.code, d.code with
  | some expected, some code => expected == code.shown
  | _, _ => false

/-- Whether the text of a rule occurs in the message of a diagnostic. -/
def matchesMessage (r : Rule) (d : Diagnostic) : Bool :=
  (r.message.map fun text => occursIn text.toList d.message.toList).getD false

/-- Whether a rule matches a diagnostic. -/
def matchesDiagnostic (r : Rule) (d : Diagnostic) : Bool :=
  r.matchesCode d || r.matchesMessage d

/-- How a request ends that the rule decides. A rule that hangs never ends one. -/
def outcome (r : Rule) : Option Outcome :=
  if r.hang then none
  else if r.fail then some (.failure (.serverError (-32603) "scripted failure"))
  else some (.answer (some r.actions))

end Rule

namespace Script

/-- The rule that decides a request with the given diagnostics: the first rule that matches the
first diagnostic that any rule matches. -/
def ruleFor (s : Script) (ds : List Diagnostic) : Option Rule :=
  ds.findSome? fun d => s.rules.find? (·.matchesDiagnostic d)

/-- The delay of the answer that a rule decides; none if it does not fit into 64 bits. -/
def latency? (s : Script) (rule : Option Rule) : Option Nat :=
  let total := s.latencyMs.toNat + (rule.map fun r => r.latencyMs.toNat).getD 0
  if total < UInt64.size then some total else none

/-- How a request ends that a rule decides, or no rule. -/
def outcome (rule : Option Rule) : Option Outcome :=
  match rule with
  | some r => r.outcome
  | none => some (.answer none)

/-- What becomes of a request. Its task is lost at once if the delay does not fit. -/
def reply (s : Script) (params : CodeActionParams) : Reply :=
  let rule := s.ruleFor params.diagnostics
  match s.latency? rule with
  | some delay => ⟨delay, outcome rule⟩
  | none => ⟨0, some .crash⟩

variable {s : Script} {params : CodeActionParams}

/-- A delay that fits is the one that is kept to. -/
theorem reply_of_latency? {delay : Nat}
    (h : s.latency? (s.ruleFor params.diagnostics) = some delay) :
    s.reply params = ⟨delay, outcome (s.ruleFor params.diagnostics)⟩ := by
  simp only [reply, h]

/-- A delay that does not fit takes the task of the request with it. -/
theorem reply_of_latency?_eq_none (h : s.latency? (s.ruleFor params.diagnostics) = none) :
    s.reply params = ⟨0, some .crash⟩ := by
  simp only [reply, h]

/-- The client that answers by the script. -/
def client (s : Script) : Client where
  reply _ params := s.reply params

/-- What the recorded server advertises. -/
def capabilities (s : Script) : Capabilities :=
  ⟨some (.simple s.codeActions)⟩

end Script

/-! ### A server at work -/

/-- A server that answers by a script. -/
structure RecordedServer where
  script : Script
  /-- The number of requests that it has received. -/
  requests : Nat := 0

namespace RecordedServer

/-- What becomes of a request, and the server after it. A request counts as soon as it is received,
whatever becomes of it. -/
def receive (server : RecordedServer) (params : CodeActionParams) : Reply × RecordedServer :=
  (server.script.reply params, { server with requests := server.requests + 1 })

end RecordedServer

/-! ### Reading and writing -/

/-- Decodes a rule. Each field has a default. -/
def Rule.ofJson? : Decoder Rule := fun j => do
  let r ← record? ["code", "message", "actions", "fail", "hang", "latency_ms"] 0 j
  some
    { code := ← r.optional "code" Json.text?
      message := ← r.optional "message" Json.text?
      actions := ← r.defaulted "actions" [] (Json.list? Action.ofJson?)
      fail := ← r.defaulted "fail" false Json.flag?
      hang := ← r.defaulted "hang" false Json.flag?
      latencyMs := ← r.defaulted "latency_ms" 0 Json.uint64? }

/-- Encodes a rule with all its fields. -/
def Rule.toJson (r : Rule) : Json :=
  .object
    [("actions", .array (r.actions.map Action.toJson)),
      ("code", (r.code.map Json.string).getD .null),
      ("fail", .bool r.fail),
      ("hang", .bool r.hang),
      ("latency_ms", .nat r.latencyMs.toNat),
      ("message", (r.message.map Json.string).getD .null)]

namespace Script

/-- Decodes a script. Each field has a default. -/
def ofJson? : Decoder Script := fun j => do
  let r ← record? ["code_actions", "latency_ms", "rules"] 0 j
  some
    { codeActions := ← r.defaulted "code_actions" true Json.flag?
      latencyMs := ← r.defaulted "latency_ms" 0 Json.uint64?
      rules := ← r.defaulted "rules" [] (Json.list? Rule.ofJson?) }

/-- Encodes a script with all its fields. -/
def toJson (s : Script) : Json :=
  .object
    [("code_actions", .bool s.codeActions),
      ("latency_ms", .nat s.latencyMs.toNat),
      ("rules", .array (s.rules.map Rule.toJson))]

/-- The script that a JSON text holds. -/
def ofText? (text : String) : Option Script :=
  (Json.ofText? text).bind ofJson?

end Script

/-- Why a script cannot be used. -/
inductive ScriptError where
  | io (cause : FileError)
  | json
  deriving DecidableEq, Repr

/-- The script of a file. -/
def Script.ofFile (files : Files) (path : Path) : Except ScriptError Script :=
  match files.readText path with
  | .error e => .error (.io e)
  | .ok text =>
    match Script.ofText? text with
    | some s => .ok s
    | none => .error .json

end AnnotationBridge
