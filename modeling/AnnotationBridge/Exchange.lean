import AnnotationBridge.Pass

/-!
# Requests under way

An `Exchange` holds the requests that were sent and have not ended, the answers so far, and the
passes that wait for answers, all in virtual time.

A wait for a batch of requests ends when all of them have ended, at the latest at its deadline. A
request whose task was lost has no answer until a wait for it finds that it has ended; then its
answer is empty.

* `Exchange.ask`: sends the requests of a pass. Servers that offer no code actions are not asked:
  their requests are answered at once, with nothing.
* `Exchange.advanceTo`: lets time pass.
* `Exchange.join`, `Exchange.resolve`: waiting for a batch, and for a pass.
* `Exchange.start`: begins a pass that waits by itself.
-/

namespace AnnotationBridge

open Lsp

/-- How and when a request ends. -/
structure Ending where
  time : Nat
  outcome : Outcome

/-- A request that was sent. -/
structure Sent where
  /-- Its place among all requests that were sent. -/
  number : Nat
  request : RequestId
  /-- Its end; none if it never ends. -/
  ending : Option Ending

namespace Sent

/-- The time at which a request ends. -/
def endTime? (s : Sent) : Option Nat :=
  s.ending.map Ending.time

/-- Whether a request ends at the given time or before. -/
def endsBy (s : Sent) (time : Nat) : Bool :=
  s.endTime?.any (· ≤ time)

/-- The actions that the request brings when it ends; none if its task is lost. -/
def actions? (s : Sent) : Option (List Action) :=
  s.ending.bind (·.outcome.actions?)

/-- The order in which requests end. -/
def endsBefore (s t : Sent) : Bool :=
  decide (s.endTime?.getD 0 ≤ t.endTime?.getD 0)

end Sent

/-- A pass that waits for its answers. -/
structure Waiting where
  pass : Pass
  batch : List Sent
  /-- The time at which the wait is over. -/
  ends : Nat

/-- The requests, answers and waits at some time. -/
structure Exchange where
  /-- The time in milliseconds. -/
  now : Nat
  underWay : List Sent
  answers : Answers
  /-- What each client received, in order. -/
  received : List (ConnectionId × CodeActionParams)
  waiting : List Waiting
  /-- The requests under way are among those that were received. -/
  numbered : ∀ s ∈ underWay, s.number < received.length

/-- How a wait for requests ended. -/
inductive JoinOutcome where
  | completed
  | timedOut (outstanding : Nat)
  deriving DecidableEq, Repr

namespace Exchange

/-- Nothing was sent yet. -/
def empty : Exchange :=
  ⟨0, [], .empty, [], [], fun _ h => absurd h List.not_mem_nil⟩

/-- What a client received. -/
def receivedBy (x : Exchange) (id : ConnectionId) : List CodeActionParams :=
  (x.received.filter (·.1 = id)).map Prod.snd

/-! ### Sending -/

/-- Sends a request to the client of a connection. -/
def send (x : Exchange) (uri : Uri) (c : Connection) (r : Request) : Sent × Exchange :=
  let params := CodeActionParams.about uri r.marker.diagnostic
  let reply := c.client.reply (x.receivedBy c.id).length params
  let sent : Sent :=
    ⟨x.received.length, r.id, reply.outcome.map fun outcome => ⟨x.now + reply.delayMs, outcome⟩⟩
  (sent, { x with
    underWay := x.underWay ++ [sent]
    received := x.received ++ [(c.id, params)]
    numbered := by
      intro s hs
      rw [List.length_append]
      rcases List.mem_append.1 hs with hs | hs
      · exact Nat.lt_succ_of_lt (x.numbered s hs)
      · rw [List.mem_singleton.1 hs]
        exact Nat.lt_succ_self _ })

/-- Sends the requests to the client of a connection, in order. -/
def sendAll (x : Exchange) (uri : Uri) (c : Connection) : List Request → List Sent × Exchange
  | [] => ([], x)
  | r :: rs =>
    let (sent, x) := x.send uri c r
    let (batch, x) := sendAll x uri c rs
    (sent :: batch, x)

/-- Answers the requests with nothing. -/
def answerEmpty (x : Exchange) (ids : List RequestId) : Exchange :=
  { x with answers := ids.foldl (fun answers id => answers.record id []) x.answers }

/-- Puts the questions of an inquiry to its server, if that offers code actions. -/
def inquire (x : Exchange) (uri : Uri) (i : Inquiry) : List Sent × Exchange :=
  if i.connection.support.isSupported then x.sendAll uri i.connection i.requests
  else ([], x.answerEmpty (i.requests.map Request.id))

/-- Puts the questions of inquiries, in order. -/
def inquireAll (x : Exchange) (uri : Uri) : List Inquiry → List Sent × Exchange
  | [] => ([], x)
  | i :: is =>
    let (batch, x) := x.inquire uri i
    let (later, x) := inquireAll x uri is
    (batch ++ later, x)

/-- Puts all questions of a pass: the requests that were sent. -/
def ask (x : Exchange) (p : Pass) : List Sent × Exchange :=
  x.inquireAll p.document.uri p.inquiries

/-! ### Time -/

/-- Takes down the answer of a request that has ended. -/
def receive (answers : Answers) (s : Sent) : Answers :=
  match s.actions? with
  | some actions => answers.record s.request actions
  | none => answers

/-- The exchange at a later time: requests that end until then have ended, in order. -/
def deliver (x : Exchange) (time : Nat) : Exchange :=
  let ended := (x.underWay.filter (·.endsBy time)).mergeSort Sent.endsBefore
  { x with
    now := max x.now time
    underWay := x.underWay.filter fun s => !s.endsBy time
    answers := ended.foldl receive x.answers
    numbered := fun s hs => x.numbered s (List.mem_filter.1 hs).1 }

/-- Whether a request has ended. -/
def hasEnded (x : Exchange) (s : Sent) : Bool :=
  !x.underWay.any (·.number == s.number)

/-- The time at which a wait that begins now ends; none if it ends at once. -/
def waitEnd? (x : Exchange) (deadline : Nat) (batch : List Sent) : Option Nat :=
  if batch.all x.hasEnded || deadline == 0 then none
  else
    match batch.mapM Sent.endTime? with
    | some times => some (min (x.now + deadline) (times.foldl max x.now))
    | none => some (x.now + deadline)

/-- The end of a wait in which it was noticed how the given requests of the batch ended. Of these,
the ones that were lost are answered with nothing. -/
def finish (x : Exchange) (batch noticed : List Sent) : JoinOutcome × Exchange :=
  let x := x.answerEmpty ((noticed.filter (·.actions?.isNone)).map Sent.request)
  if noticed.length = batch.length then (.completed, x)
  else (.timedOut (batch.countP fun s => (x.answers.get? s.request).isNone), x)

/-- How many ended requests can be noticed at one look. -/
def noticeLimit : Nat :=
  128

/-- Ends a wait that has no time: it looks at its batch once. -/
def glance (x : Exchange) (batch : List Sent) : JoinOutcome × Exchange :=
  x.finish batch ((batch.filter x.hasEnded).take noticeLimit)

/-- Ends a wait that had some time, in which it looked at its batch as often as needed. -/
def conclude (x : Exchange) (batch : List Sent) : JoinOutcome × Exchange :=
  x.finish batch (batch.filter x.hasEnded)

/-- Ends a wait at the moment at which it began. -/
def endAtOnce (x : Exchange) (deadline : Nat) (batch : List Sent) : JoinOutcome × Exchange :=
  if deadline == 0 then x.glance batch else x.conclude batch

/-- Ends the wait of a pass: its result. -/
def settle (x : Exchange) (w : Waiting) : PassResult × Exchange :=
  let x := ((x.deliver w.ends).conclude w.batch).2
  (w.pass.resolved x.answers, x)

/-- Ends the waits of passes, in order. -/
def settleAll (x : Exchange) : List Waiting → List PassResult × Exchange
  | [] => ([], x)
  | w :: ws =>
    let (result, x) := x.settle w
    let (results, x) := settleAll x ws
    (result :: results, x)

/-- Lets time pass: the results of the passes whose wait ended, in order. -/
def advanceTo (x : Exchange) (time : Nat) : List PassResult × Exchange :=
  let due := (x.waiting.filter (·.ends ≤ time)).mergeSort fun v w => v.ends ≤ w.ends
  let (results, x) := settleAll { x with waiting := x.waiting.filter (time < ·.ends) } due
  (results, x.deliver time)

/-! ### Waiting -/

/-- Waits for a batch, at most until the deadline: how the wait ended, and the results of passes
whose wait ended meanwhile. -/
def join (x : Exchange) (deadline : Nat) (batch : List Sent) :
    JoinOutcome × List PassResult × Exchange :=
  match x.waitEnd? deadline batch with
  | none =>
    let (outcome, x) := x.endAtOnce deadline batch
    (outcome, [], x)
  | some time =>
    let (results, x) := x.advanceTo time
    let (outcome, x) := x.conclude batch
    (outcome, results, x)

/-- Asks the questions of a pass and waits for the answers. On the UI thread there is no wait: the
questions are asked, and that is all. -/
def resolve (x : Exchange) (onUi : Bool) (deadline : Nat) (p : Pass) :
    Except RequestError PassResult × List PassResult × Exchange :=
  let (batch, x) := x.ask p
  if onUi then (.error .joinOnUiThread, [], x)
  else
    let (_, results, x) := x.join deadline batch
    (.ok (p.resolved x.answers), results, x)

/-- Asks the questions of a pass, which then waits by itself. Its result, if it does not have to
wait. -/
def start (x : Exchange) (deadline : Nat) (p : Pass) : Option PassResult × Exchange :=
  let (batch, x) := x.ask p
  match x.waitEnd? deadline batch with
  | none =>
    let x := (x.endAtOnce deadline batch).2
    (some (p.resolved x.answers), x)
  | some time => (none, { x with waiting := x.waiting ++ [⟨p, batch, time⟩] })

end Exchange

end AnnotationBridge
