import AnnotationBridge.Annotator
import AnnotationBridge.Exchange

/-!
# Sessions

A `Session` runs an annotator in virtual time. What happens by itself between two acts of its owner
is one `Session.background`: the event loops read what happened, passes that were begun ask their
questions, and passes whose answers have arrived queue their results.

* `Session.openDocument`, `Session.connect`, `Session.publish`, …: acts of the owner.
* `Session.annotate`, `Session.resolve`, `Session.join`, `Session.wait`: acts that take time.
* `Session.background`: everything that can happen without time passing.
-/

namespace AnnotationBridge

open Lsp

/-- A loop in which the annotator follows the events of its workbench. -/
structure EventLoop where
  subscriber : Subscriber
  running : Bool
  deriving DecidableEq, Repr

/-- An annotator at work. -/
structure Session where
  annotator : Annotator
  exchange : Exchange
  /-- Whether the owner still holds the annotator. -/
  held : Bool
  /-- The event loops that the owner has let go, oldest first. They go on by themselves. -/
  freeLoops : List EventLoop
  /-- The event loop that the owner can stop. -/
  ownLoop : Option EventLoop
  /-- The editors for which a pass was begun that has not asked yet. -/
  starting : List EditorId
  /-- The number of editors that were opened. -/
  editorCount : Nat
  /-- The number of documents that were opened. -/
  documentCount : Nat
  /-- The number of connections that were made. -/
  connectionCount : Nat

namespace Session

/-- A session in which nothing happened yet. -/
def start (root : Path) (config : Config) (locate : Locator) : Session where
  annotator := .empty (.empty ⟨root⟩) (.empty ⟨root⟩ config) locate config.annotator
  exchange := .empty
  held := true
  freeLoops := []
  ownLoop := none
  starting := []
  editorCount := 0
  documentCount := 0
  connectionCount := 0

/-- The workbench of a session. -/
def workbench (s : Session) : Workbench :=
  s.annotator.workbench

/-- The time in a session, in milliseconds. -/
def now (s : Session) : Nat :=
  s.exchange.now

/-- How long a pass waits for answers. -/
def deadline (s : Session) : Nat :=
  s.annotator.config.codeActionTimeoutMs.toNat

/-- The session with another workbench. -/
def withWorkbench (s : Session) (w : Workbench) : Session :=
  { s with annotator := { s.annotator with workbench := w } }

/-! ### Documents and editors -/

/-- The identifier of the next editor. -/
def nextEditor (s : Session) : EditorId :=
  ⟨s.editorCount + 1⟩

/-- The identifier of the next document. -/
def nextDocument (s : Session) : DocumentId :=
  ⟨s.documentCount + 1⟩

/-- The session after an editor was opened in its workbench. A document counts if it is shown for
the first time. -/
def opened (s : Session) (w : Workbench) : Session :=
  { s.withWorkbench w with
    editorCount := s.editorCount + 1
    documentCount :=
      if s.workbench.documentCount < w.documentCount then s.documentCount + 1
      else s.documentCount }

/-- Opens an editor on a text. -/
def openDocument (s : Session) (uri : Uri) (text : String) : Session :=
  s.opened (s.workbench.openDocument s.nextEditor (.ofText s.nextDocument uri text))

/-- Opens an editor on a file. -/
def openFile (s : Session) (files : Files) (path : Path) : Except AccessError Session :=
  (s.workbench.openFile files s.nextEditor s.nextDocument path).map s.opened

/-- Closes an editor. -/
def close (s : Session) (editor : EditorId) : Except AccessError Session :=
  (s.workbench.close editor).map s.withWorkbench

/-- Replaces a range of a document. -/
def edit (s : Session) (document : DocumentId) (range : Text.Span) (text : List Char) :
    Except AccessError Session :=
  (s.workbench.edit document range text).map s.withWorkbench

/-! ### Connections -/

/-- The identifier of the next connection. -/
def nextConnection (s : Session) : ConnectionId :=
  ⟨s.connectionCount + 1⟩

/-- The session with another pool. -/
def withPool (s : Session) (pool : ConnectionPool) : Session :=
  { s with annotator := { s.annotator with pool := pool } }

/-- Makes a connection. -/
def connect (s : Session) (server : String) (capabilities : Capabilities) (client : Client) :
    Session :=
  { s.withPool (s.annotator.pool.register ⟨s.nextConnection, server, capabilities, client⟩) with
    connectionCount := s.connectionCount + 1 }

/-- Ends a connection. -/
def disconnect (s : Session) (connection : ConnectionId) : Session :=
  s.withPool (s.annotator.pool.unregister connection)

/-! ### Passes -/

/-- Begins passes, which go on by themselves. -/
def begin (s : Session) (editors : List EditorId) : Session :=
  { s with starting := s.starting ++ editors }

/-- Takes in what a server publishes: the editors that show the document. The passes that are due
begin. -/
def publish (s : Session) (server : String) (params : PublishParams) (runtime : Bool) :
    List EditorId × Session :=
  let (editors, annotator) := s.annotator.publish server params
  (editors, begin { s with annotator := annotator } (annotator.passesDue runtime editors))

/-- Makes a pass about an editor. -/
def collect (s : Session) (editor : EditorId) : Option Pass × Session :=
  let (pass, annotator) := s.annotator.collect editor
  (pass, { s with annotator := annotator })

/-- Queues results to be shown. -/
def scheduleAll (s : Session) (results : List PassResult) : Session :=
  { s with annotator := results.foldl Annotator.schedule s.annotator }

/-- The session with another exchange, in which passes have found results. -/
def withExchange (s : Session) (results : List PassResult) (x : Exchange) : Session :=
  scheduleAll { s with exchange := x } results

/-- Asks the questions of a pass and waits for the answers. -/
def resolve (s : Session) (onUi : Bool) (p : Pass) : Except RequestError PassResult × Session :=
  let (result, settled, x) := s.exchange.resolve onUi s.deadline p
  (result, s.withExchange settled x)

/-- Asks the questions of a pass. -/
def ask (s : Session) (p : Pass) : List Sent × Session :=
  let (batch, x) := s.exchange.ask p
  (batch, s.withExchange [] x)

/-- Waits for requests. -/
def join (s : Session) (deadline : Nat) (batch : List Sent) : JoinOutcome × Session :=
  let (outcome, settled, x) := s.exchange.join deadline batch
  (outcome, s.withExchange settled x)

/-- Shows a result. -/
def apply (s : Session) (onUi : Bool) (result : PassResult) : Except RequestError Nat × Session :=
  let (shown, annotator) := s.annotator.apply onUi result
  (shown, { s with annotator := annotator })

/-- Queues a result to be shown. -/
def schedule (s : Session) (result : PassResult) : Session :=
  s.scheduleAll [result]

/-- Makes a pass about an editor, waits for it and queues its result. -/
def annotate (s : Session) (editor : EditorId) : Session :=
  match s.collect editor with
  | (none, s) => s
  | (some p, s) =>
    match s.resolve false p with
    | (.error _, s) => s
    | (.ok result, s) => s.schedule result

/-- Runs what is queued for the UI thread: the number of tasks. -/
def runUi (s : Session) : Nat × Session :=
  let (count, annotator) := s.annotator.runUi
  (count, { s with annotator := annotator })

/-- Tells the annotator that an editor was closed. -/
def editorClosed (s : Session) (editor : EditorId) : Session :=
  { s with annotator := s.annotator.editorClosed editor }

/-- Lets time pass. -/
def wait (s : Session) (ms : Nat) : Session :=
  let (settled, x) := s.exchange.advanceTo (s.now + ms)
  s.withExchange settled x

/-! ### Event loops -/

/-- Starts an event loop, which follows all later events. The owner lets the loop before it go. -/
def startLoop (s : Session) : Session :=
  { s with
    freeLoops := s.freeLoops ++ s.ownLoop.toList
    ownLoop := some ⟨s.workbench.feed.subscribe, true⟩ }

/-- Stops the event loop that was started last, unless that was done before. -/
def stopLoop (s : Session) : Session :=
  { s with ownLoop := none }

/-- Whether the event loop that was started last has ended by itself; none if it was stopped or none
was started. -/
def loopFinished (s : Session) : Option Bool :=
  s.ownLoop.map fun l => !l.running

/-- Gives the annotator up. It lasts until nothing that goes on by itself needs it. -/
def drop (s : Session) : Session :=
  { s with held := false }

/-- Whether there is still an annotator: it is held, or a pass or a queued result needs it. -/
def isAlive (s : Session) : Bool :=
  s.held || !s.starting.isEmpty || !s.exchange.waiting.isEmpty || s.annotator.hasScheduled

/-- Follows events in order: whether the annotator lasted that long. -/
def follow (s : Session) : List Event → Bool × Session
  | [] => (true, s)
  | e :: es =>
    if s.isAlive then
      let (editors, annotator) := s.annotator.react e
      (begin { s with annotator := annotator } editors).follow es
    else (false, s)

/-- Lets event loops read what happened, each up to the present. -/
def readEvents (s : Session) : List EventLoop → List EventLoop × Session
  | [] => ([], s)
  | l :: ls =>
    let (running, s') := if l.running then s.follow (s.workbench.feed.unread l.subscriber)
      else (false, s)
    let (ls, s') := s'.readEvents ls
    (⟨s.workbench.feed.subscribe, running⟩ :: ls, s')

/-! ### What happens by itself -/

/-- Starts a pass about an editor, unless that is closed. -/
def startPass (s : Session) (editor : EditorId) : Session :=
  match s.collect editor with
  | (none, s) => s
  | (some p, s) =>
    let (result, x) := s.exchange.start s.deadline p
    s.withExchange result.toList x

/-- Starts the passes that were begun, in order. -/
def startPasses (s : Session) : Session :=
  s.starting.foldl startPass { s with starting := [] }

/-- Everything that can happen without time passing. -/
def background (s : Session) : Session :=
  let (free, s) := s.readEvents s.freeLoops
  let (own, s) := s.readEvents s.ownLoop.toList
  (startPasses { s with freeLoops := free, ownLoop := own.head? }).wait 0

end Session

end AnnotationBridge
