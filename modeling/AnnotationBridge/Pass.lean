import AnnotationBridge.Marker
import AnnotationBridge.Pool

/-!
# Passes

A `Pass` asks the servers of a document what they offer for each marker of an editor. The `Answers`
are what they said so far; each request keeps its first answer. A `PassResult` is what a pass has
found at some time: the markers with an answer, and the number of those without.

* `Pass.resolved`: the result of a pass with the present answers.
* `PassResult.render`: the annotations for a result. Markers that are no longer current are left
  out.
-/

namespace AnnotationBridge

open Lsp

/-! ### Questions -/

/-- Identifies a request by its pass and its place in the pass. -/
structure RequestId where
  pass : Nat
  index : Nat
  deriving DecidableEq, Repr, Inhabited

/-- A question about a marker. -/
structure Request where
  id : RequestId
  marker : Marker

/-- What one connection is asked. -/
structure Inquiry where
  connection : Connection
  requests : List Request

/-- All questions about an editor. -/
structure Pass where
  number : Nat
  editor : EditorId
  /-- The document as it was when the pass was made. -/
  document : Document
  inquiries : List Inquiry

namespace Pass

/-- All requests of a pass. -/
def requests (p : Pass) : List Request :=
  p.inquiries.flatMap Inquiry.requests

/-- The number of requests of a pass. -/
def requestCount (p : Pass) : Nat :=
  p.requests.length

/-- The requests for markers, numbered on from `start`. -/
def requestsFrom (pass start : Nat) (markers : List Marker) : List Request :=
  (markers.zipIdx start).map fun (m, i) => ⟨⟨pass, i⟩, m⟩

/-- There is one request for each marker. -/
@[simp] theorem length_requestsFrom (pass start : Nat) (markers : List Marker) :
    (requestsFrom pass start markers).length = markers.length := by
  simp [requestsFrom]

/-- One inquiry for each connection about its server's markers; the requests are numbered on from
`start`. -/
def inquiriesFrom (pass start : Nat) (markersOf : Connection → List Marker) :
    List Connection → List Inquiry
  | [] => []
  | c :: cs =>
    let requests := requestsFrom pass start (markersOf c)
    ⟨c, requests⟩ :: inquiriesFrom pass (start + requests.length) markersOf cs

end Pass

/-! ### Answers -/

/-- The answers to requests. -/
structure Answers where
  given : FiniteMap RequestId (List Action)

namespace Answers

/-- No answers. -/
def empty : Answers :=
  ⟨.empty⟩

/-- The answer to a request. -/
def get? (a : Answers) (id : RequestId) : Option (List Action) :=
  a.given.get? id

/-- The answers with one more. A request that has an answer keeps it. -/
def record (a : Answers) (id : RequestId) (actions : List Action) : Answers :=
  if a.given.contains id then a else ⟨a.given.insert id actions⟩

/-- At first no request has an answer. -/
@[simp] theorem get?_empty (id : RequestId) : empty.get? id = none := rfl

/-- An answer is written down unless there is one already. -/
theorem get?_record (a : Answers) (id other : RequestId) (actions : List Action) :
    (a.record id actions).get? other =
      if other = id then some ((a.get? id).getD actions) else a.get? other := by
  unfold record get? FiniteMap.contains
  cases h : a.given.get? id with
  | none => simp [FiniteMap.get?_insert]
  | some kept =>
    by_cases ho : other = id
    · subst ho
      simp [h]
    · simp [ho]

end Answers

/-! ### Results -/

/-- A marker with the actions offered for it. -/
structure Finding where
  marker : Marker
  actions : List Action

/-- What one connection offered. -/
structure Findings where
  connection : Connection
  items : List Finding

/-- What a pass has found. -/
structure PassResult where
  pass : Nat
  editor : EditorId
  findings : List Findings
  /-- The number of requests without an answer. -/
  unresolved : Nat

/-- What a request has found. -/
def Request.finding? (answers : Answers) (r : Request) : Option Finding :=
  (answers.get? r.id).map (⟨r.marker, ·⟩)

/-- What an inquiry has found. -/
def Inquiry.findings (answers : Answers) (i : Inquiry) : Findings :=
  ⟨i.connection, i.requests.filterMap (·.finding? answers)⟩

/-- What a pass has found with the given answers. -/
def Pass.resolved (p : Pass) (answers : Answers) : PassResult where
  pass := p.number
  editor := p.editor
  findings := p.inquiries.map (·.findings answers)
  unresolved := p.requests.countP fun r => (answers.get? r.id).isNone

namespace PassResult

/-- The number of markers with an answer. -/
def itemCount (r : PassResult) : Nat :=
  (r.findings.flatMap Findings.items).length

/-- Of some requests, each has found something or has no answer. -/
theorem length_filterMap_add_countP (answers : Answers) (rs : List Request) :
    (rs.filterMap (·.finding? answers)).length +
      rs.countP (fun r => (answers.get? r.id).isNone) = rs.length := by
  induction rs with
  | nil => rfl
  | cons r rs ih =>
    cases h : answers.get? r.id with
    | none => simp [Request.finding?, h] at ih ⊢; omega
    | some actions => simp [Request.finding?, h] at ih ⊢; omega

/-- Each request of a pass has been answered or is counted as unresolved. -/
theorem itemCount_add_unresolved (p : Pass) (answers : Answers) :
    (p.resolved answers).itemCount + (p.resolved answers).unresolved = p.requestCount := by
  show ((p.inquiries.map (·.findings answers)).flatMap Findings.items).length +
      (p.inquiries.flatMap Inquiry.requests).countP (fun r => (answers.get? r.id).isNone) =
    (p.inquiries.flatMap Inquiry.requests).length
  induction p.inquiries with
  | nil => rfl
  | cons i rest ih =>
    have found := length_filterMap_add_countP answers i.requests
    simp only [List.map_cons, List.flatMap_cons, List.countP_append,
      List.length_append, Inquiry.findings] at ih ⊢
    omega

end PassResult

/-! ### Annotations -/

/-- The annotation for a marker and the actions that a connection offered for it. -/
def Finding.render (connection : ConnectionId) (f : Finding) : Annotation :=
  { severity := .ofSeverity f.marker.diagnostic.severity
    message := f.marker.diagnostic.message
    tooltip := some f.marker.diagnostic.message
    range := f.marker.span
    source := f.marker.server
    fixes := f.actions.map (.ofAction connection) }

/-- The annotations for what one connection offered about current markers. -/
def Findings.render (markers : MarkerStore) (fs : Findings) : List Annotation :=
  (fs.items.filter (markers.isCurrent ·.marker)).map (·.render fs.connection.id)

/-- The annotations for a result, in order of connection and marker. -/
def PassResult.render (markers : MarkerStore) (r : PassResult) : List Annotation :=
  r.findings.flatMap (·.render markers)

end AnnotationBridge
