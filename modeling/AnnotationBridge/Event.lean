import AnnotationBridge.Error

/-!
# Events

The workbench tells what happens as a stream of events. Subscribers read it at their own pace, each
from where it began; one that falls behind loses the oldest events.

* `Event`: what may happen.
* `EventFeed.emit`, `EventFeed.subscribe`: writing and following the stream.
* `EventFeed.next?`, `EventFeed.unread`: reading it.
-/

namespace AnnotationBridge

/-- What happens in the workbench. -/
inductive Event where
  | opened (editor : EditorId)
  | closed (editor : EditorId)
  | changed (document : DocumentId)
  | published (uri server : String)
  | applied (editor : EditorId) (count : Nat)
  deriving DecidableEq, Repr

/-- The number of unread events that are kept for a subscriber. -/
def retainedEvents : Nat := 256

/-- All events so far, oldest first. -/
structure EventFeed where
  emitted : List Event
  deriving DecidableEq, Repr

/-- How far a subscriber has read: the number of events before the next one. -/
structure Subscriber where
  position : Nat
  deriving DecidableEq, Repr, Inhabited

namespace EventFeed

/-- A stream without events. -/
def empty : EventFeed :=
  ⟨[]⟩

/-- The stream with one more event. -/
def emit (f : EventFeed) (e : Event) : EventFeed :=
  ⟨f.emitted ++ [e]⟩

/-- A subscriber to all later events. -/
def subscribe (f : EventFeed) : Subscriber :=
  ⟨f.emitted.length⟩

/-- Where a subscriber reads next: its own position, or the oldest event that is kept. -/
def readPosition (f : EventFeed) (s : Subscriber) : Nat :=
  max s.position (f.emitted.length - retainedEvents)

/-- The next event for a subscriber, which then has read it. -/
def next? (f : EventFeed) (s : Subscriber) : Option (Event × Subscriber) :=
  (f.emitted[f.readPosition s]?).map fun e => (e, ⟨f.readPosition s + 1⟩)

/-- All events that a subscriber may still read. -/
def unread (f : EventFeed) (s : Subscriber) : List Event :=
  f.emitted.drop (f.readPosition s)

/-- A new subscriber has nothing to read. -/
@[simp] theorem unread_subscribe (f : EventFeed) : f.unread f.subscribe = [] := by
  simp [unread, subscribe, readPosition]

/-- The next event is the first of the unread ones. -/
theorem map_fst_next? (f : EventFeed) (s : Subscriber) :
    (f.next? s).map Prod.fst = (f.unread s).head? := by
  simp [next?, unread, List.head?_drop, Function.comp_def]

/-- What is unread after the next event was read. -/
theorem unread_of_next? {f : EventFeed} {s s' : Subscriber} {e : Event}
    (h : f.next? s = some (e, s')) : f.unread s = e :: f.unread s' := by
  obtain ⟨e, hread, heq⟩ := Option.map_eq_some_iff.1 h
  obtain ⟨rfl, rfl⟩ := Prod.mk.inj heq
  obtain ⟨hlt, rfl⟩ := List.getElem?_eq_some_iff.1 hread
  have hkept : f.readPosition ⟨f.readPosition s + 1⟩ = f.readPosition s + 1 :=
    Nat.max_eq_left (Nat.le_succ_of_le (Nat.le_max_right _ _))
  unfold unread
  rw [hkept, List.drop_eq_getElem_cons hlt]

end EventFeed

end AnnotationBridge
