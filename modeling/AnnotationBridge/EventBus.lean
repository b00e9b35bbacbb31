import AnnotationBridge.Event

/-!
# The event bus

Those who hold an `EventBus` announce events on it, and anyone may subscribe to what comes from then
on. A subscriber that looks for its next event may find that it has fallen behind: the events that
it missed are gone, it goes on with the oldest one that is kept, and looks again.

* `EventBus.emit`, `EventBus.drop`: announcing, and giving the bus up.
* `EventBus.receive`: what a subscriber finds when it looks once.
* `EventBus.next`: what it finds in the end. `EventBus.drain`: all events that it gets in this way.

Main statements:

* `EventBus.next_eq`: in the end a subscriber finds the event that the stream has for it.
* `EventBus.drain_eq`: in this way it gets all events that it may still read.
-/

namespace AnnotationBridge

/-- A stream of events to which more come as long as someone holds it. -/
structure EventBus where
  feed : EventFeed
  /-- Whether anyone can still announce events. -/
  held : Bool
  deriving DecidableEq, Repr

/-- What a subscriber finds when it looks for its next event. -/
inductive Found where
  | event (event : Event)
  /-- The subscriber has fallen behind and missed so many events. -/
  | lagged (missed : Nat)
  /-- There is no event yet. -/
  | waiting
  /-- There is no event, and there will be none. -/
  | ended
  deriving DecidableEq, Repr

/-- The number of events that are no longer kept, which is the position of the oldest one that
is. -/
def EventFeed.oldest (f : EventFeed) : Nat :=
  f.emitted.length - retainedEvents

namespace EventBus

/-- A bus on which nothing was announced yet. -/
def empty : EventBus :=
  ⟨.empty, true⟩

/-- Announces an event. -/
def emit (b : EventBus) (e : Event) : EventBus :=
  { b with feed := b.feed.emit e }

/-- The bus after all who held it have given it up. -/
def drop (b : EventBus) : EventBus :=
  { b with held := false }

/-- What a subscriber finds in place of an event if there is none. -/
def nothing (b : EventBus) : Found :=
  if b.held then .waiting else .ended

/-- One look of a subscriber. -/
def receive (b : EventBus) (s : Subscriber) : Found × Subscriber :=
  if s.position + retainedEvents < b.feed.emitted.length then
    (.lagged (b.feed.oldest - s.position), ⟨b.feed.oldest⟩)
  else
    match b.feed.emitted[s.position]? with
    | some e => (.event e, ⟨s.position + 1⟩)
    | none => (b.nothing, s)

variable {b : EventBus} {s s' : Subscriber} {n : Nat}

/-- A subscriber that is too far behind is told so, and goes on with the oldest event that is
kept. -/
theorem receive_of_lt (h : s.position + retainedEvents < b.feed.emitted.length) :
    b.receive s = (.lagged (b.feed.oldest - s.position), ⟨b.feed.oldest⟩) :=
  if_pos h

/-- Another one gets the event at its position. -/
theorem receive_of_le (h : b.feed.emitted.length ≤ s.position + retainedEvents) :
    b.receive s = match b.feed.emitted[s.position]? with
      | some e => (.event e, ⟨s.position + 1⟩)
      | none => (b.nothing, s) :=
  if_neg (Nat.not_lt.2 h)

/-- To find nothing is not to have fallen behind. -/
theorem nothing_ne_lagged (b : EventBus) (n : Nat) : b.nothing ≠ .lagged n := by
  unfold nothing
  split <;> exact Found.noConfusion

/-- A subscriber is told that it has fallen behind only if it has, and then it has caught up. -/
theorem position_of_lagged (h : b.receive s = (.lagged n, s')) :
    s.position + retainedEvents < b.feed.emitted.length ∧ s'.position = b.feed.oldest := by
  by_cases hlt : s.position + retainedEvents < b.feed.emitted.length
  · rw [receive_of_lt hlt] at h
    obtain ⟨-, rfl⟩ := Prod.mk.inj h
    exact ⟨hlt, rfl⟩
  · rw [receive_of_le (Nat.not_lt.1 hlt)] at h
    split at h
    · cases h
    · exact absurd (Prod.mk.inj h).1 (b.nothing_ne_lagged n)

/-- The oldest event that is kept comes after what a subscriber has missed. -/
theorem position_lt_oldest (h : s.position + retainedEvents < b.feed.emitted.length) :
    s.position < b.feed.oldest ∧ b.feed.oldest + retainedEvents = b.feed.emitted.length := by
  unfold EventFeed.oldest
  omega

/-- What a subscriber finds in the end: it looks again as long as it finds that it has fallen
behind. -/
def next (b : EventBus) (s : Subscriber) : Found × Subscriber :=
  match _h : b.receive s with
  | (.lagged _, s') => b.next s'
  | found => found
  termination_by b.feed.emitted.length - s.position
  decreasing_by
    obtain ⟨hlt, hs'⟩ := position_of_lagged _h
    obtain ⟨hbehind, hkept⟩ := position_lt_oldest hlt
    omega

/-- A subscriber that has not fallen behind looks once. -/
theorem next_of_le (h : b.feed.emitted.length ≤ s.position + retainedEvents) :
    b.next s = b.receive s := by
  rw [next]
  split
  · exact absurd (position_of_lagged ‹_›).1 (Nat.not_lt.2 h)
  · rfl

/-- One that has fallen behind looks twice. -/
theorem next_of_lt (h : s.position + retainedEvents < b.feed.emitted.length) :
    b.next s = b.receive ⟨b.feed.oldest⟩ := by
  obtain ⟨-, hkept⟩ := position_lt_oldest h
  rw [next]
  split
  · rename_i s' heq
    obtain rfl : s' = ⟨b.feed.oldest⟩ := (Prod.mk.inj (heq.symm.trans (receive_of_lt h))).2
    exact next_of_le (Nat.le_of_eq hkept.symm)
  · rename_i hother
    exact absurd (receive_of_lt h) (hother _ _)

/-- **What a subscriber finds in the end is the event that the stream has for it.** If there is
none, it waits, or the stream has ended. -/
theorem next_eq (b : EventBus) (s : Subscriber) :
    b.next s = match b.feed.next? s with
      | some (e, s') => (.event e, s')
      | none => (b.nothing, s) := by
  have hread : b.feed.readPosition s = max s.position b.feed.oldest := rfl
  unfold EventFeed.next?
  by_cases hlt : s.position + retainedEvents < b.feed.emitted.length
  · obtain ⟨hbehind, hkept⟩ := position_lt_oldest hlt
    have hpos : 0 < retainedEvents := by decide
    have hlast : b.feed.oldest < b.feed.emitted.length := by omega
    have hcaught : b.feed.emitted.length ≤
        Subscriber.position ⟨b.feed.oldest⟩ + retainedEvents := Nat.le_of_eq hkept.symm
    rw [next_of_lt hlt, receive_of_le hcaught, hread,
      Nat.max_eq_right (Nat.le_of_lt hbehind), List.getElem?_eq_getElem hlast]
    rfl
  · have hle := Nat.not_lt.1 hlt
    have holdest : b.feed.oldest ≤ s.position := Nat.sub_le_of_le_add hle
    rw [next_of_le hle, receive_of_le hle, hread, Nat.max_eq_left holdest]
    cases b.feed.emitted[s.position]? <;> rfl

/-- A subscriber that finds an event goes on to read. -/
theorem position_of_event {e : Event} (h : b.next s = (.event e, s')) :
    b.feed.next? s = some (e, s') ∧ s.position < s'.position ∧
      s'.position ≤ b.feed.emitted.length := by
  rw [next_eq] at h
  split at h
  · rename_i e' s'' hnext
    cases h
    obtain ⟨e', hread, heq⟩ := Option.map_eq_some_iff.1 hnext
    cases heq
    obtain ⟨hlt, -⟩ := List.getElem?_eq_some_iff.1 hread
    exact ⟨hnext, Nat.lt_succ_of_le (Nat.le_max_left _ _), hlt⟩
  · rename_i hnone
    have hnothing := (Prod.mk.inj h).1
    unfold nothing at hnothing
    split at hnothing <;> cases hnothing

/-- Reads until there is no event: all events in order, what is found then, and the subscriber. -/
def drain (b : EventBus) (s : Subscriber) : List Event × Found × Subscriber :=
  match _h : b.next s with
  | (.event e, s') => (e :: (b.drain s').1, (b.drain s').2)
  | found => ([], found)
  termination_by b.feed.emitted.length - s.position
  decreasing_by
    all_goals
      obtain ⟨-, hlt, hle⟩ := position_of_event _h
      omega

/-- **Reading until there is no event gets all events that the subscriber may still read.** -/
theorem drain_eq (b : EventBus) (s : Subscriber) :
    (b.drain s).1 = b.feed.unread s ∧ (b.drain s).2.1 = b.nothing := by
  rw [drain]
  split
  · rename_i e s' hnext
    obtain ⟨hread, hlt, hle⟩ := position_of_event hnext
    obtain ⟨hrest, hfound⟩ := b.drain_eq s'
    refine ⟨?_, hfound⟩
    rw [hrest, EventFeed.unread_of_next? hread]
  · rename_i hother
    rw [next_eq] at hother ⊢
    cases hnext : b.feed.next? s with
    | some next => exact absurd (by rw [hnext]) (hother next.1 next.2)
    | none =>
      have hhead := b.feed.map_fst_next? s
      rw [hnext, Option.map_none] at hhead
      exact ⟨(List.head?_eq_none_iff.1 hhead.symm).symm, rfl⟩
  termination_by b.feed.emitted.length - s.position

end EventBus

end AnnotationBridge
