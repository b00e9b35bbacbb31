import AnnotationBridge.EventBus
import Mathlib.Data.List.Infix

/-!
# The delivery of events

Any number of subscribers follow a bus, each at its own pace, while events are announced. A
subscriber asks for its next event by looking until it finds one, or finds that the stream has
ended; between two looks anything may happen. It gets the events that were announced since it
subscribed, in order. It misses some only if it falls behind, and then the oldest ones that it has
not got.

* `Broadcast`: a bus with its subscribers. `Broadcast.perform`: what happens to it.
* `Broadcast.announced`: the events that are announced. `Broadcast.emitted_perform`: the bus takes
  them as long as it is held.
* `Broadcast.undelivered`, `Broadcast.kept`: the events that a subscriber has neither got nor
  missed. `Broadcast.finds`, `Broadcast.delivered`: what it finds and gets in the course of time.
* `Broadcast.Look`, `Broadcast.look_undelivered`: what one look finds, and what is left to be
  delivered.
* `Broadcast.exists_fates`: each event was delivered, was missed, or is still to be delivered; and
  none was missed by a subscriber that was never too far behind.
* `Broadcast.finds_filter`: what a subscriber finds does not depend on the looks of others.
* `Broadcast.delivery`: all of this for a subscriber from when it subscribed.
-/

namespace AnnotationBridge

/-- The event that a subscriber has found. -/
def Found.event? : Found → Option Event
  | .event e => some e
  | _ => none

/-- A bus with its subscribers, in the order in which they subscribed. -/
structure Broadcast where
  bus : EventBus
  readers : List Subscriber

namespace Broadcast

/-- What may happen: an event is announced, someone subscribes, a subscriber looks for its next
event, or the bus is given up. -/
inductive Op where
  | emit (event : Event)
  | subscribe
  | look (reader : Nat)
  | drop
  deriving DecidableEq

/-- Nothing has happened yet. -/
def start : Broadcast :=
  ⟨.empty, []⟩

/-- What happens. Only those who hold the bus can announce events and let others subscribe. -/
def perform (s : Broadcast) : Op → Broadcast
  | .emit e => if s.bus.held then { s with bus := s.bus.emit e } else s
  | .subscribe =>
    if s.bus.held then { s with readers := s.readers ++ [s.bus.feed.subscribe] } else s
  | .look i =>
    match s.readers[i]? with
    | some r => { s with readers := s.readers.set i (s.bus.receive r).2 }
    | none => s
  | .drop => { s with bus := s.bus.drop }

/-- What happens in order. -/
def performAll (s : Broadcast) (ops : List Op) : Broadcast :=
  ops.foldl perform s

/-- The event that a step announces, if those who hold the bus take it. -/
def Op.event? : Op → Option Event
  | .emit e => some e
  | _ => none

/-- The events that are announced while things happen: those of all steps until the bus is given
up. -/
def announced (ops : List Op) : List Event :=
  (ops.takeWhile (· ≠ .drop)).filterMap Op.event?

/-- What one step announces: its event, if the bus is still held. -/
def news (s : Broadcast) (op : Op) : List Event :=
  if s.bus.held then op.event?.toList else []

/-- The events that the bus has taken so far. -/
def emitted (s : Broadcast) : List Event :=
  s.bus.feed.emitted

/-- What a subscriber would find. -/
def found? (s : Broadcast) (i : Nat) : Option Found :=
  s.readers[i]?.map fun r => (s.bus.receive r).1

/-- What a subscriber finds while things happen. -/
def finds (i : Nat) (s : Broadcast) : List Op → List Found
  | [] => []
  | op :: ops => (if op = .look i then (s.found? i).toList else []) ++ finds i (s.perform op) ops

/-- The events that a subscriber gets while things happen. -/
def delivered (i : Nat) (s : Broadcast) (ops : List Op) : List Event :=
  (finds i s ops).filterMap Found.event?

/-- The events that a subscriber has neither got nor missed. -/
def undelivered (s : Broadcast) (i : Nat) : List Event :=
  match s.readers[i]? with
  | some r => s.emitted.drop r.position
  | none => []

/-- Those of them that are kept. -/
def kept (s : Broadcast) (i : Nat) : List Event :=
  (s.undelivered i).drop ((s.undelivered i).length - retainedEvents)

variable {s t : Broadcast} {op : Op} {ops : List Op} {i : Nat} {r : Subscriber}

/-- The events that a subscriber has neither got nor missed are those from its position on. -/
theorem undelivered_eq (h : s.readers[i]? = some r) : s.undelivered i = s.emitted.drop r.position := by
  unfold undelivered
  rw [h]

/-! ### One step -/

/-- No subscriber has read ahead. -/
def InRange (s : Broadcast) : Prop :=
  ∀ (i : Nat) (r : Subscriber), s.readers[i]? = some r → r.position ≤ s.emitted.length

/-- A look does not read ahead. -/
theorem position_receive_le {b : EventBus} (h : r.position ≤ b.feed.emitted.length) :
    (b.receive r).2.position ≤ b.feed.emitted.length := by
  by_cases hlt : r.position + retainedEvents < b.feed.emitted.length
  · rw [EventBus.receive_of_lt hlt]
    exact Nat.sub_le _ _
  · rw [EventBus.receive_of_le (Nat.not_lt.1 hlt)]
    cases he : b.feed.emitted[r.position]? with
    | none => exact h
    | some e => exact (List.getElem?_eq_some_iff.1 he).1

/-- What happens moves no subscriber but the one that looks. -/
theorem readers_perform (op : Op) (h : s.readers[i]? = some r) :
    (s.perform op).readers[i]? = some (if op = .look i then (s.bus.receive r).2 else r) := by
  obtain ⟨hi, -⟩ := List.getElem?_eq_some_iff.1 h
  cases op with
  | emit e =>
    rw [perform]
    split <;> exact h
  | drop => exact h
  | subscribe =>
    rw [perform]
    split
    · exact (List.getElem?_append_left hi).trans h
    · exact h
  | look j =>
    rw [perform]
    by_cases hj : j = i
    · obtain rfl := hj
      rw [h, if_pos rfl]
      exact List.getElem?_set_self hi
    · rw [if_neg (by simpa using hj)]
      split
      · exact (List.getElem?_set_ne hj).trans h
      · exact h

/-- The steps act on the bus alike, whoever reads. -/
theorem bus_perform (s : Broadcast) (op : Op) :
    (s.perform op).bus = match op with
      | .emit e => if s.bus.held then s.bus.emit e else s.bus
      | .drop => s.bus.drop
      | .subscribe | .look _ => s.bus := by
  cases op with
  | emit e | subscribe | look =>
    rw [perform]
    split <;> rfl
  | drop => rfl

/-- **The bus takes the event of a step** at its end, as long as someone holds it, and nothing
else. -/
theorem emitted_perform (s : Broadcast) (op : Op) :
    (s.perform op).emitted = s.emitted ++ s.news op := by
  unfold emitted news
  rw [bus_perform]
  cases op with
  | emit e =>
    dsimp only
    split
    · rfl
    · exact (List.append_nil _).symm
  | subscribe | look | drop => simp [Op.event?, EventBus.drop]

/-- The bus is held until it is given up. -/
theorem held_perform (s : Broadcast) (op : Op) :
    (s.perform op).bus.held = (s.bus.held && decide (op ≠ .drop)) := by
  rw [bus_perform]
  cases op with
  | emit e =>
    dsimp only
    split <;> simp [EventBus.emit, *]
  | drop => exact (Bool.and_false _).symm
  | subscribe | look => simp

/-- Looks bring no news. -/
theorem news_look (s : Broadcast) (i : Nat) : s.news (.look i) = [] :=
  ite_self _

/-- What happens keeps all subscribers in range. -/
theorem InRange.perform (hs : s.InRange) (op : Op) : (s.perform op).InRange := by
  have hle : s.emitted.length ≤ (s.perform op).emitted.length := by
    rw [emitted_perform, List.length_append]
    exact Nat.le_add_right _ _
  intro i r hr
  by_cases hold : i < s.readers.length
  · have hmoved := readers_perform op (List.getElem?_eq_getElem hold)
    obtain rfl := Option.some.inj (hr.symm.trans hmoved)
    have hr' := hs i _ (List.getElem?_eq_getElem hold)
    split
    · exact Nat.le_trans (position_receive_le hr') hle
    · exact Nat.le_trans hr' hle
  · -- This one has just subscribed.
    cases op with
    | subscribe =>
      rw [Broadcast.perform] at hr ⊢
      split at hr
      · rw [if_pos ‹_›]
        rw [List.getElem?_append_right (Nat.not_lt.1 hold)] at hr
        obtain rfl := List.mem_singleton.1 (List.mem_of_getElem? hr)
        exact Nat.le_refl _
      · exact absurd (List.getElem?_eq_some_iff.1 hr).1 hold
    | emit e =>
      rw [Broadcast.perform] at hr
      split at hr <;> exact absurd (List.getElem?_eq_some_iff.1 hr).1 hold
    | drop => exact absurd (List.getElem?_eq_some_iff.1 hr).1 hold
    | look j =>
      rw [Broadcast.perform] at hr
      split at hr
      · have hi := (List.getElem?_eq_some_iff.1 hr).1
        rw [List.length_set] at hi
        exact absurd hi hold
      · exact absurd (List.getElem?_eq_some_iff.1 hr).1 hold

/-- Positions stay within the stream. -/
theorem InRange.performAll (hs : s.InRange) (ops : List Op) : (s.performAll ops).InRange := by
  induction ops generalizing s with
  | nil => exact hs
  | cons op ops ih => exact ih (hs.perform op)

/-! ### One look -/

/-- The law of a look: what a subscriber finds, given the events that are still to be delivered to
it, and which of these are left. It gets the oldest one, unless more than a certain number are left;
then it misses the oldest ones, and that number is left. -/
inductive Look (held : Bool) : List Event → Found → List Event → Prop where
  | event {e : Event} {rest : List Event} (kept : (e :: rest).length ≤ retainedEvents) :
      Look held (e :: rest) (.event e) rest
  | lagged {missed rest : List Event} (behind : missed ≠ []) (kept : rest.length = retainedEvents) :
      Look held (missed ++ rest) (.lagged missed.length) rest
  | waiting (alive : held = true) : Look held [] .waiting []
  | ended (gone : held = false) : Look held [] .ended []

/-- What becomes of the events that a look takes away. None of them is missed by a subscriber that
is not too far behind. -/
theorem Look.exists_taken {held : Bool} {found : Found} {before rest : List Event}
    (h : Look held before found rest) :
    ∃ taken : List (Event × Bool), before = taken.map Prod.fst ++ rest ∧
      found.event?.toList = (taken.filter Prod.snd).map Prod.fst ∧
      (before.length ≤ retainedEvents → ∀ fate ∈ taken, fate.2 = true) := by
  cases h with
  | @event e rest kept =>
    refine ⟨[(e, true)], rfl, rfl, fun _ fate hfate => ?_⟩
    obtain rfl := List.mem_singleton.1 hfate
    rfl
  | @lagged missed rest behind kept =>
    refine ⟨missed.map (·, false), ?_, ?_, fun hnear => ?_⟩
    · simp [Function.comp_def]
    · simp [Found.event?, List.filter_map, Function.comp_def]
    · have hpos := List.length_pos_iff.2 behind
      rw [List.length_append] at hnear
      omega
  | waiting | ended => exact ⟨[], rfl, rfl, fun _ _ hfate => absurd hfate List.not_mem_nil⟩

/-- Each look of a subscriber obeys the law. -/
theorem look_receive {b : EventBus} (h : r.position ≤ b.feed.emitted.length) :
    Look b.held (b.feed.emitted.drop r.position) (b.receive r).1
      (b.feed.emitted.drop (b.receive r).2.position) := by
  by_cases hlt : r.position + retainedEvents < b.feed.emitted.length
  · obtain ⟨hbehind, hkept⟩ := EventBus.position_lt_oldest hlt
    rw [EventBus.receive_of_lt hlt]
    -- What is still to be delivered is cut at the oldest event that is kept.
    have hcut : b.feed.emitted.drop r.position =
        (b.feed.emitted.drop r.position).take (b.feed.oldest - r.position) ++
          b.feed.emitted.drop b.feed.oldest := by
      have hdrop := (List.take_append_drop (b.feed.oldest - r.position)
        (b.feed.emitted.drop r.position)).symm
      rwa [List.drop_drop, Nat.add_sub_cancel' (Nat.le_of_lt hbehind)] at hdrop
    have hmissed : ((b.feed.emitted.drop r.position).take (b.feed.oldest - r.position)).length =
        b.feed.oldest - r.position := by
      rw [List.length_take, List.length_drop]
      omega
    have hnonempty : (b.feed.emitted.drop r.position).take (b.feed.oldest - r.position) ≠ [] := by
      rw [← List.length_pos_iff, hmissed]
      omega
    have hrest : (b.feed.emitted.drop b.feed.oldest).length = retainedEvents := by
      rw [List.length_drop]
      omega
    have hlook : Look b.held _ _ _ := .lagged hnonempty hrest
    rwa [← hcut, hmissed] at hlook
  · have hle := Nat.not_lt.1 hlt
    rw [EventBus.receive_of_le hle]
    cases he : b.feed.emitted[r.position]? with
    | some e =>
      obtain ⟨hi, rfl⟩ := List.getElem?_eq_some_iff.1 he
      rw [List.drop_eq_getElem_cons hi]
      refine .event ?_
      rw [← List.drop_eq_getElem_cons hi, List.length_drop]
      omega
    | none =>
      have hall := List.drop_eq_nil_of_le (List.getElem?_eq_none_iff.1 he)
      simp only [hall]
      unfold EventBus.nothing
      split
      · exact .waiting ‹_›
      · exact .ended (Bool.eq_false_iff.2 ‹_›)

/-- **What a look of a subscriber finds and what it leaves.** -/
theorem look_undelivered (hs : s.InRange) (hi : i < s.readers.length) :
    ∃ found, s.found? i = some found ∧
      Look s.bus.held (s.undelivered i) found ((s.perform (.look i)).undelivered i) := by
  have hr := List.getElem?_eq_getElem hi
  have hmoved := readers_perform (.look i) hr
  rw [if_pos rfl] at hmoved
  refine ⟨_, congrArg (Option.map _) hr, ?_⟩
  rw [undelivered_eq hr, undelivered_eq hmoved, emitted_perform, news_look, List.append_nil]
  exact look_receive (hs i _ hr)

/-- Anything else leaves what is to be delivered to a subscriber, and adds what it announces. -/
theorem undelivered_perform (hs : s.InRange) (hi : i < s.readers.length) (hop : op ≠ .look i) :
    (s.perform op).undelivered i = s.undelivered i ++ s.news op := by
  have hr := List.getElem?_eq_getElem hi
  have hkept := readers_perform op hr
  rw [if_neg hop] at hkept
  rw [undelivered_eq hr, undelivered_eq hkept, emitted_perform,
    List.drop_append_of_le_length (hs i _ hr)]

/-- Subscribers stay. -/
theorem readers_length_le (s : Broadcast) (op : Op) :
    s.readers.length ≤ (s.perform op).readers.length := by
  cases op with
  | emit e =>
    rw [perform]
    split <;> exact Nat.le_refl _
  | subscribe =>
    rw [perform]
    split
    · rw [List.length_append]
      exact Nat.le_add_right _ _
    · exact Nat.le_refl _
  | look j =>
    rw [perform]
    split
    · exact Nat.le_of_eq List.length_set.symm
    · exact Nat.le_refl _
  | drop => exact Nat.le_refl _

/-! ### In the course of time -/

/-- A look of the subscriber delivers what it finds. -/
theorem delivered_look {found : Found} (h : s.found? i = some found) (ops : List Op) :
    delivered i s (.look i :: ops) =
      found.event?.toList ++ delivered i (s.perform (.look i)) ops := by
  unfold delivered
  rw [finds, if_pos rfl, h, List.filterMap_append]
  cases found <;> rfl

/-- Nothing else delivers an event to it. -/
theorem delivered_of_ne (h : op ≠ .look i) (ops : List Op) :
    delivered i s (op :: ops) = delivered i (s.perform op) ops := by
  unfold delivered
  rw [finds, if_neg h]
  rfl

/-- What is announced from now on, step by step. -/
theorem announced_cons (held : s.bus.held = true) (op : Op) (ops : List Op) :
    announced (op :: ops) =
      s.news op ++ if (s.perform op).bus.held then announced ops else [] := by
  rw [held_perform, held, news, held, announced, List.takeWhile_cons]
  cases op <;> rfl

/-- **Each event was delivered, was missed, or is still to be delivered**, in this order: what has
become of the events that were to be delivered to a subscriber or were announced since. If it was
never too far behind, it has missed none. -/
theorem exists_fates (hs : s.InRange) (hi : i < s.readers.length) (ops : List Op) :
    ∃ fates : List (Event × Bool),
      (s.undelivered i ++ if s.bus.held then announced ops else []) =
        fates.map Prod.fst ++ (s.performAll ops).undelivered i ∧
      delivered i s ops = (fates.filter Prod.snd).map Prod.fst ∧
      ((∀ mid, mid <+: ops → ((s.performAll mid).undelivered i).length ≤ retainedEvents) →
        ∀ fate ∈ fates, fate.2 = true) := by
  induction ops generalizing s with
  | nil =>
    exact ⟨[], (congrArg _ (ite_self _)).trans (List.append_nil _), rfl,
      fun _ _ hfate => absurd hfate List.not_mem_nil⟩
  | cons op ops ih =>
    obtain ⟨fates, hfates, hdelivered, hnear⟩ :=
      ih (hs.perform op) (Nat.lt_of_lt_of_le hi (readers_length_le s op))
    have hnear' : (∀ mid, mid <+: op :: ops →
        ((s.performAll mid).undelivered i).length ≤ retainedEvents) → ∀ fate ∈ fates, fate.2 = true :=
      fun near => hnear fun mid hmid => near (op :: mid) (List.cons_prefix_cons.2 ⟨rfl, hmid⟩)
    have hsplit : (if s.bus.held then announced (op :: ops) else []) =
        s.news op ++ if (s.perform op).bus.held then announced ops else [] := by
      cases hheld : s.bus.held with
      | true => exact announced_cons hheld op ops
      | false => simp [news, held_perform, hheld]
    rw [hsplit]
    by_cases hop : op = .look i
    · obtain rfl := hop
      obtain ⟨found, hfound, hlook⟩ := look_undelivered hs hi
      -- The look settles the fate of the events that it takes away.
      obtain ⟨taken, htaken, hevent, hall⟩ := hlook.exists_taken
      refine ⟨taken ++ fates, ?_, ?_, fun near fate hfate => ?_⟩
      · rw [news_look, List.nil_append, htaken, List.append_assoc, hfates, List.map_append,
          List.append_assoc]
        rfl
      · rw [List.filter_append, List.map_append, ← hevent, ← hdelivered, delivered_look hfound]
      · obtain hfate | hfate := List.mem_append.1 hfate
        · exact hall (near [] List.nil_prefix) fate hfate
        · exact hnear' near fate hfate
    · refine ⟨fates, ?_, ?_, hnear'⟩
      · rw [← List.append_assoc, ← undelivered_perform hs hi hop, hfates]
        rfl
      · rw [← hdelivered, delivered_of_ne hop]

/-! ### Subscribers among each other -/

/-- Whether a step can change what a subscriber finds: it is neither the look of another one nor a
subscription. -/
def concerns (i : Nat) : Op → Bool
  | .emit _ | .drop => true
  | .subscribe => false
  | .look j => j == i

/-- **What a subscriber finds does not depend on who else subscribes and looks**, and how often. -/
theorem finds_filter (hbus : s.bus = t.bus) (hs : s.readers[i]? = some r)
    (ht : t.readers[i]? = some r) (ops : List Op) :
    finds i s ops = finds i t (ops.filter (concerns i)) := by
  induction ops generalizing s t r with
  | nil => rfl
  | cons op ops ih =>
    by_cases hop : concerns i op = true
    · rw [List.filter_cons_of_pos hop, finds, finds]
      refine congrArg₂ (· ++ ·) ?_ (ih ?_ (readers_perform op hs) ?_)
      · unfold found?
        rw [hs, ht, hbus]
      · rw [bus_perform, bus_perform, hbus]
      · rw [readers_perform op ht, hbus]
    · have hother : op ≠ .look i := by
        rintro rfl
        exact hop (beq_self_eq_true i)
      rw [List.filter_cons_of_neg hop, finds, if_neg hother, List.nil_append]
      refine ih ?_ (readers_perform op hs) ?_
      · rw [bus_perform, ← hbus]
        cases op <;> first | rfl | exact absurd rfl hop
      · rw [if_neg hother, ht]

/-! ### The next event -/

/-- **What a subscriber finds in the end** is the oldest event that is still to be delivered to it
and is kept. -/
theorem next_undelivered (hr : s.readers[i]? = some r) :
    (s.bus.next r).1 = ((s.kept i).head?.map Found.event).getD s.bus.nothing := by
  have hread : s.bus.feed.readPosition r =
      r.position + ((s.undelivered i).length - retainedEvents) := by
    rw [undelivered_eq hr, List.length_drop]
    unfold EventFeed.readPosition emitted
    omega
  have hkept : s.kept i = s.emitted.drop (s.bus.feed.readPosition r) := by
    rw [hread, ← List.drop_drop, ← undelivered_eq hr]
    rfl
  rw [EventBus.next_eq, hkept, List.head?_drop]
  unfold EventFeed.next? emitted
  cases s.bus.feed.emitted[s.bus.feed.readPosition r]? <;> rfl

/-- **A subscriber finds that the stream has ended** only if the bus is gone and nothing is left to
be delivered to it. -/
theorem next_ended_iff (hr : s.readers[i]? = some r) :
    (s.bus.next r).1 = .ended ↔ s.bus.held = false ∧ s.undelivered i = [] := by
  have hpos : 0 < retainedEvents := by decide
  have hnothing : s.bus.nothing = .ended ↔ s.bus.held = false := by
    unfold EventBus.nothing
    cases s.bus.held <;> simp
  rw [next_undelivered hr]
  cases hkept : s.kept i with
  | cons e rest =>
    have hsome : s.undelivered i ≠ [] := by
      intro hnil
      rw [kept, hnil] at hkept
      cases hkept
    exact ⟨fun h => Found.noConfusion h, fun h => absurd h.2 hsome⟩
  | nil =>
    have hnone : s.undelivered i = [] := by
      have hlength := List.drop_eq_nil_iff.1 hkept
      exact List.length_eq_zero_iff.1 (by omega)
    exact hnothing.trans ⟨fun h => ⟨h, hnone⟩, And.left⟩

/-! ### From the subscription on -/

/-- How events are delivered to a subscriber of a bus that is held, while things happen. -/
structure Delivery (s : Broadcast) (i : Nat) (ops : List Op) : Prop where
  /-- The bus is held until it is given up. -/
  held : ∀ mid, mid <+: ops → ((s.performAll mid).bus.held = true ↔ .drop ∉ mid)
  /-- Each event that was announced was delivered, was missed, or is still to be delivered, in this
  order. -/
  fates : ∃ fates : List (Event × Bool),
    announced ops = fates.map Prod.fst ++ (s.performAll ops).undelivered i ∧
    delivered i s ops = (fates.filter Prod.snd).map Prod.fst
  /-- So the subscriber gets events that were announced, in order and each once. -/
  inOrder : (delivered i s ops).Sublist (announced ops)
  /-- Each look takes the oldest event that is still to be delivered, or misses the oldest ones if
  too many are. -/
  looks : ∀ mid rest, ops = mid ++ .look i :: rest → ∃ found,
    (s.performAll mid).found? i = some found ∧
    Look (s.performAll mid).bus.held ((s.performAll mid).undelivered i) found
      ((s.performAll (mid ++ [.look i])).undelivered i)
  /-- Nothing else takes away what is still to be delivered, and what is announced is added to
  it. -/
  others : ∀ mid op rest, ops = mid ++ op :: rest → op ≠ .look i →
    (s.performAll (mid ++ [op])).undelivered i =
      (s.performAll mid).undelivered i ++ if .drop ∈ mid then [] else op.event?.toList
  /-- A subscriber that was never too far behind has missed nothing. -/
  complete : (∀ mid, mid <+: ops →
      ((s.performAll mid).undelivered i).length ≤ retainedEvents) →
    announced ops = delivered i s ops ++ (s.performAll ops).undelivered i
  /-- What the subscriber finds is the same however others subscribe and look. -/
  independent : ∀ other : List Op, other.filter (concerns i) = ops.filter (concerns i) →
    finds i s other = finds i s ops
  /-- When the subscriber looks until it finds an event, it gets the oldest one that is still to be
  delivered and is kept. It finds that the stream has ended only if the bus was given up and nothing
  is left. -/
  next : ∃ r, (s.performAll ops).readers[i]? = some r ∧
    ((s.performAll ops).bus.next r).1 =
      (((s.performAll ops).kept i).head?.map Found.event).getD (s.performAll ops).bus.nothing ∧
    (((s.performAll ops).bus.next r).1 = .ended ↔
      .drop ∈ ops ∧ (s.performAll ops).undelivered i = [])

/-- What happens can be cut in two. -/
theorem performAll_append (s : Broadcast) (ops later : List Op) :
    s.performAll (ops ++ later) = (s.performAll ops).performAll later :=
  List.foldl_append

/-- Subscribers stay, whatever happens. -/
theorem readers_length_performAll (s : Broadcast) (ops : List Op) :
    s.readers.length ≤ (s.performAll ops).readers.length := by
  induction ops generalizing s with
  | nil => exact Nat.le_refl _
  | cons op ops ih => exact Nat.le_trans (readers_length_le s op) (ih (s.perform op))

/-- The bus is held as long as it is not dropped. -/
theorem held_performAll (s : Broadcast) (ops : List Op) :
    (s.performAll ops).bus.held = (s.bus.held && decide (.drop ∉ ops)) := by
  induction ops generalizing s with
  | nil => exact (Bool.and_true _).symm
  | cons op ops ih =>
    have hcons : (op ≠ .drop ∧ .drop ∉ ops) = (.drop ∉ op :: ops) := by
      rw [List.mem_cons, not_or, ne_comm]
    refine (ih (s.perform op)).trans ?_
    rw [held_perform, Bool.and_assoc, ← Bool.decide_and]
    simp only [hcons]

/-- A bus that is held is held until it is given up. -/
theorem held_performAll_iff (held : s.bus.held = true) (ops : List Op) :
    (s.performAll ops).bus.held = true ↔ .drop ∉ ops := by
  rw [held_performAll, held, Bool.true_and, decide_eq_true_iff]

/-- No one has subscribed at the start. -/
theorem inRange_start : start.InRange := by
  intro i r h
  cases h

/-- **Events are delivered in order, and lost only by those who fall behind.** Whatever happened
before someone subscribes to a bus that is not yet gone, and whatever happens then: what is
announced from then on is delivered, missed or still to be delivered, and each look gets the oldest
event that is still to be delivered, unless more than a certain number are. -/
theorem delivery (before after : List Op) (held : (start.performAll before).bus.held = true) :
    Delivery ((start.performAll before).perform .subscribe)
      (start.performAll before).readers.length after := by
  generalize hb : start.performAll before = b at held
  have hrange : b.InRange := hb ▸ inRange_start.performAll before
  have hsub : b.perform .subscribe = { b with readers := b.readers ++ [b.bus.feed.subscribe] } :=
    if_pos held
  have hs : (b.perform .subscribe).InRange := hrange.perform .subscribe
  have hheld : (b.perform .subscribe).bus.held = true := hsub ▸ held
  have hr : (b.perform .subscribe).readers[b.readers.length]? = some b.bus.feed.subscribe := by
    rw [hsub]
    exact List.getElem?_concat_length
  -- Nothing is to be delivered to the one that has just subscribed.
  have hnone : (b.perform .subscribe).undelivered b.readers.length = [] := by
    rw [undelivered_eq hr, hsub]
    exact List.drop_length
  generalize b.perform .subscribe = s, b.readers.length = i at hs hheld hr hnone
  have hi : i < s.readers.length := (List.getElem?_eq_some_iff.1 hr).1
  have hmid : ∀ mid, i < (s.performAll mid).readers.length := fun mid =>
    Nat.lt_of_lt_of_le hi (readers_length_performAll s mid)
  obtain ⟨fates, hfates, hdelivered, hnear⟩ := exists_fates hs hi after
  rw [hnone, List.nil_append, if_pos hheld] at hfates
  have hlast := List.getElem?_eq_getElem (hmid after)
  refine
    { held := fun mid _ => held_performAll_iff hheld mid
      fates := ⟨fates, hfates, hdelivered⟩
      inOrder := ?_
      looks := fun mid rest _ => ?_
      others := fun mid op rest _ hop => ?_
      complete := fun near => ?_
      independent := fun other hother => ?_
      next := ⟨_, hlast, next_undelivered hlast, (next_ended_iff hlast).trans (and_congr_left' ?_)⟩ }
  · rw [hdelivered, hfates]
    exact (List.filter_sublist.map _).trans (List.sublist_append_left _ _)
  · rw [performAll_append]
    exact look_undelivered (hs.performAll mid) (hmid mid)
  · rw [performAll_append]
    refine (undelivered_perform (hs.performAll mid) (hmid mid) hop).trans (congrArg _ ?_)
    rw [news]
    by_cases hdrop : .drop ∈ mid
    · rw [if_pos hdrop, if_neg fun h => (held_performAll_iff hheld mid).1 h hdrop]
    · rw [if_neg hdrop, if_pos ((held_performAll_iff hheld mid).2 hdrop)]
  · rw [hfates, hdelivered, List.filter_eq_self.2 (hnear near)]
  · rw [finds_filter rfl hr hr other, hother, ← finds_filter rfl hr hr after]
  · rw [← Bool.not_eq_true, held_performAll_iff hheld, not_not]

namespace Sample

/-- What happens after a first subscriber has come: another one comes after an event, and both look
while more is announced, until the bus is gone. -/
def course : List Op :=
  [.emit (.applied ⟨1⟩ 2), .subscribe, .look 0, .emit (.closed ⟨1⟩), .drop, .emit (.opened ⟨2⟩),
    .look 1, .look 0, .look 0]

end Sample

/-- A subscriber that looks three times gets the two events that were announced since it came, not
the one before and not the one that nobody could announce any more, and finds that the stream has
ended. Another one, which came after the first of the two, gets the second. -/
theorem delivery_two_events :
    (start.performAll [.emit (.opened ⟨1⟩)]).bus.held = true ∧
      announced Sample.course = [.applied ⟨1⟩ 2, .closed ⟨1⟩] ∧
      delivered 0 ((start.performAll [.emit (.opened ⟨1⟩)]).perform .subscribe) Sample.course =
        [.applied ⟨1⟩ 2, .closed ⟨1⟩] ∧
      delivered 1 ((start.performAll [.emit (.opened ⟨1⟩), .subscribe,
          .emit (.applied ⟨1⟩ 2)]).perform .subscribe) (Sample.course.drop 2) = [.closed ⟨1⟩] := by
  have first := delivery [.emit (.opened ⟨1⟩)] Sample.course rfl
  have second := delivery [.emit (.opened ⟨1⟩), .subscribe, .emit (.applied ⟨1⟩ 2)]
    (Sample.course.drop 2) rfl
  have near : ∀ mid ∈ Sample.course.inits, ((((start.performAll [.emit (.opened ⟨1⟩)]).perform
      .subscribe).performAll mid).undelivered 0).length ≤ retainedEvents := by decide
  have near' : ∀ mid ∈ (Sample.course.drop 2).inits, ((((start.performAll [.emit (.opened ⟨1⟩),
      .subscribe, .emit (.applied ⟨1⟩ 2)]).perform .subscribe).performAll mid).undelivered 1).length ≤
        retainedEvents := by decide
  -- Neither has fallen behind, and nothing is left to be delivered to them.
  have hfirst := first.complete fun mid hmid => near mid ((List.mem_inits _ _).2 hmid)
  have hsecond := second.complete fun mid hmid => near' mid ((List.mem_inits _ _).2 hmid)
  exact ⟨rfl, by decide, ((List.append_nil _).symm.trans hfirst.symm).trans (by decide),
    ((List.append_nil _).symm.trans hsecond.symm).trans (by decide)⟩

end Broadcast

end AnnotationBridge
