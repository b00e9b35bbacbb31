import AnnotationBridge.Proofs.Exchange

/-!
# What becomes of the requests of a pass

Clients decide what becomes of a request, and when. Any way in which the requests of a pass can turn
out, each by itself, is that of some clients.

* `Pass.withClients`: a pass with other clients at the far ends.
* `Exchange.Behaves`: what becomes of the requests of a pass that is asked now.
* `Exchange.exists_behaves`: nothing that can be said of the single requests is impossible.
-/

namespace AnnotationBridge

open Lsp

/-- The pass in which other clients are at the far ends of the connections. -/
def Pass.withClients (p : Pass) (clients : Connection → Client) : Pass :=
  { p with inquiries := p.inquiries.map fun i =>
      { i with connection := { i.connection with client := clients i.connection } } }

/-- Other clients are asked the same. -/
theorem Pass.requests_withClients (p : Pass) (clients : Connection → Client) :
    (p.withClients clients).requests = p.requests := by
  unfold requests withClients
  rw [List.flatMap_map]

namespace Exchange

variable {x : Exchange} {p : Pass} {β : RequestId → Reply}

/-- What becomes of the requests of a pass that is asked now. -/
def Behaves (x : Exchange) (p : Pass) (β : RequestId → Reply) : Prop :=
  ∀ s ∈ (x.ask p).1,
    s.ending = (β s.request).outcome.map fun outcome => ⟨x.now + (β s.request).delayMs, outcome⟩

/-! ### Clients for a behaviour -/

end Exchange

/-- A client that goes through a list of replies, after it has received a number of requests. -/
def Client.scripted (earlier : Nat) (replies : List Reply) : Client where
  reply n _ := replies[n - earlier]?.getD ⟨0, none⟩

/-- The identifiers of the requests that inquiries put to a connection, in order. -/
def Inquiry.idsTo (id : ConnectionId) (is : List Inquiry) : List RequestId :=
  (is.filter fun i => decide (i.connection.id = id) && i.connection.support.isSupported).flatMap
    (·.requests.map Request.id)

/-- The requests to a connection are those of the first inquiry, if that is to it, and those of the
others. -/
theorem Inquiry.idsTo_cons (id : ConnectionId) (i : Inquiry) (is : List Inquiry) :
    idsTo id (i :: is) =
      (if i.connection.id = id ∧ i.connection.support.isSupported = true then
        i.requests.map Request.id else []) ++ idsTo id is := by
  unfold idsTo
  rw [List.filter_cons]
  by_cases h : i.connection.id = id ∧ i.connection.support.isSupported = true <;> simp [h]

namespace Exchange

/-- A request that is sent is one more that its connection has received. -/
theorem length_receivedBy_send (x : Exchange) (uri : Uri) (c : Connection) (r : Request)
    (id : ConnectionId) :
    ((x.send uri c r).2.receivedBy id).length =
      (x.receivedBy id).length + if c.id = id then 1 else 0 := by
  unfold receivedBy send
  dsimp only
  rw [List.filter_append, List.map_append, List.length_append]
  by_cases hid : c.id = id <;> simp [hid]

/-- Each request that is sent is one more. -/
theorem length_receivedBy_sendAll (x : Exchange) (uri : Uri) (c : Connection) (rs : List Request)
    (id : ConnectionId) :
    ((x.sendAll uri c rs).2.receivedBy id).length =
      (x.receivedBy id).length + if c.id = id then rs.length else 0 := by
  induction rs generalizing x with
  | nil => by_cases hid : c.id = id <;> simp [sendAll]
  | cons r rs ih =>
    show (((x.send uri c r).2.sendAll uri c rs).2.receivedBy id).length = _
    rw [ih, length_receivedBy_send]
    by_cases hid : c.id = id
    · rw [if_pos hid, if_pos hid, if_pos hid, List.length_cons, Nat.add_assoc, Nat.add_comm 1]
    · rw [if_neg hid, if_neg hid, if_neg hid, Nat.add_zero]

/-- A scripted client that has come to the replies to some requests gives them those replies. -/
theorem sendAll_scripted (x : Exchange) (uri : Uri) (c : Connection) {start : Nat}
    {ids rest : List RequestId} (rs : List Request)
    (hclient : c.client = .scripted start (ids.map β)) (hstart : start ≤ (x.receivedBy c.id).length)
    (hids : ids.drop ((x.receivedBy c.id).length - start) = rs.map Request.id ++ rest) :
    ∀ s ∈ (x.sendAll uri c rs).1, s.ending =
      (β s.request).outcome.map fun outcome => ⟨x.now + (β s.request).delayMs, outcome⟩ := by
  induction rs generalizing x with
  | nil => exact fun s hs => absurd hs List.not_mem_nil
  | cons r rs ih =>
    have hlength := length_receivedBy_send x uri c r c.id
    rw [if_pos rfl] at hlength
    intro s hs
    rcases List.mem_cons.1 hs with rfl | hs
    · have hget : ids[(x.receivedBy c.id).length - start]? = some r.id := by
        have hhead := congrArg (·[0]?) hids
        rw [List.getElem?_drop] at hhead
        exact hhead
      have hreply : c.client.reply (x.receivedBy c.id).length
          (.about uri r.marker.diagnostic) = β r.id := by
        rw [hclient]
        show ((ids.map β)[(x.receivedBy c.id).length - start]?).getD _ = _
        rw [List.getElem?_map, hget]
        rfl
      show (c.client.reply _ _).outcome.map _ = _
      rw [hreply]
    · refine ih (x.send uri c r).2 ?_ ?_ s hs
      · omega
      · have htail := congrArg List.tail hids
        rw [List.tail_drop] at htail
        rw [hlength, show (x.receivedBy c.id).length + 1 - start =
          (x.receivedBy c.id).length - start + 1 by omega]
        exact htail

/-- What a connection has received after an inquiry. -/
theorem length_receivedBy_inquire (x : Exchange) (uri : Uri) (i : Inquiry) (id : ConnectionId) :
    ((x.inquire uri i).2.receivedBy id).length = (x.receivedBy id).length +
      if i.connection.id = id ∧ i.connection.support.isSupported = true then i.requests.length
      else 0 := by
  unfold inquire
  by_cases hsupport : i.connection.support.isSupported = true
  · rw [if_pos hsupport, length_receivedBy_sendAll]
    by_cases hid : i.connection.id = id <;> simp [hid, hsupport]
  · rw [if_neg hsupport, if_neg fun h => hsupport h.2]
    rfl

/-- Scripted clients that have come to the replies to the requests of some inquiries give them those
replies. -/
theorem inquireAll_scripted (x : Exchange) (uri : Uri) {earlier : ConnectionId → Nat}
    {ids : ConnectionId → List RequestId} (is : List Inquiry)
    (hclient : ∀ i ∈ is, i.connection.client =
      .scripted (earlier i.connection.id) ((ids i.connection.id).map β))
    (hstart : ∀ id, earlier id ≤ (x.receivedBy id).length)
    (hids : ∀ id, (ids id).drop ((x.receivedBy id).length - earlier id) = Inquiry.idsTo id is) :
    ∀ s ∈ (x.inquireAll uri is).1, s.ending =
      (β s.request).outcome.map fun outcome => ⟨x.now + (β s.request).delayMs, outcome⟩ := by
  induction is generalizing x with
  | nil => exact fun s hs => absurd hs List.not_mem_nil
  | cons i is ih =>
    intro s hs
    rw [inquireAll_cons] at hs
    rcases List.mem_append.1 hs with hs | hs
    · unfold inquire at hs
      by_cases hsupport : i.connection.support.isSupported = true
      · rw [if_pos hsupport] at hs
        have hthis := hids i.connection.id
        rw [Inquiry.idsTo_cons, if_pos ⟨rfl, hsupport⟩] at hthis
        exact sendAll_scripted x uri _ i.requests (hclient i List.mem_cons_self)
          (hstart i.connection.id) hthis s hs
      · rw [if_neg hsupport] at hs
        cases hs
    · have hnow : (x.inquire uri i).2.now = x.now := by
        unfold inquire
        split
        · exact (sendAll_sends x uri i.connection i.requests).1.now
        · rfl
      rw [← hnow]
      refine ih (x.inquire uri i).2 (fun j hj => hclient j (List.mem_cons_of_mem i hj))
        (fun id => ?_) (fun id => ?_) s hs
      · rw [length_receivedBy_inquire]
        exact Nat.le_trans (hstart id) (Nat.le_add_right _ _)
      · have hid := hids id
        rw [Inquiry.idsTo_cons] at hid
        rw [length_receivedBy_inquire]
        by_cases hthis : i.connection.id = id ∧ i.connection.support.isSupported = true
        · rw [if_pos hthis] at hid ⊢
          have hdrop := congrArg (List.drop i.requests.length) hid
          rw [List.drop_drop, ← List.length_map (f := Request.id), List.drop_left,
            List.length_map] at hdrop
          rw [Nat.sub_add_comm (hstart id)]
          exact hdrop
        · rw [if_neg hthis] at hid ⊢
          exact hid

/-- **Whatever is said of the single requests of a pass, some clients behave like that.** -/
theorem exists_behaves (x : Exchange) (p : Pass) (β : RequestId → Reply) :
    ∃ clients, x.Behaves (p.withClients clients) β := by
  let clients (c : Connection) : Client :=
    .scripted (x.receivedBy c.id).length ((Inquiry.idsTo c.id p.inquiries).map β)
  have hids : ∀ id, (Inquiry.idsTo id p.inquiries).drop
      ((x.receivedBy id).length - (x.receivedBy id).length) =
        Inquiry.idsTo id (p.withClients clients).inquiries := fun id => by
    rw [Nat.sub_self, List.drop_zero]
    unfold Inquiry.idsTo Pass.withClients
    rw [List.filter_map, List.flatMap_map]
    rfl
  have hclient : ∀ i ∈ (p.withClients clients).inquiries, i.connection.client =
      .scripted (x.receivedBy i.connection.id).length
        ((Inquiry.idsTo i.connection.id p.inquiries).map β) := fun i hi => by
    obtain ⟨j, -, rfl⟩ := List.mem_map.1 hi
    rfl
  exact ⟨clients, inquireAll_scripted x p.document.uri _ hclient (fun id => Nat.le_refl _) hids⟩

end Exchange

end AnnotationBridge
