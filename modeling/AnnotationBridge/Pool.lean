import AnnotationBridge.Annotation
import AnnotationBridge.Client
import AnnotationBridge.Config
import AnnotationBridge.Document
import AnnotationBridge.Lsp.Capability

/-!
# Connections

A `Connection` is a live session with a server. The `ConnectionPool` holds all of them, together
with the definitions that say which server looks at which documents.

* `ConnectionPool.register`, `ConnectionPool.unregister`: changing the pool.
* `ConnectionPool.resolve`: the connections for a document, in order of server and age.
-/

namespace AnnotationBridge

open Lsp

/-- A session with a server. What the server advertises stays the same as long as it lasts. -/
structure Connection where
  id : ConnectionId
  server : String
  capabilities : Capabilities
  client : Client

namespace Connection

/-- Whether the server offers code actions. -/
def support (c : Connection) : CodeActionSupport :=
  .ofCapabilities c.capabilities

/-- The order of connections: by server, and for one server by age. -/
def before (c d : Connection) : Bool :=
  decide (c.server < d.server) || (c.server == d.server && c.id.number ≤ d.id.number)

end Connection

/-- The live connections of a workspace. -/
structure ConnectionPool where
  workspace : Workspace
  /-- The definitions of servers by name. -/
  definitions : List (String × ServerConfig)
  live : List Connection

namespace ConnectionPool

/-- A pool without connections. -/
def empty (workspace : Workspace) (config : Config) : ConnectionPool :=
  ⟨workspace, config.servers, []⟩

/-- The connection of an identifier. -/
def get? (p : ConnectionPool) (id : ConnectionId) : Option Connection :=
  p.live.find? (·.id = id)

/-- The pool without a connection. -/
def unregister (p : ConnectionPool) (id : ConnectionId) : ConnectionPool :=
  { p with live := p.live.filter (·.id ≠ id) }

/-- The pool with one more connection. -/
def register (p : ConnectionPool) (c : Connection) : ConnectionPool :=
  { p with live := (p.unregister c.id).live ++ [c] }

/-- The number of live connections. -/
def size (p : ConnectionPool) : Nat :=
  p.live.length

/-- Whether the server of a connection looks at a document. A server without a definition looks at
every document. -/
def appliesTo (p : ConnectionPool) (c : Connection) (d : Document) : Bool :=
  ((p.definitions.lookup c.server).map (·.appliesTo d.language)).getD true

/-- The connections for a document whose capabilities are accepted. A document outside the workspace
has none. -/
def resolve (p : ConnectionPool) (d : Document) (accepts : Capabilities → Bool) :
    List Connection :=
  match p.workspace.resourceFor d.uri with
  | .error _ => []
  | .ok _ =>
    (p.live.filter fun c => p.appliesTo c d && accepts c.capabilities).mergeSort Connection.before

/-- The connections for a document are live ones whose server looks at it and whose capabilities are
accepted. -/
theorem mem_resolve {p : ConnectionPool} {d : Document} {accepts : Capabilities → Bool}
    {c : Connection} (h : c ∈ p.resolve d accepts) :
    c ∈ p.live ∧ p.appliesTo c d = true ∧ accepts c.capabilities = true := by
  unfold resolve at h
  split at h
  · cases h
  · rw [List.mem_mergeSort, List.mem_filter, Bool.and_eq_true] at h
    exact h

/-- The other connections go on. -/
theorem mem_live_unregister_iff {p : ConnectionPool} {id : ConnectionId} {c : Connection} :
    c ∈ (p.unregister id).live ↔ c ∈ p.live ∧ c.id ≠ id := by
  rw [unregister, List.mem_filter, decide_eq_true_eq]

/-- A new connection is live, and so are the others. -/
theorem mem_live_register_iff {p : ConnectionPool} {c c' : Connection} :
    c ∈ (p.register c').live ↔ (c ∈ p.live ∧ c.id ≠ c'.id) ∨ c = c' := by
  rw [register, List.mem_append, mem_live_unregister_iff, List.mem_singleton]

/-- Ending a connection leaves identifiers distinct. -/
theorem nodup_id_unregister {p : ConnectionPool} (distinct : (p.live.map Connection.id).Nodup)
    (id : ConnectionId) : ((p.unregister id).live.map Connection.id).Nodup :=
  distinct.sublist (List.filter_sublist.map Connection.id)

/-- A connection takes the place of the one with its identifier. -/
theorem nodup_id_register {p : ConnectionPool} (distinct : (p.live.map Connection.id).Nodup)
    (c : Connection) : ((p.register c).live.map Connection.id).Nodup := by
  rw [register, List.map_append, List.nodup_append]
  refine ⟨nodup_id_unregister distinct c.id, by simp, ?_⟩
  intro id hid id' hid' heq
  obtain ⟨c', hc', rfl⟩ := List.mem_map.1 hid
  obtain rfl := List.mem_singleton.1 hid'
  exact (mem_live_unregister_iff.1 hc').2 heq

end ConnectionPool

end AnnotationBridge
