import AnnotationBridge.Pool
import AnnotationBridge.Proofs.Ascending
import AnnotationBridge.Proofs.History
import Mathlib.Data.List.Induction
import Mathlib.Data.List.Nodup
import Mathlib.Data.Nat.Basic
import Mathlib.Data.Prod.Lex
import Mathlib.Data.String.Basic

/-!
# The connections for a document

What a pool resolves a document to does not tell in which order its connections came, nor how the
pool holds them: it is the ascending list of those that are registered, whose server looks at the
document and whose capabilities are accepted.

* `PoolCall`, `ConnectionPool.ofCalls`: what is asked of a pool, and the pool after any number of
  calls.
* `ConnectionPool.Registered`: a connection that is registered and not since unregistered.
  `ConnectionPool.mem_live_ofCalls_iff`: these are the live ones.
* `ConnectionPool.LooksAt`: whether a server looks at documents of a language, by its definition.
* `Connection.key`: what connections are ordered by. `ConnectionPool.pairwise_key_resolve`.
* `ConnectionPool.resolve_eq_of_mem_live_iff`: what is resolved depends on which connections are
  live.
* `ConnectionPool.resolve_ofCalls`: all this after any calls.
-/

namespace AnnotationBridge

open Lsp

/-- A call of an operation that changes a pool. -/
inductive PoolCall where
  | register (c : Connection)
  | unregister (id : ConnectionId)

/-- Whether a call ends the connection of an identifier: it takes the connection out of the pool, or
puts one in its place. -/
def PoolCall.Ends (id : ConnectionId) : PoolCall → Prop
  | .register c => c.id = id
  | .unregister id' => id' = id

namespace Connection

/-- Connections are ordered by their server, and those of one server by their age. -/
def key (c : Connection) : String ×ₗ Nat :=
  toLex (c.server, c.id.number)

/-- Connections are ordered by their keys. -/
theorem before_eq_true_iff {c d : Connection} : c.before d = true ↔ c.key ≤ d.key := by
  rw [key, key, Prod.Lex.toLex_le_toLex, before]
  simp

/-- Connections with different identifiers have different keys. -/
theorem nodup_key {l : List Connection} (distinct : (l.map Connection.id).Nodup) :
    (l.map key).Nodup := by
  have hid : l.map Connection.id = (l.map key).map fun k => ⟨(ofLex k).2⟩ := by
    rw [List.map_map]
    rfl
  rw [hid] at distinct
  exact distinct.of_map _

end Connection

namespace ConnectionPool

variable {p q : ConnectionPool} {c c' : Connection} {cs cs' : List PoolCall} {id : ConnectionId}
  {d : Document} {accepts : Capabilities → Bool} {workspace : Workspace} {config : Config}

/-! ### Calls -/

/-- The pool after a call. -/
def call (p : ConnectionPool) : PoolCall → ConnectionPool
  | .register c => p.register c
  | .unregister id => p.unregister id

/-- The pool after calls in order, which held no connection before. -/
def ofCalls (workspace : Workspace) (config : Config) (cs : List PoolCall) : ConnectionPool :=
  cs.foldl call (empty workspace config)

/-- The last call is made on what the others have left. -/
theorem ofCalls_concat (cs : List PoolCall) (x : PoolCall) :
    ofCalls workspace config (cs ++ [x]) = (ofCalls workspace config cs).call x := by
  rw [ofCalls, List.foldl_append]
  rfl

/-- No call changes the workspace. -/
theorem workspace_ofCalls (workspace : Workspace) (config : Config) (cs : List PoolCall) :
    (ofCalls workspace config cs).workspace = workspace := by
  induction cs using List.reverseRecOn with
  | nil => rfl
  | append_singleton cs x ih =>
    rw [ofCalls_concat]
    cases x <;> exact ih

/-- No call changes the definitions of the servers. -/
theorem definitions_ofCalls (workspace : Workspace) (config : Config) (cs : List PoolCall) :
    (ofCalls workspace config cs).definitions = config.servers := by
  induction cs using List.reverseRecOn with
  | nil => rfl
  | append_singleton cs x ih =>
    rw [ofCalls_concat]
    cases x <;> exact ih

/-! ### Live connections -/

/-- A connection that is registered and not since unregistered, nor replaced by another one with its
identifier. -/
def Registered (cs : List PoolCall) (c : Connection) : Prop :=
  ∃ earlier, History.LastAt cs earlier (.register c) (PoolCall.Ends c.id)

/-- A connection is registered if the last call registers it, or if it was and that call does not
end it. -/
theorem registered_concat_iff {x : PoolCall} :
    Registered (cs ++ [x]) c ↔ x = .register c ∨ ¬ x.Ends c.id ∧ Registered cs c := by
  simp only [Registered, History.lastAt_concat_iff]
  constructor
  · rintro ⟨earlier, ⟨hx, -⟩ | ⟨hx, hlast⟩⟩
    · exact .inl hx
    · exact .inr ⟨hx, earlier, hlast⟩
  · rintro (hx | ⟨hx, earlier, hlast⟩)
    · exact ⟨cs, .inl ⟨hx, rfl⟩⟩
    · exact ⟨earlier, .inr ⟨hx, hlast⟩⟩

/-- A connection is live after a call that registers it, and as long as no call ends it. -/
theorem mem_live_call_iff {x : PoolCall} :
    c ∈ (p.call x).live ↔ x = .register c ∨ ¬ x.Ends c.id ∧ c ∈ p.live := by
  cases x with
  | register c' =>
    rw [call, mem_live_register_iff, PoolCall.Ends, PoolCall.register.injEq, or_comm, and_comm,
      eq_comm (a := c), ne_comm]
  | unregister id =>
    rw [call, mem_live_unregister_iff, PoolCall.Ends, and_comm, ne_comm]
    simp

/-- **The live connections are those that are registered.** -/
theorem mem_live_ofCalls_iff : c ∈ (ofCalls workspace config cs).live ↔ Registered cs c := by
  induction cs using List.reverseRecOn with
  | nil =>
    refine iff_of_false List.not_mem_nil ?_
    rintro ⟨earlier, hlast⟩
    exact History.not_lastAt_nil hlast
  | append_singleton cs x ih => rw [ofCalls_concat, mem_live_call_iff, registered_concat_iff, ih]

/-- No two connections that calls register have one identifier. -/
def DistinctIds (cs : List PoolCall) : Prop :=
  ∀ c c', PoolCall.register c ∈ cs → PoolCall.register c' ∈ cs → c.id = c'.id → c = c'

/-- Where identifiers are distinct, registering is undone by unregistering only. -/
theorem DistinctIds.registered_iff (distinct : DistinctIds cs) :
    Registered cs c ↔ ∃ earlier, History.LastAt cs earlier (.register c) (· = .unregister c.id) := by
  constructor
  · rintro ⟨earlier, later, hcs, hlater⟩
    refine ⟨earlier, later, hcs, ?_⟩
    rintro x hx rfl
    exact hlater _ hx rfl
  · rintro ⟨earlier, hlast⟩
    -- by induction on the calls: the last registration of the connection may come after this one
    induction cs using List.reverseRecOn with
    | nil => exact absurd hlast History.not_lastAt_nil
    | append_singleton cs x ih =>
      rw [registered_concat_iff]
      rcases History.lastAt_concat_iff.1 hlast with ⟨hx, -⟩ | ⟨hx, hbefore⟩
      · exact .inl hx
      · have hrest := ih (fun c c' hc hc' => distinct c c' (List.mem_append_left _ hc)
          (List.mem_append_left _ hc')) hbefore
        cases x with
        | unregister id => exact .inr ⟨fun hid => hx (congrArg PoolCall.unregister hid), hrest⟩
        | register c' =>
          have hregistered := List.mem_append_left [PoolCall.register c'] hbefore.mem
          by_cases hid : c'.id = c.id
          · exact .inl (congrArg PoolCall.register
              (distinct c' c (by simp) hregistered hid))
          · exact .inr ⟨hid, hrest⟩

/-- No two live connections have one identifier. -/
theorem nodup_id_ofCalls (workspace : Workspace) (config : Config) (cs : List PoolCall) :
    ((ofCalls workspace config cs).live.map Connection.id).Nodup := by
  induction cs using List.reverseRecOn with
  | nil => exact List.nodup_nil
  | append_singleton cs x ih =>
    rw [ofCalls_concat]
    cases x with
    | register c => exact nodup_id_register ih c
    | unregister id => exact nodup_id_unregister ih id

/-! ### What is resolved -/

/-- Whether a server looks at documents of a language: it has no definition, or one that names no
language or this one. -/
def LooksAt (definitions : List (String × ServerConfig)) (server : String)
    (language : Option String) : Prop :=
  definitions.lookup server = none ∨ ∃ definition, definitions.lookup server = some definition ∧
    (definition.languages = [] ∨ ∃ l, language = some l ∧ l ∈ definition.languages)

/-- A server looks at a document if its definition says so. -/
theorem appliesTo_eq_true_iff : p.appliesTo c d = true ↔ LooksAt p.definitions c.server d.language := by
  unfold appliesTo LooksAt
  cases hdefinition : p.definitions.lookup c.server with
  | none => simp
  | some definition =>
    cases hlanguage : d.language with
    | none => simp [ServerConfig.appliesTo]
    | some l => simp [ServerConfig.appliesTo]

/-- **What a document is resolved to.** -/
theorem mem_resolve_iff : c ∈ p.resolve d accepts ↔
    (∃ path, p.workspace.resourceFor d.uri = .ok path) ∧ c ∈ p.live ∧
      LooksAt p.definitions c.server d.language ∧ accepts c.capabilities = true := by
  unfold resolve
  cases p.workspace.resourceFor d.uri with
  | error e => simp
  | ok path =>
    simp only [List.mem_mergeSort, List.mem_filter, Bool.and_eq_true, appliesTo_eq_true_iff]
    simp

/-- Nobody is asked about a document outside the workspace. -/
theorem resolve_of_outside {e : AccessError} (h : p.workspace.resourceFor d.uri = .error e) :
    p.resolve d accepts = [] := by
  rw [resolve, h]

/-- **What is resolved is strictly ascending.** -/
theorem pairwise_key_resolve (distinct : (p.live.map Connection.id).Nodup) :
    (p.resolve d accepts).Pairwise (·.key < ·.key) := by
  unfold resolve
  cases p.workspace.resourceFor d.uri with
  | error e => exact List.Pairwise.nil
  | ok path =>
    have hkept := distinct.sublist ((List.filter_sublist (l := p.live)
      (p := fun c => p.appliesTo c d && accepts c.capabilities)).map Connection.id)
    exact Ascending.of_mergeSort (fun _ _ => Connection.before_eq_true_iff) (Connection.nodup_key hkept)

/-- **What is resolved depends on which connections are live**, and not on how they are held. -/
theorem resolve_eq_of_mem_live_iff (hworkspace : p.workspace = q.workspace)
    (hdefinitions : p.definitions = q.definitions) (hlive : ∀ c, c ∈ p.live ↔ c ∈ q.live)
    (hp : (p.live.map Connection.id).Nodup) (hq : (q.live.map Connection.id).Nodup) :
    p.resolve d accepts = q.resolve d accepts := by
  refine Ascending.eq_of_mem_iff (pairwise_key_resolve hp) (pairwise_key_resolve hq) ?_
  intro c
  rw [mem_resolve_iff, mem_resolve_iff, hworkspace, hdefinitions, hlive]

/-- **What a document is resolved to after any calls.** It is strictly ascending by server and
connection, so each connection is in it once, and it consists of the connections that are
registered, whose server looks at the document and whose capabilities are accepted; there are none
if the document is outside the workspace. Where no identifier is used for two connections, what is
registered is what was registered and not since unregistered. Neither the order in which the pool
holds its connections matters, nor the calls by which they came to be the live ones. -/
theorem resolve_ofCalls (workspace : Workspace) (config : Config) (cs : List PoolCall) (d : Document)
    (accepts : Capabilities → Bool) :
    ((ofCalls workspace config cs).resolve d accepts).Nodup ∧
      ((ofCalls workspace config cs).resolve d accepts).Pairwise (·.key < ·.key) ∧
      (∀ c, c ∈ (ofCalls workspace config cs).resolve d accepts ↔
        (∃ path, workspace.resourceFor d.uri = .ok path) ∧ Registered cs c ∧
          LooksAt config.servers c.server d.language ∧ accepts c.capabilities = true) ∧
      (∀ e, workspace.resourceFor d.uri = .error e →
        (ofCalls workspace config cs).resolve d accepts = []) ∧
      (DistinctIds cs → ∀ c, Registered cs c ↔
        ∃ earlier, History.LastAt cs earlier (.register c) (· = .unregister c.id)) ∧
      (∀ live, live.Perm (ofCalls workspace config cs).live →
        resolve { ofCalls workspace config cs with live := live } d accepts =
          (ofCalls workspace config cs).resolve d accepts) ∧
      ∀ cs', (∀ c, c ∈ (ofCalls workspace config cs').live ↔ c ∈ (ofCalls workspace config cs).live) →
        (ofCalls workspace config cs').resolve d accepts =
          (ofCalls workspace config cs).resolve d accepts := by
  have distinct := nodup_id_ofCalls workspace config cs
  have ascending : ((ofCalls workspace config cs).resolve d accepts).Pairwise (·.key < ·.key) :=
    pairwise_key_resolve distinct
  refine ⟨Ascending.nodup ascending, ascending, ?_, ?_, ?_, ?_, ?_⟩
  · intro c
    rw [mem_resolve_iff, workspace_ofCalls, definitions_ofCalls, mem_live_ofCalls_iff]
  · intro e he
    rw [← workspace_ofCalls workspace config cs] at he
    exact resolve_of_outside he
  · intro hids c
    exact hids.registered_iff
  · intro live hperm
    exact resolve_eq_of_mem_live_iff rfl rfl (fun c => hperm.mem_iff)
      ((hperm.map Connection.id).nodup_iff.2 distinct) distinct
  · intro cs' hlive
    refine resolve_eq_of_mem_live_iff ?_ ?_ hlive (nodup_id_ofCalls workspace config cs') distinct
    · rw [workspace_ofCalls, workspace_ofCalls]
    · rw [definitions_ofCalls, definitions_ofCalls]

namespace Sample

/-- A connection that offers code actions. -/
def connection (number : Nat) (server : String) : Connection :=
  ⟨⟨number⟩, server, ⟨some (.simple true)⟩, .silent⟩

/-- Servers with and without a definition are connected, and one is disconnected. -/
def calls : List PoolCall :=
  [.register (connection 3 "lsp4mp"), .register (connection 1 "other"),
    .register (connection 2 "lsp4jakarta"), .register (connection 4 "liberty-ls"), .unregister ⟨2⟩]

/-- The connections that are left after these calls, made in another order. -/
def shortcut : List PoolCall :=
  [.register (connection 4 "liberty-ls"), .unregister ⟨9⟩, .register (connection 1 "other"),
    .register (connection 3 "lsp4mp")]

/-- A Java file with the given URI. -/
def javaFile (uri : Uri) : Document :=
  ⟨⟨1⟩, uri, none, "A.java", some "java", .ofString ""⟩

end Sample

/-- The server for Java that is left and the one without a definition look at a file of the
workspace, also if they came there by other calls; none looks at a file elsewhere. -/
theorem resolve_ofCalls_java :
    (∀ c, c ∈ (ofCalls ⟨.ofString "/w"⟩ {} Sample.calls).resolve
        (Sample.javaFile ⟨"file:///w/A.java", by decide⟩) (fun _ => true) ↔
      c = Sample.connection 3 "lsp4mp" ∨ c = Sample.connection 1 "other") ∧
    (ofCalls ⟨.ofString "/w"⟩ {} Sample.shortcut).resolve
        (Sample.javaFile ⟨"file:///w/A.java", by decide⟩) (fun _ => true) =
      (ofCalls ⟨.ofString "/w"⟩ {} Sample.calls).resolve
        (Sample.javaFile ⟨"file:///w/A.java", by decide⟩) (fun _ => true) ∧
    (ofCalls ⟨.ofString "/w"⟩ {} Sample.calls).resolve
      (Sample.javaFile ⟨"file:///v/A.java", by decide⟩) (fun _ => true) = [] := by
  have hlive : ∀ c, c ∈ (ofCalls ⟨.ofString "/w"⟩ {} Sample.calls).live ↔
      c = Sample.connection 3 "lsp4mp" ∨ c = Sample.connection 1 "other" ∨
        c = Sample.connection 4 "liberty-ls" := by
    intro c
    show c ∈ [_, _, _] ↔ _
    simp
  have hreverse : (ofCalls ⟨.ofString "/w"⟩ {} Sample.shortcut).live =
      (ofCalls ⟨.ofString "/w"⟩ {} Sample.calls).live.reverse := rfl
  have hlooks : LooksAt builtInServers "lsp4mp" (some "java") ∧
      LooksAt builtInServers "other" (some "java") ∧
      ¬ LooksAt builtInServers "liberty-ls" (some "java") := by
    simp [LooksAt, builtInServers, List.lookup_cons]
  have hinside : ∃ path, (Workspace.mk (.ofString "/w")).resourceFor ⟨"file:///w/A.java", by decide⟩ =
      .ok path := ⟨.ofString "/w/A.java", by decide +kernel⟩
  have houtside : (Workspace.mk (.ofString "/w")).resourceFor ⟨"file:///v/A.java", by decide⟩ =
      .error (.outsideWorkspace "file:///v/A.java") := by decide +kernel
  obtain ⟨-, -, mem_iff, -, -, -, same⟩ := resolve_ofCalls ⟨.ofString "/w"⟩ {} Sample.calls
    (Sample.javaFile ⟨"file:///w/A.java", by decide⟩) (fun _ => true)
  obtain ⟨-, -, -, outside, -⟩ := resolve_ofCalls ⟨.ofString "/w"⟩ {} Sample.calls
    (Sample.javaFile ⟨"file:///v/A.java", by decide⟩) (fun _ => true)
  refine ⟨?_, same Sample.shortcut ?_, outside _ houtside⟩
  · intro c
    refine (mem_iff c).trans ⟨?_, ?_⟩
    · rintro ⟨-, hregistered, hlooksAt, -⟩
      have hc : c ∈ (ofCalls ⟨.ofString "/w"⟩ {} Sample.calls).live := mem_live_ofCalls_iff.2 hregistered
      rcases (hlive c).1 hc with rfl | rfl | rfl
      · exact .inl rfl
      · exact .inr rfl
      · exact absurd hlooksAt hlooks.2.2
    · rintro (rfl | rfl)
      · exact ⟨hinside, mem_live_ofCalls_iff.1 ((hlive _).2 (.inl rfl)), hlooks.1, rfl⟩
      · exact ⟨hinside, mem_live_ofCalls_iff.1 ((hlive _).2 (.inr (.inl rfl))), hlooks.2.1, rfl⟩
  · intro c
    rw [hreverse, List.mem_reverse]

end ConnectionPool

end AnnotationBridge
