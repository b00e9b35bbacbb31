import AnnotationBridge.Lsp.CodeAction
import AnnotationBridge.Lsp.Error

/-!
# Clients

A `Client` is the far end of a connection: it says what becomes of each request, and after how long.

* `Reply`: how and when a request ends.
* `Client`: a reply for each request.
* `Client.echo`, `Client.silent`, `Client.failing`, `Client.crashing`: simple clients.
-/

namespace AnnotationBridge

open Lsp

/-- How a request ends. -/
inductive Outcome where
  /-- With a list of actions, or with `null`. -/
  | answer (actions : Option (List Action))
  /-- With an error. -/
  | failure (error : RequestError)
  /-- Its task is lost before it can end. -/
  | crash

/-- The actions that a request that ended brings; none if its task was lost. -/
def Outcome.actions? : Outcome → Option (List Action)
  | .answer actions => some (actions.getD [])
  | .failure _ => some []
  | .crash => none

/-- What becomes of a request. -/
structure Reply where
  /-- The time until it ends, in milliseconds. -/
  delayMs : Nat
  /-- How it ends; nothing if it never does. -/
  outcome : Option Outcome

/-- The far end of a connection. What becomes of a request may depend on how many came before it. -/
structure Client where
  reply : (earlier : Nat) → CodeActionParams → Reply

namespace Client

/-- Offers to fix the first diagnostic. -/
def echo : Client where
  reply _ params :=
    let message := (params.diagnostics.head?.map Diagnostic.message).getD ""
    ⟨0, some (.answer (some [.action { title := "Fix " ++ message }]))⟩

/-- Answers `null`. -/
def silent : Client where
  reply _ _ := ⟨0, some (.answer none)⟩

/-- Answers with an error. -/
def failing (error : RequestError) : Client where
  reply _ _ := ⟨0, some (.failure error)⟩

/-- Loses the task of each request. -/
def crashing : Client where
  reply _ _ := ⟨0, some .crash⟩

end Client

end AnnotationBridge
