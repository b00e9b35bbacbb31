import AnnotationBridge.Json.Decode

/-!
# Server capabilities

Of what a server advertises, only whether and how it offers code actions matters.

* `Lsp.CodeActionProvider`, `Lsp.Capabilities`: what is advertised.
* `Lsp.CodeActionSupport`: what follows from it.
-/

namespace AnnotationBridge.Lsp

open Json (Decoder Record record?)

/-- The options of a server that offers code actions. -/
structure CodeActionOptions where
  kinds : Option (List String) := none
  resolveProvider : Option Bool := none
  workDoneProgress : Option Bool := none
  deriving DecidableEq, Repr

/-- Decodes the options of a server, which are given as an object. -/
def CodeActionOptions.ofJson? : Decoder CodeActionOptions
  | .object fields => do
    let r ← record? ["codeActionKinds", "resolveProvider", "workDoneProgress"] 3 (.object fields)
    some
      { kinds := ← r.optional "codeActionKinds" (Json.list? Json.text?)
        resolveProvider := ← r.optional "resolveProvider" Json.flag?
        workDoneProgress := ← r.optional "workDoneProgress" Json.flag? }
  | _ => none

/-- Encodes the options of a server. -/
def CodeActionOptions.toJson (o : CodeActionOptions) : Json :=
  .ofFields
    [("codeActionKinds", o.kinds.map fun ks => .array (ks.map .string)),
      ("resolveProvider", o.resolveProvider.map .bool),
      ("workDoneProgress", o.workDoneProgress.map .bool)]

/-- What a server says about code actions. -/
inductive CodeActionProvider where
  | simple (offered : Bool)
  | options (options : CodeActionOptions)
  deriving DecidableEq, Repr

/-- Decodes what a server says about code actions. -/
def CodeActionProvider.ofJson? : Decoder CodeActionProvider
  | .bool b => some (.simple b)
  | j => (CodeActionOptions.ofJson? j).map .options

/-- What a server advertises. -/
structure Capabilities where
  codeActionProvider : Option CodeActionProvider := none
  deriving DecidableEq, Repr

/-- Decodes what a server advertises, which is given as an object. -/
def Capabilities.ofJson? : Decoder Capabilities
  | .object fields => do
    let r ← record? ["codeActionProvider"] 1 (.object fields)
    some ⟨← r.optional "codeActionProvider" CodeActionProvider.ofJson?⟩
  | _ => none

/-- Whether a server offers code actions. -/
inductive CodeActionSupport where
  | unsupported
  | supported
  | supportedWithOptions (options : CodeActionOptions)
  deriving DecidableEq, Repr

namespace CodeActionSupport

/-- What the capabilities of a server say. -/
def ofCapabilities (c : Capabilities) : CodeActionSupport :=
  match c.codeActionProvider with
  | some (.simple true) => .supported
  | some (.options o) => .supportedWithOptions o
  | some (.simple false) | none => .unsupported

/-- Whether the server may be asked. -/
def isSupported : CodeActionSupport → Bool
  | .unsupported => false
  | _ => true

/-- The options of the server, if it gave any. -/
def options : CodeActionSupport → Option CodeActionOptions
  | .supportedWithOptions o => some o
  | _ => none

end CodeActionSupport

end AnnotationBridge.Lsp
