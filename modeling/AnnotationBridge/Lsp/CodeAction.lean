import AnnotationBridge.Lsp.WorkspaceEdit

/-!
# Code actions

What a server offers to do about a diagnostic, and how it is asked.

* `Lsp.Command`, `Lsp.CodeAction`: the two forms of an offer.
* `Lsp.Action`: either of them.
* `Lsp.CodeActionParams`: the question, and `Lsp.CodeActionParams.about` the one about a diagnostic.
-/

namespace AnnotationBridge.Lsp

open Json (Decoder Record record?)

/-- A command of the server. -/
structure Command where
  title : String
  command : String
  arguments : Option (List Json) := none

/-- Decodes a command. -/
def Command.ofJson? : Decoder Command := fun j => do
  let r ← record? ["title", "command", "arguments"] 3 j
  some
    { title := ← r.required "title" Json.text?
      command := ← r.required "command" Json.text?
      arguments := ← r.optional "arguments" (Json.list? Json.any?) }

/-- Encodes a command. -/
def Command.toJson (c : Command) : Json :=
  .ofFields
    [("arguments", c.arguments.map .array), ("command", some (.string c.command)),
      ("title", some (.string c.title))]

/-- A change with a title. -/
structure CodeAction where
  title : String
  kind : Option String := none
  diagnostics : Option (List Diagnostic) := none
  edit : Option WorkspaceEdit := none
  command : Option Command := none
  isPreferred : Option Bool := none
  /-- Why the action cannot be performed now. -/
  disabled : Option String := none
  data : Option Json := none

/-- Decodes the reason why an action is disabled. -/
def disabledReason? : Decoder String := fun j => do
  (← record? ["reason"] 1 j).required "reason" Json.text?

/-- Decodes a code action. -/
def CodeAction.ofJson? : Decoder CodeAction := fun j => do
  let r ← record? ["title", "kind", "diagnostics", "edit", "command", "isPreferred", "disabled",
    "data"] 8 j
  some
    { title := ← r.required "title" Json.text?
      kind := ← r.optional "kind" Json.text?
      diagnostics := ← r.optional "diagnostics" (Json.list? Diagnostic.ofJson?)
      edit := ← r.optional "edit" WorkspaceEdit.ofJson?
      command := ← r.optional "command" Command.ofJson?
      isPreferred := ← r.optional "isPreferred" Json.flag?
      disabled := ← r.optional "disabled" disabledReason?
      data := ← r.optional "data" Json.any? }

/-- Encodes a code action. -/
def CodeAction.toJson (a : CodeAction) : Json :=
  .ofFields
    [("command", a.command.map Command.toJson),
      ("data", a.data),
      ("diagnostics", a.diagnostics.map fun ds => .array (ds.map Diagnostic.toJson)),
      ("disabled", a.disabled.map fun reason => .object [("reason", .string reason)]),
      ("edit", a.edit.map WorkspaceEdit.toJson),
      ("isPreferred", a.isPreferred.map .bool),
      ("kind", a.kind.map .string),
      ("title", some (.string a.title))]

/-- What a server offers. -/
inductive Action where
  | command (command : Command)
  | action (action : CodeAction)

namespace Action

/-- Decodes an offer: a command if it has the shape of one, or else a code action. No part of it may
be without a value, even one that is passed over. -/
def ofJson? : Decoder Action := fun j =>
  if j.isComplete then
    ((Command.ofJson? j).map .command).or ((CodeAction.ofJson? j).map .action)
  else none

/-- Encodes an offer. -/
def toJson : Action → Json
  | .command c => c.toJson
  | .action a => a.toJson

/-- The title under which the offer is shown. -/
def title : Action → String
  | .command c => c.title
  | .action a => a.title

end Action

/-- The question which actions a server offers for a range. -/
structure CodeActionParams where
  uri : Uri
  range : Range
  diagnostics : List Diagnostic

namespace CodeActionParams

/-- The question about one diagnostic of a document. -/
def about (uri : Uri) (d : Diagnostic) : CodeActionParams :=
  ⟨uri, d.range, [d]⟩

/-- Encodes a question. -/
def toJson (p : CodeActionParams) : Json :=
  .object
    [("context", .object [("diagnostics", .array (p.diagnostics.map Diagnostic.toJson))]),
      ("range", p.range.toJson),
      ("textDocument", .object [("uri", uriJson p.uri)])]

end CodeActionParams

end AnnotationBridge.Lsp
