import AnnotationBridge.Lsp.Diagnostic

/-!
# Workspace edits

The changes that a code action makes. They are carried along and never performed here.

* `Lsp.TextEdit`, `Lsp.FileOperation`, `Lsp.DocumentChanges`, `Lsp.WorkspaceEdit`.
-/

namespace AnnotationBridge.Lsp

open Json (Decoder Record record?)

/-- New text for a range. -/
structure TextEdit where
  range : Range
  newText : String
  deriving DecidableEq, Repr

/-- Decodes an edit. -/
def TextEdit.ofJson? : Decoder TextEdit := fun j => do
  let r ← record? ["range", "newText"] 2 j
  some ⟨← r.required "range" Range.ofJson?, ← r.required "newText" Json.text?⟩

/-- Encodes an edit. -/
def TextEdit.toJson (e : TextEdit) : Json :=
  .object [("newText", .string e.newText), ("range", e.range.toJson)]

/-- Edits of one version of a document. -/
structure TextDocumentEdit where
  uri : Uri
  version : Option Int32
  edits : List TextEdit
  deriving DecidableEq

/-- Decodes the edits of a document. -/
def TextDocumentEdit.ofJson? : Decoder TextDocumentEdit := fun j => do
  let r ← record? ["textDocument", "edits"] 2 j
  let document ← r.required "textDocument" (record? ["uri", "version"] 2)
  some
    { uri := ← document.required "uri" uri?
      version := ← document.optional "version" Json.int32?
      edits := ← r.required "edits" (Json.list? TextEdit.ofJson?) }

/-- Encodes the edits of a document. A version that is unknown is `null`. -/
def TextDocumentEdit.toJson (e : TextDocumentEdit) : Json :=
  .object
    [("edits", .array (e.edits.map TextEdit.toJson)),
      ("textDocument", .object
        [("uri", uriJson e.uri),
          ("version", (e.version.map fun n => Json.int n.toInt).getD .null)])]

/-! ### File operations -/

/-- What becomes of a file that is in the way of a new one. -/
structure PlacementOptions where
  overwrite : Option Bool
  ignoreIfExists : Option Bool
  deriving DecidableEq, Repr

/-- Decodes the options of a creation or renaming. -/
def PlacementOptions.ofJson? : Decoder PlacementOptions := fun j => do
  let r ← record? ["overwrite", "ignoreIfExists"] 2 j
  some ⟨← r.optional "overwrite" Json.flag?, ← r.optional "ignoreIfExists" Json.flag?⟩

/-- Encodes the options of a creation or renaming. -/
def PlacementOptions.toJson (o : PlacementOptions) : Json :=
  .ofFields
    [("ignoreIfExists", o.ignoreIfExists.map .bool), ("overwrite", o.overwrite.map .bool)]

/-- How a file is deleted. The label refers to a description of the change. -/
structure DeletionOptions where
  recursive : Option Bool
  ignoreIfNotExists : Option Bool
  label : Option String
  deriving DecidableEq, Repr

/-- Decodes the options of a deletion. -/
def DeletionOptions.ofJson? : Decoder DeletionOptions := fun j => do
  let r ← record? ["recursive", "ignoreIfNotExists", "annotationId"] 3 j
  some ⟨← r.optional "recursive" Json.flag?, ← r.optional "ignoreIfNotExists" Json.flag?,
    ← r.optional "annotationId" Json.text?⟩

/-- Encodes the options of a deletion. -/
def DeletionOptions.toJson (o : DeletionOptions) : Json :=
  .ofFields
    [("annotationId", o.label.map .string), ("ignoreIfNotExists", o.ignoreIfNotExists.map .bool),
      ("recursive", o.recursive.map .bool)]

/-- What is done to a file. -/
inductive FileOperationKind where
  | create
  | rename
  | delete
  deriving DecidableEq, Repr

namespace FileOperationKind

/-- The name of a kind of operation. -/
def name : FileOperationKind → String
  | create => "create"
  | rename => "rename"
  | delete => "delete"

/-- All kinds, in order of their numbers. -/
def all : List FileOperationKind :=
  [create, rename, delete]

/-- Decodes a kind, which is given by its name or its number. -/
def ofJson? : Decoder FileOperationKind
  | .string name => all.find? (·.name == name)
  | j => (Json.natBelow? all.length j).bind (all[·]?)

end FileOperationKind

/-- The creation, renaming or deletion of a file. -/
inductive FileOperation where
  | create (uri : Uri) (options : Option PlacementOptions) (label : Option String)
  | rename (old new : Uri) (options : Option PlacementOptions) (label : Option String)
  | delete (uri : Uri) (options : Option DeletionOptions)
  deriving DecidableEq

namespace FileOperation

/-- What an operation does. -/
def kind : FileOperation → FileOperationKind
  | create _ _ _ => .create
  | rename _ _ _ _ => .rename
  | delete _ _ => .delete

/-- Decodes a file operation, which is tagged with its kind. -/
def ofJson? : Decoder FileOperation := fun j => do
  let (tag, body) ← Json.tagged? "kind" j
  match ← FileOperationKind.ofJson? tag with
  | .create =>
    let r ← record? ["uri", "options", "annotationId"] 3 body
    some (.create (← r.required "uri" uri?)
      (← r.optional "options" PlacementOptions.ofJson?)
      (← r.optional "annotationId" Json.text?))
  | .rename =>
    let r ← record? ["oldUri", "newUri", "options", "annotationId"] 4 body
    some (.rename (← r.required "oldUri" uri?) (← r.required "newUri" uri?)
      (← r.optional "options" PlacementOptions.ofJson?)
      (← r.optional "annotationId" Json.text?))
  | .delete =>
    let r ← record? ["uri", "options"] 2 body
    some (.delete (← r.required "uri" uri?)
      (← r.optional "options" DeletionOptions.ofJson?))

/-- Encodes a file operation. -/
def toJson (op : FileOperation) : Json :=
  let kind := some (Json.string op.kind.name)
  match op with
  | create uri options label => .ofFields
    [("annotationId", label.map .string), ("kind", kind),
      ("options", options.map PlacementOptions.toJson), ("uri", some (uriJson uri))]
  | rename old new options label => .ofFields
    [("annotationId", label.map .string), ("kind", kind), ("newUri", some (uriJson new)),
      ("oldUri", some (uriJson old)), ("options", options.map PlacementOptions.toJson)]
  | delete uri options => .ofFields
    [("kind", kind), ("options", options.map DeletionOptions.toJson),
      ("uri", some (uriJson uri))]

end FileOperation

/-- One step of a list of changes. -/
inductive DocumentChange where
  | operation (op : FileOperation)
  | edit (edit : TextDocumentEdit)
  deriving DecidableEq

/-- Decodes a step: a file operation or else the edits of a document. -/
def DocumentChange.ofJson? : Decoder DocumentChange := fun j =>
  ((FileOperation.ofJson? j).map .operation).or ((TextDocumentEdit.ofJson? j).map .edit)

/-- Encodes a step. -/
def DocumentChange.toJson : DocumentChange → Json
  | .operation op => op.toJson
  | .edit e => e.toJson

/-- Changes to documents: edits alone, or steps that may be file operations too. -/
inductive DocumentChanges where
  | edits (edits : List TextDocumentEdit)
  | steps (steps : List DocumentChange)
  deriving DecidableEq

/-- Decodes changes: edits alone if they all are. -/
def DocumentChanges.ofJson? : Decoder DocumentChanges := fun j =>
  ((Json.list? TextDocumentEdit.ofJson? j).map .edits).or
    ((Json.list? DocumentChange.ofJson? j).map .steps)

/-- Encodes changes. -/
def DocumentChanges.toJson : DocumentChanges → Json
  | .edits es => .array (es.map TextDocumentEdit.toJson)
  | .steps ss => .array (ss.map DocumentChange.toJson)

/-- How a change is described to the user. -/
structure ChangeAnnotation where
  label : String
  needsConfirmation : Option Bool
  description : Option String
  deriving DecidableEq, Repr

/-- Decodes the description of a change. -/
def ChangeAnnotation.ofJson? : Decoder ChangeAnnotation := fun j => do
  let r ← record? ["label", "needsConfirmation", "description"] 3 j
  some ⟨← r.required "label" Json.text?, ← r.optional "needsConfirmation" Json.flag?,
    ← r.optional "description" Json.text?⟩

/-- Encodes the description of a change. -/
def ChangeAnnotation.toJson (a : ChangeAnnotation) : Json :=
  .ofFields
    [("description", a.description.map .string), ("label", some (.string a.label)),
      ("needsConfirmation", a.needsConfirmation.map .bool)]

/-- The changes of a code action. -/
structure WorkspaceEdit where
  changes : Option (List (Uri × List TextEdit))
  documentChanges : Option DocumentChanges
  changeAnnotations : Option (List (String × ChangeAnnotation))
  deriving DecidableEq

/-- Decodes the changes of a code action. -/
def WorkspaceEdit.ofJson? : Decoder WorkspaceEdit := fun j => do
  let r ← record? ["changes", "documentChanges", "changeAnnotations"] 3 j
  some
    { changes :=
        ← r.optional "changes" (Json.map? Uri.ofString? (Json.list? TextEdit.ofJson?))
      documentChanges := ← r.optional "documentChanges" DocumentChanges.ofJson?
      changeAnnotations :=
        ← r.optional "changeAnnotations" (Json.map? some ChangeAnnotation.ofJson?) }

/-- Encodes the changes of a code action. -/
def WorkspaceEdit.toJson (e : WorkspaceEdit) : Json :=
  .ofFields
    [("changeAnnotations",
        e.changeAnnotations.map fun as => .object (as.map fun (id, a) => (id, a.toJson))),
      ("changes", e.changes.map fun cs =>
        .object (cs.map fun (uri, edits) => (uri.text, .array (edits.map TextEdit.toJson)))),
      ("documentChanges", e.documentChanges.map DocumentChanges.toJson)]

end AnnotationBridge.Lsp
