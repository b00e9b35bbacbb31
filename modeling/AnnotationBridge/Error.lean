import AnnotationBridge.Files
import AnnotationBridge.Text.Buffer

/-!
# Identifiers and errors of the workbench

* `DocumentId`, `EditorId`: identifiers, in the order in which they are given out.
* `AccessError`: why a document, an editor or a resource cannot be reached.
-/

namespace AnnotationBridge

/-- Identifies a document. -/
structure DocumentId where
  number : Nat
  deriving DecidableEq, Repr, Inhabited

/-- Identifies an editor. -/
structure EditorId where
  number : Nat
  deriving DecidableEq, Repr, Inhabited

/-- The short form of an identifier. -/
def DocumentId.shown (id : DocumentId) : String :=
  "d" ++ toString id.number

/-- The short form of an identifier. -/
def EditorId.shown (id : EditorId) : String :=
  "e" ++ toString id.number

/-- Why a document, an editor or a resource cannot be reached. -/
inductive AccessError where
  | documentNotFound (id : DocumentId)
  | editorNotFound (id : EditorId)
  | fileNotFound (path : String)
  | invalidUri (subject : String)
  | outsideWorkspace (uri : String)
  | io (cause : FileError)
  | buffer (cause : Text.BufferError)
  /-- The text of a document could not be read. -/
  | unreadable (cause : FileError)
  deriving DecidableEq, Repr

/-- The text of the error. -/
def AccessError.message : AccessError → String
  | .documentNotFound id => "Document not found: " ++ id.shown
  | .editorNotFound id => "Editor not found: " ++ id.shown
  | .fileNotFound path => "File not found: " ++ path
  | .invalidUri subject => "Invalid URI: " ++ subject
  | .outsideWorkspace uri => "Resource outside workspace: " ++ uri
  | .io cause => "IO error: " ++ cause.message
  | .buffer cause => "Buffer error: " ++ cause.message
  | .unreadable cause => "Buffer error: IO error: " ++ cause.message

end AnnotationBridge
