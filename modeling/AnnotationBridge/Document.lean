import AnnotationBridge.Language
import AnnotationBridge.Workspace

/-!
# Documents

A `Document` is a text buffer with a URI, the name under which it is shown, and a language.

* `Document.ofText`: a document of a URI; its name is what follows the last `/` of the URI.
* `Document.ofFile`: a document of a file.
-/

namespace AnnotationBridge

open Text

/-- A text that editors show. -/
structure Document where
  id : DocumentId
  uri : Uri
  path : Option Path
  name : String
  language : Option String
  buffer : TextBuffer
  deriving DecidableEq

namespace Document

/-- What follows the last `/` of a URI. -/
def nameOfUri (uri : Uri) : String :=
  String.ofList ((Reference.splitAtChar '/' uri.text.toList).getLast?.getD [])

/-- A document of the given URI and text. -/
def ofText (id : DocumentId) (uri : Uri) (text : String) : Document where
  id := id
  uri := uri
  path := none
  name := nameOfUri uri
  language := languageOf (nameOfUri uri)
  buffer := .ofString text

/-- The name of a file, or a plain name if it has none that is text. -/
def nameOfPath (path : Path) : String :=
  (path.fileName.bind Utf8.decode?).getD "Unknown"

/-- The document of a file. -/
def ofFile (files : Files) (id : DocumentId) (path : Path) : Except AccessError Document :=
  match files.readText path with
  | .error e => .error (.unreadable e)
  | .ok text =>
    match fileUri path with
    | .error e => .error (.invalidUri e.subject)
    | .ok uri => .ok
      { id := id
        uri := uri
        path := some path
        name := nameOfPath path
        language := languageOf (nameOfPath path)
        buffer := .ofString text }

/-- The characters of a range. -/
def textIn (d : Document) (range : Span) : Except AccessError (List Char) :=
  (d.buffer.slice range).mapError .buffer

end Document

end AnnotationBridge
