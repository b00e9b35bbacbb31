import AnnotationBridge.Error
import AnnotationBridge.Uri.FileUrl

/-!
# The workspace

A workspace is a directory. Documents are matched against it by their URI, which must name a file
below its root.

* `Workspace.resourceFor`: the file that a URI names, if it is in the workspace.
* `Workspace.resolve`, `Workspace.relativePath`: from paths relative to the root and back.
* `Workspace.ofDirectory`: the workspace of an existing directory.
-/

namespace AnnotationBridge

/-- A project directory. -/
structure Workspace where
  root : Path
  deriving DecidableEq, Repr, Inhabited

namespace Workspace

/-- The name of the directory, or a plain name if it has none that is text. -/
def name (w : Workspace) : String :=
  (w.root.fileName.bind Text.Utf8.decode?).getD "Workspace"

/-- The workspace of an existing directory. -/
def ofDirectory (files : Files) (path : Path) : Except AccessError Workspace :=
  match files.canonicalize path with
  | .error e => .error (.io e)
  | .ok root =>
    if files.isDirectory root then .ok ⟨root⟩ else .error (.fileNotFound root.display)

/-- A path as seen from the root. -/
def resolve (w : Workspace) (path : Path) : Path :=
  w.root.join path

/-- The file in the workspace that a URI names. -/
def resourceFor (w : Workspace) (uri : Uri) : Except AccessError Path :=
  match FileUrl.path? uri with
  | none => .error (.invalidUri uri.text)
  | some path =>
    if w.root.isUnder path then .ok path else .error (.outsideWorkspace uri.text)

/-- What follows the root in a path. -/
def relativePath (w : Workspace) (path : Path) : Option Path :=
  w.root.relativeTo path

/-- A resource is below the root. -/
theorem isUnder_of_resourceFor {w : Workspace} {uri : Uri} {path : Path}
    (h : w.resourceFor uri = .ok path) : w.root.isUnder path = true := by
  unfold resourceFor at h
  split at h
  · cases h
  · split at h
    · cases h; assumption
    · cases h

end Workspace

end AnnotationBridge
