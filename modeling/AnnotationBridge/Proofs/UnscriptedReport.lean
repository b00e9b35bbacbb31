import AnnotationBridge.Proofs.Report

/-!
# Reports without a script

Without replies a report is about the diagnostics alone: each answer is empty and comes at once, so
nothing is left out by the pass. But the diagnostics reach the report over a connection, and the
server that is assumed if none is named is defined for some languages only. For a file in another
language, such as a `server.env`, a report is made and tells nothing.

* `Report.Unscripted`: a command line without replies, for the default server as it is defined
  without a configuration, and all that it names can be read.
* `Report.Unscripted.isServed`: whether the server is defined for the language of the file.
* `Report.Unscripted.headers_spec`: a header line for each diagnostic if it is, and no line if it is
  not.
* `Report.server_env_tells_nothing`: a diagnostic of a `server.env` is not told.
-/

namespace AnnotationBridge

open Lsp

/-! ### A script without rules -/

namespace Script

/-- A server without a script answers with nothing. -/
theorem answer?_default (g : Diagnostic) : answer? {} g = some [] := rfl

/-- It answers at once. -/
theorem dueMs_default (g : Diagnostic) : dueMs {} g = 0 := rfl

/-- All diagnostics are shown if the pass has any time. -/
theorem shows_default {timeoutMs : Nat} (h : 0 < timeoutMs) (g : Diagnostic) :
    shows {} timeoutMs g = true := by
  simp [shows, answer?_default, dueMs_default, h]

end Script

namespace Report

/-- Diagnostics only: a command line without replies and for the default server, which is defined as
it is without a configuration. All that the command line names can be read, and the file lies in the
workspace. -/
structure Unscripted (files : Files) (home configHome : Path) (a : Arguments) where
  config : Config
  /-- The canonical path of the file. -/
  file : Path
  text : String
  workspace : Workspace
  diagnostics : List Diagnostic
  server_eq : a.server = "lsp4mp"
  replies_eq : a.replies = none
  config_eq : Report.config files home configHome a = .ok config
  servers_eq : config.servers = builtInServers
  timeout_ne : config.annotator.codeActionTimeoutMs ≠ 0
  file_eq : files.canonicalize a.file = .ok file
  text_eq : files.readText file = .ok text
  workspace_eq :
    Workspace.ofDirectory files (a.workspace.getD (file.parent.getD (.ofString "/"))) =
      .ok workspace
  inside : workspace.root.isUnder file = true
  diagnostics_eq : Report.diagnostics files a.diagnostics = .ok diagnostics

namespace Unscripted

variable {files : Files} {home configHome : Path} {a : Arguments}
  (u : Unscripted files home configHome a) {uri : Uri}

/-- Whether the default server is defined for the language of the file. -/
def isServed : Bool :=
  (languageOf (Document.nameOfPath u.file)).any
    ["java", "properties", "microprofile-properties"].contains

/-- The header line of a diagnostic at a position. -/
def header (p : Text.Position) (g : Diagnostic) : String :=
  u.file.display ++ ":" ++ p.shown ++ ": " ++ (HighlightSeverity.ofSeverity g.severity).name ++
    ": " ++ g.message ++ " [" ++ a.server ++ "]"

/-- The document of the file, if it has a URI. -/
def document (uri : Uri) : Document where
  id := ⟨1⟩
  uri := uri
  path := some u.file
  name := Document.nameOfPath u.file
  language := languageOf (Document.nameOfPath u.file)
  buffer := .ofString u.text

/-- A file with a URI is opened as its document. -/
theorem ofFile_eq (huri : fileUri u.file = .ok uri) :
    Document.ofFile files ⟨1⟩ u.file = .ok (u.document uri) := by
  rw [Document.ofFile, u.text_eq, huri]
  rfl

/-- A file without a URI is not opened, and the error says why. -/
theorem ofFile_eq_error {e : FileUriError} (huri : fileUri u.file = .error e) (id : DocumentId) :
    Document.ofFile files id u.file = .error (.invalidUri e.subject) := by
  rw [Document.ofFile, u.text_eq, huri]

/-- All that is needed for a report, if the file has a URI. -/
def loaded (huri : fileUri u.file = .ok uri) : Loaded files home configHome a where
  config := u.config
  file := u.file
  workspace := u.workspace
  diagnostics := u.diagnostics
  script := {}
  document := u.document uri
  config_eq := u.config_eq
  file_eq := u.file_eq
  workspace_eq := u.workspace_eq
  diagnostics_eq := u.diagnostics_eq
  script_eq := by rw [u.replies_eq]; rfl
  document_eq := u.ofFile_eq huri

/-- The server looks at the file exactly if it is defined for its language. -/
theorem inScope_loaded (huri : fileUri u.file = .ok uri) :
    (u.loaded huri).inScope = u.isServed := by
  have hdefinition : u.config.server a.server =
      some ⟨["java", "properties", "microprofile-properties"], none, []⟩ := by
    rw [Config.server, u.servers_eq, u.server_eq]
    rfl
  have hinside : (u.loaded huri).workspace.root.isUnder (u.loaded huri).file = true := u.inside
  rw [(u.loaded huri).inScope_of_server hdefinition, hinside, Bool.true_and, isServed]
  show ServerConfig.appliesTo _ (languageOf (Document.nameOfPath u.file)) = _
  cases languageOf (Document.nameOfPath u.file) <;> rfl

/-- A file without a URI is not opened. -/
theorem make_eq_error {e : FileUriError} (absolute : u.file.isAbsolute = true)
    (huri : fileUri u.file = .error e) :
    make files home configHome a = .error (.access (.invalidUri e.subject)) := by
  have hopen : ∀ s : Session, s.workbench.workspace = u.workspace →
      s.openFile files u.file = .error (.invalidUri e.subject) := by
    intro s hs
    rw [Session.openFile, Workbench.openFile, hs, Workspace.resolve,
      Path.join_absolute _ absolute, u.ofFile_eq_error huri]
    rfl
  unfold make
  simp only [bind, Except.bind, Except.mapError, u.config_eq, u.file_eq, u.workspace_eq,
    u.diagnostics_eq, u.replies_eq, script]
  rw [hopen _ (by rfl)]

/-- **What is told without a script.** If the file has a URI, there is a report. It has one header
line for each recorded diagnostic, in recorded order, and no other line, if the default server is
defined for the language of the file; and it has no line at all if it is not. A file without a URI
is an error. -/
theorem headers_spec (canonical : files.Canonicalizes) :
    (∀ uri, fileUri u.file = .ok uri →
      ∃ report, make files home configHome a = .ok report ∧ ∃ place : Diagnostic → Text.Position,
        (∀ g, (place g).IsAt u.text.toList
          (bindRange tokenLocator (u.document uri) g.range).start) ∧
        report.lines = if u.isServed then
          u.diagnostics.map fun g => u.header (place g) g else []) ∧
      ∀ e, fileUri u.file = .error e →
        make files home configHome a = .error (.access (.invalidUri e.subject)) := by
  have hfile := canonical _ _ u.file_eq
  refine ⟨fun uri huri => ?_, fun e huri => u.make_eq_error hfile.absolute huri⟩
  have htimeout : 0 < (u.loaded huri).timeoutMs := by
    apply Nat.pos_of_ne_zero
    intro hzero
    exact u.timeout_ne (UInt64.toNat_inj.1 hzero)
  have hlines := (u.loaded huri).lines_ofEditor (fun _ _ => Nat.two_pow_pos 64)
    (fun _ _ _ => Nat.ne_of_lt htimeout) hfile
  have hshown : u.diagnostics.filter (Script.shows {} (u.loaded huri).timeoutMs) =
      u.diagnostics :=
    List.filter_eq_self.2 fun g _ => Script.shows_default htimeout g
  choose place hplace habout using (u.loaded huri).exists_linesAbout
  have hheader : ∀ g, annotationLines u.file.display (u.document uri)
      (Loaded.annotation (u.loaded huri) g) = [u.header (place g) g] := habout
  refine ⟨_, (u.loaded huri).make_eq hfile.absolute, place, hplace, hlines.trans ?_⟩
  rw [u.inScope_loaded huri]
  cases u.isServed with
  | false => rfl
  | true =>
    show (u.diagnostics.filter (Script.shows {} (u.loaded huri).timeoutMs)).flatMap
      (fun g => annotationLines u.file.display (u.document uri)
        (Loaded.annotation (u.loaded huri) g)) =
      u.diagnostics.map fun g => u.header (place g) g
    rw [hshown]
    simp only [hheader]
    exact List.map_eq_flatMap.symm

end Unscripted

namespace Sample

/-- A directory with two files and the diagnostics that were recorded about one of them. -/
def unscriptedFiles : Files :=
  (((FileTree.empty.write (.ofString "/w/A.java") (.file (Text.Utf8.encode "int a;"))).write
    (.ofString "/w/server.env") (.file (Text.Utf8.encode "A=1"))).write
    (.ofString "/w/publish.json") (.file (Text.Utf8.encode publish))).files (.ofString "/w")

/-- A command line that names a file and the recorded diagnostics only. -/
def diagnosticsOnly (file : String) : Arguments :=
  ⟨.ofString file, none, .ofString "publish.json", none, "lsp4mp", none, none⟩

/-- The recorded diagnostics can be read. -/
theorem isOk_diagnostics :
    (Report.diagnostics unscriptedFiles (.ofString "publish.json")).isOk = true := by
  decide +kernel

/-- All of it can be read, if the file can. -/
def unscripted (name text : String)
    (file_eq : unscriptedFiles.canonicalize (.ofString name) = .ok (.ofString ("/w/" ++ name)))
    (text_eq : unscriptedFiles.readText (.ofString ("/w/" ++ name)) = .ok text)
    (workspace_eq : Workspace.ofDirectory unscriptedFiles
      (((Path.ofString ("/w/" ++ name)).parent).getD (.ofString "/")) = .ok ⟨.ofString "/w"⟩)
    (inside : (Path.ofString "/w").isUnder (.ofString ("/w/" ++ name)) = true) :
    Unscripted unscriptedFiles (.ofString "/home") (.ofString "/home/.config")
      (diagnosticsOnly name) where
  config := { annotator := ⟨10000, false⟩ }
  file := .ofString ("/w/" ++ name)
  text := text
  workspace := ⟨.ofString "/w"⟩
  diagnostics := (Report.diagnostics unscriptedFiles (.ofString "publish.json")).toOption.getD []
  server_eq := rfl
  replies_eq := rfl
  config_eq := rfl
  servers_eq := rfl
  timeout_ne := by decide
  file_eq := file_eq
  text_eq := text_eq
  workspace_eq := workspace_eq
  inside := inside
  diagnostics_eq := eq_ok_of_isOk isOk_diagnostics _

/-- The report about a Java file. -/
def unscriptedJava := unscripted "A.java" "int a;" (by rfl) (by rfl) (by rfl) (by decide)

/-- The report about a `server.env`. -/
def unscriptedEnv := unscripted "server.env" "A=1" (by rfl) (by rfl) (by rfl) (by decide)

end Sample

/-- Both diagnostics of a Java file are told, in recorded order. -/
theorem headers_spec_two_diagnostics :
    ∃ report, make Sample.unscriptedFiles (.ofString "/home") (.ofString "/home/.config")
        (Sample.diagnosticsOnly "A.java") = .ok report ∧
      report.lines =
        ["/w/A.java:1:5: Warning: a [lsp4mp]", "/w/A.java:1:1: Information: b [lsp4mp]"] := by
  obtain ⟨report, hmake, place, hplace, hlines⟩ :=
    (Sample.unscriptedJava.headers_spec (FileTree.canonicalizes _ _)).1
      ⟨"file:///w/A.java", by decide⟩ (by rfl)
  refine ⟨report, hmake, ?_⟩
  rw [hlines, if_pos (by decide +kernel)]
  simp only [Unscripted.header, fun g => (hplace g).eq_locate]
  decide +kernel

/-- The diagnostics of a `server.env` are read and not told: all that the command line names can be
read, there are two diagnostics, and the report has no line. -/
theorem server_env_tells_nothing :
    Sample.unscriptedEnv.diagnostics.length = 2 ∧
      (make Sample.unscriptedFiles (.ofString "/home") (.ofString "/home/.config")
        (Sample.diagnosticsOnly "server.env")).toOption.map Report.lines = some [] := by
  constructor <;> decide +kernel

end Report

end AnnotationBridge
