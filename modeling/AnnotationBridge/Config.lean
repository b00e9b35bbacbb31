import AnnotationBridge.Files
import AnnotationBridge.Toml.Document

/-!
# Configuration

A configuration file is TOML. What it does not name keeps its default; a table of servers replaces
the built-in servers as a whole.

* `Config`, `AnnotatorConfig`, `ServerConfig`: the settings with their defaults.
* `ServerConfig.appliesTo`: whether a server looks at documents of a language.
* `Config.ofText?`, `Config.ofFile`, `Config.ofEnvironment`: reading a file.
-/

namespace AnnotationBridge

/-- Settings of the annotator. -/
structure AnnotatorConfig where
  /-- How long a pass waits for answers, in milliseconds. -/
  codeActionTimeoutMs : UInt64 := 10000
  /-- Whether a publish starts a pass for each editor of the document. -/
  renderOnPublish : Bool := true
  deriving DecidableEq, Repr, Inhabited

/-- The definition of a language server. -/
structure ServerConfig where
  /-- The languages that the server looks at; every one if there is none. -/
  languages : List String := []
  /-- The command that starts the server. -/
  command : Option String := none
  /-- The arguments of the command. -/
  args : List String := []
  deriving DecidableEq, Repr, Inhabited

/-- The servers that are defined without a configuration file, in order of their names. -/
def builtInServers : List (String × ServerConfig) :=
  [("liberty-ls", ⟨["serverenv", "bootstrap", "xml"], none, []⟩),
    ("lsp4jakarta", ⟨["java"], none, []⟩),
    ("lsp4mp", ⟨["java", "properties", "microprofile-properties"], none, []⟩)]

/-- The settings of the bridge. -/
structure Config where
  annotator : AnnotatorConfig := ⟨10000, true⟩
  servers : List (String × ServerConfig) := builtInServers
  deriving DecidableEq, Repr

namespace ServerConfig

/-- Whether the server looks at documents of a language. -/
def appliesTo (s : ServerConfig) (language : Option String) : Bool :=
  s.languages.isEmpty || (language.map s.languages.contains).getD false

/-- A server without languages looks at all documents. -/
theorem appliesTo_of_isEmpty {s : ServerConfig} (h : s.languages = []) (language : Option String) :
    s.appliesTo language = true := by
  simp [appliesTo, h]

end ServerConfig

namespace Config

/-- The definition of a server. -/
def server (c : Config) (id : String) : Option ServerConfig :=
  c.servers.lookup id

/-! ### Reading -/

open Toml (Value)

/-- The fields of a record that are present in a value. A record may be given as a table, or as an
array of its fields in order; a date is a record without any of its fields. -/
def record? (names : List String) : Value → Option (String → Option Value)
  | .table entries => some fun name => entries.lookup name
  | .array items => some fun name => (names.zip items).lookup name
  | .datetime => some fun _ => none
  | _ => none

/-- A field of a record, or its default. -/
def field? {α : Type} (fields : String → Option Value) (name : String) (default : α)
    (decode : Value → Option α) : Option α :=
  match fields name with
  | none => some default
  | some v => decode v

/-- A string. -/
def text? : Value → Option String
  | .string s => some s
  | _ => none

/-- A list of strings. -/
def texts? : Value → Option (List String)
  | .array items => items.mapM text?
  | _ => none

/-- A truth value. -/
def flag? : Value → Option Bool
  | .boolean b => some b
  | _ => none

/-- A number of milliseconds. -/
def milliseconds? : Value → Option UInt64
  | .integer n => if 0 ≤ n then some (UInt64.ofNat n.toNat) else none
  | _ => none

/-- The settings of the annotator. -/
def annotator? (v : Value) : Option AnnotatorConfig := do
  let fields ← record? ["code_action_timeout_ms", "render_on_publish"] v
  some
    { codeActionTimeoutMs := ← field? fields "code_action_timeout_ms" 10000 milliseconds?
      renderOnPublish := ← field? fields "render_on_publish" true flag? }

/-- The definition of a server. -/
def server? (v : Value) : Option ServerConfig := do
  let fields ← record? ["languages", "command", "args"] v
  some
    { languages := ← field? fields "languages" [] texts?
      command := ← field? fields "command" none fun v => (text? v).map some
      args := ← field? fields "args" [] texts? }

/-- The definitions of servers. -/
def servers? : Value → Option (List (String × ServerConfig))
  | .table entries => entries.mapM fun (id, v) => (server? v).map (id, ·)
  | _ => none

/-- The settings that a table names, and the defaults of the others. -/
def ofTable? (entries : List (String × Value)) : Option Config := do
  let fields (name : String) := entries.lookup name
  some
    { annotator := ← field? fields "annotator" ⟨10000, true⟩ annotator?
      servers := ← field? fields "servers" builtInServers servers? }

/-- The settings of a configuration file. -/
def ofText? (text : String) : Option Config := do
  ofTable? (← Toml.ofText? text)

end Config

/-- Why a configuration file cannot be used. -/
inductive ConfigError where
  | io (cause : FileError)
  | parse
  deriving DecidableEq, Repr

/-- The text of the error. What is wrong with a file's text is not told. -/
def ConfigError.message : ConfigError → String
  | .io cause => "IO error: " ++ cause.message
  | .parse => "Parse error"

namespace Config

/-- The settings of a file. -/
def ofFile (files : Files) (path : Path) : Except ConfigError Config :=
  match files.readText path with
  | .error e => .error (.io e)
  | .ok text =>
    match ofText? text with
    | some c => .ok c
    | none => .error .parse

/-- The file in which settings are looked for: below the directory for configuration, which counts
only if it is absolute, or else below the home directory. -/
def defaultPath (home configHome : Path) : Path :=
  let directory := if configHome.isAbsolute then configHome else home.join (.ofString ".config")
  (directory.join (.ofString "liberty-tools")).join (.ofString "config.toml")

/-- The settings of the default file, or the defaults if it cannot be used. -/
def ofEnvironment (files : Files) (home configHome : Path) : Config :=
  (ofFile files (defaultPath home configHome)).toOption.getD {}

end Config

end AnnotationBridge
