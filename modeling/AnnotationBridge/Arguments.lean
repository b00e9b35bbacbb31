import AnnotationBridge.Json.Number
import AnnotationBridge.Path

/-!
# Command line arguments

Options have a long name, most of them a short one too, and all but one take a value: attached to
the name, with or without `=`, or in the next argument. Short names may be written together. The
argument `--` ends the options; what is no option is the file.

* `Arguments`: what a command line says.
* `Arguments.ofList?`: the reading of a command line, which accepts each option once.
-/

namespace AnnotationBridge

/-- What to annotate, and how. -/
structure Arguments where
  file : Path
  /-- The workspace; the directory of the file if it is not given. -/
  workspace : Option Path
  /-- The recorded diagnostics. -/
  diagnostics : Path
  /-- The script of the server. -/
  replies : Option Path
  /-- The server that published the diagnostics. -/
  server : String
  /-- The configuration; that of the user if it is not given. -/
  config : Option Path
  /-- How long a pass waits, in place of what the configuration says. -/
  timeoutMs : Option UInt64
  deriving DecidableEq

/-- The options that take a value. -/
inductive ValueOption where
  | workspace
  | diagnostics
  | replies
  | server
  | config
  | timeoutMs
  deriving DecidableEq, Repr

namespace ValueOption

/-- The option of a long name. -/
def ofLong? : String → Option ValueOption
  | "workspace" => some .workspace
  | "diagnostics" => some .diagnostics
  | "replies" => some .replies
  | "server" => some .server
  | "config" => some .config
  | "timeout-ms" => some .timeoutMs
  | _ => none

/-- The option of a short name. -/
def ofShort? : Char → Option ValueOption
  | 'w' => some .workspace
  | 'd' => some .diagnostics
  | 'r' => some .replies
  | 's' => some .server
  | 'c' => some .config
  | _ => none

end ValueOption

/-- One thing that a command line says. -/
inductive ArgumentItem where
  | file (text : String)
  | value (option : ValueOption) (text : String)
  deriving DecidableEq, Repr

namespace ArgumentItem

/-- The file that an item names. -/
def file? : ArgumentItem → Option String
  | .file text => some text
  | .value _ _ => none

/-- The value that an item gives to an option. -/
def valueOf? (option : ValueOption) : ArgumentItem → Option String
  | .value other text => if option = other then some text else none
  | .file _ => none

end ArgumentItem

namespace Arguments

/-! ### From arguments to items -/

/-- How one argument is read. -/
inductive Reading where
  /-- It is complete in itself. -/
  | items (items : List ArgumentItem)
  /-- The next argument is the value of an option. -/
  | expects (option : ValueOption)
  /-- All later arguments are files. -/
  | filesOnly
  | unknown

/-- The value attached to a name, without `=`. -/
def attached : List Char → List Char
  | '=' :: value => value
  | value => value

/-- Reads short names that are written together. -/
def readShort : List Char → Reading
  | [] => .items []
  | name :: rest =>
    if name = 'v' then readShort rest
    else match ValueOption.ofShort? name with
      | none => .unknown
      | some option =>
        if rest = [] then .expects option
        else .items [.value option (String.ofList (attached rest))]

/-- Reads a long name and what may be attached to it by `=`. -/
def readLong (text : List Char) : Reading :=
  let name := String.ofList (text.takeWhile (· ≠ '='))
  match ValueOption.ofLong? name, text.dropWhile (· ≠ '=') with
  | some option, _ :: value => .items [.value option (String.ofList value)]
  | some option, [] => .expects option
  | none, [] => if name = "verbose" then .items [] else .unknown
  | none, _ :: _ => .unknown

/-- Reads an argument. A single `-` is a file. -/
def read (text : String) : Reading :=
  match text.toList with
  | ['-', '-'] => .filesOnly
  | '-' :: '-' :: long => readLong long
  | '-' :: c :: short => readShort (c :: short)
  | _ => .items [.file text]

/-- Whether an argument can be the value of the option before it. -/
def isValue (text : String) : Bool :=
  match text.toList with
  | '-' :: _ :: _ => false
  | _ => true

/-- The items of a command line. -/
def items? : List String → Option (List ArgumentItem)
  | [] => some []
  | text :: rest =>
    match read text with
    | .items items => (items? rest).map (items ++ ·)
    | .filesOnly => some (rest.map .file)
    | .unknown => none
    | .expects option =>
      match rest with
      | [] => none
      | value :: rest =>
        if isValue value then (items? rest).map (.value option value :: ·) else none

/-! ### From items to values -/

/-- The only member of a list, if it has one; no result for more. -/
def atMostOne? {α : Type} : List α → Option (Option α)
  | [] => some none
  | [a] => some (some a)
  | _ => none

/-- A path, which must not be empty. -/
def path? (text : String) : Option Path :=
  if text.isEmpty then none else some (.ofString text)

/-- A number in 64 bits, which may have a plus sign. -/
def uint64? (text : String) : Option UInt64 :=
  let digits := match text.toList with
    | '+' :: digits => digits
    | digits => digits
  let n := Number.ofDigits digits
  if digits ≠ [] ∧ digits.all Char.isDigit ∧ n < UInt64.size then some (.ofNat n) else none

/-- The value of an option that may be given once. -/
def option? {α : Type} (items : List ArgumentItem) (option : ValueOption)
    (decode : String → Option α) : Option (Option α) :=
  match atMostOne? (items.filterMap (·.valueOf? option)) with
  | none => none
  | some none => some none
  | some (some text) => (decode text).map some

/-- What the items of a command line say. -/
def ofItems? (items : List ArgumentItem) : Option Arguments := do
  let file ← (← atMostOne? (items.filterMap ArgumentItem.file?)).bind path?
  let workspace ← option? items .workspace path?
  let diagnostics ← option? items .diagnostics path?
  let replies ← option? items .replies path?
  let server ← option? items .server some
  let config ← option? items .config path?
  let timeoutMs ← option? items .timeoutMs uint64?
  some
    { file, workspace, replies, config, timeoutMs
      diagnostics := ← diagnostics
      server := server.getD "lsp4mp" }

/-- What a command line says, if it can be used. -/
def ofList? (arguments : List String) : Option Arguments := do
  ofItems? (← items? arguments)

end Arguments

end AnnotationBridge
