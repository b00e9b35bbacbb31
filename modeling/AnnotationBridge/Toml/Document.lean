import AnnotationBridge.Toml.Quoted
import AnnotationBridge.Toml.Scalar
import AnnotationBridge.Toml.Table

/-!
# TOML documents

`ofText?` reads a document of TOML 1.0 as one table. Values nest at most 79 deep, and a dotted key
has at most 79 parts.
-/

namespace AnnotationBridge.Toml

/-! ### Blanks -/

/-- A text without the blanks at its start. -/
def skipBlanks (cs : List Char) : List Char :=
  cs.dropWhile fun c => c == ' ' || c == '\t'

/-- What follows a comment, if the text starts with one. A comment runs to the end of its line. -/
def skipComment : List Char → List Char
  | '#' :: rest => rest.dropWhile isPrintable
  | rest => rest

/-- The text after the end of a line, or nothing at the end of the document. -/
def lineEnd? : List Char → Option (List Char)
  | [] => some []
  | '\n' :: rest => some rest
  | '\r' :: '\n' :: rest => some rest
  | _ => none

/-- The rest after what may follow an expression on its line. -/
def endOfLine? (cs : List Char) : Option (List Char) :=
  lineEnd? (skipComment (skipBlanks cs))

/-- A text without the blanks, comments and ends of lines at its start. Each round passes over one
line, of which there are at most `rounds`. -/
def skipLines : (rounds : Nat) → List Char → List Char
  | 0, cs => cs
  | rounds + 1, cs =>
    match skipComment (skipBlanks cs) with
    | '\n' :: rest => skipLines rounds rest
    | '\r' :: '\n' :: rest => skipLines rounds rest
    | rest => rest

/-! ### Keys -/

/-- The characters of a key without quotation marks. -/
def isKeyChar (c : Char) : Bool :=
  c.isAlphanum || c == '-' || c == '_'

/-- One part of a key. -/
def keyPart? (cs : List Char) : Option (String × List Char) :=
  match cs with
  | '"' :: rest => (basic? rest).map fun (text, rest) => (String.ofList text, rest)
  | '\'' :: rest => (literal? rest).map fun (text, rest) => (String.ofList text, rest)
  | _ =>
    let part := cs.takeWhile isKeyChar
    if part = [] then none else some (String.ofList part, cs.dropWhile isKeyChar)

/-- The number of parts that no key reaches. -/
def depthLimit : Nat := 80

/-- A key of at most `parts` parts with blanks around each, and the rest. -/
def key? : (parts : Nat) → List Char → Option (List String × List Char)
  | 0, _ => none
  | parts + 1, cs => do
    let (part, rest) ← keyPart? (skipBlanks cs)
    match skipBlanks rest with
    | '.' :: rest => (key? parts rest).map fun (path, rest) => (part :: path, rest)
    | rest => some ([part], rest)

/-- A key: the path to its last part, the last part, and the rest. -/
def keyPath? (cs : List Char) : Option (List String × String × List Char) := do
  let (path, rest) ← key? (depthLimit - 1) cs
  let last ← path.getLast?
  some (path.dropLast, last, rest)

/-! ### Values -/

mutual

/-- The value at the start of a text, inside `depth` others. The steps are bounded by `fuel`. -/
def value? : (fuel : Nat) → (depth : Nat) → List Char → Option (Value × List Char)
  | 0, _, _ => none
  | fuel + 1, depth, cs =>
    match cs with
    | '[' :: rest =>
      if depth + 1 < depthLimit then
        (items? fuel (depth + 1) rest).map fun (items, rest) => (.array items, rest)
      else none
    | '\x7b' :: rest =>
      if depth + 1 < depthLimit then
        match skipBlanks rest with
        | '\x7d' :: rest => some (.table [], rest)
        | rest =>
          (fields? fuel (depth + 1) (.empty .header) rest).map fun (t, rest) => (t.toValue, rest)
      else none
    | '"' :: _ | '\'' :: _ =>
      (quoted? cs).map fun (text, rest) => (.string (String.ofList text), rest)
    | _ =>
      let (word, rest) := splitWord cs
      (Value.ofWord? word).map (·, rest)

/-- The items of an array up to its end, and the rest. -/
def items? : (fuel : Nat) → (depth : Nat) → List Char → Option (List Value × List Char)
  | 0, _, _ => none
  | fuel + 1, depth, cs =>
    match skipLines cs.length cs with
    | ']' :: rest => some ([], rest)
    | rest => do
      let (item, rest) ← value? fuel depth rest
      match skipLines rest.length rest with
      | ',' :: rest => (items? fuel depth rest).map fun (items, rest) => (item :: items, rest)
      | ']' :: rest => some ([item], rest)
      | _ => none

/-- The fields of an inline table up to its end, added to `t`, and the rest. -/
def fields? : (fuel : Nat) → (depth : Nat) → (t : Table) → List Char → Option (Table × List Char)
  | 0, _, _, _ => none
  | fuel + 1, depth, t, cs => do
    let (path, key, rest) ← keyPath? cs
    match rest with
    | '=' :: rest =>
      let (value, rest) ← value? fuel depth (skipBlanks rest)
      let t ← t.define path key value
      match skipBlanks rest with
      | ',' :: rest => fields? fuel depth t rest
      | '\x7d' :: rest => some (t, rest)
      | _ => none
    | _ => none

end

/-! ### Documents -/

/-- A document that has been read in part: its tables, and the path of the last header. -/
structure Reading where
  root : Table
  here : List String

/-- Reads one line, or more if a value runs over several, and answers the text after it. -/
def line? (r : Reading) (cs : List Char) : Option (Reading × List Char) :=
  match skipBlanks cs with
  | [] | '\n' :: _ | '\r' :: _ | '#' :: _ => (endOfLine? cs).map (r, ·)
  | '[' :: '[' :: rest => do
    let (path, key, rest) ← keyPath? rest
    match rest with
    | ']' :: ']' :: rest => some (⟨← r.root.openArray path key, path ++ [key]⟩, ← endOfLine? rest)
    | _ => none
  | '[' :: rest => do
    let (path, key, rest) ← keyPath? rest
    match rest with
    | ']' :: rest => some (⟨← r.root.openTable path key, path ++ [key]⟩, ← endOfLine? rest)
    | _ => none
  | rest => do
    let (path, key, rest) ← keyPath? rest
    match rest with
    | '=' :: rest =>
      let (value, rest) ← value? (2 * rest.length + 2) 0 (skipBlanks rest)
      let root ← r.root.descend .path (·.define path key value) r.here
      some (⟨root, r.here⟩, ← endOfLine? rest)
    | _ => none

/-- Reads the lines of a document, of which there are fewer than `rounds`. -/
def lines? : (rounds : Nat) → Reading → List Char → Option Table
  | 0, _, _ => none
  | _ + 1, r, [] => some r.root
  | rounds + 1, r, cs => do
    let (r, rest) ← line? r cs
    lines? rounds r rest

/-- The table of a document. A byte order mark at its start is passed over. -/
def ofText? (text : String) : Option (List (String × Value)) := do
  let cs := match text.toList with
    | '\uFEFF' :: rest => rest
    | cs => cs
  let root ← lines? (cs.length + 1) ⟨.empty .header, []⟩ cs
  match root.toValue with
  | .table entries => some entries
  | _ => none

end AnnotationBridge.Toml
