import AnnotationBridge.Json.Token

/-!
# JSON text

* `Json.ofText?`: the value of a text. Containers nested more than 127 deep have no value.
* `Json.toText`: the text of a value, without blanks.
-/

namespace AnnotationBridge.Json

/-! ### Reading -/

/-- A container that has been opened: the values in it so far, last first. -/
inductive Frame where
  | items (done : List Json)
  | fields (done : List (Option String × Json)) (name : Option String)
  deriving Repr

/-- What may come next. -/
inductive Expect where
  | value
  | valueOrClose
  | nameOrClose
  | name
  | colon (name : Option String)
  | done (value : Json)
  deriving Repr

/-- A text that has been read in part: what may come next inside which open containers, the
innermost first. -/
structure Reader where
  expect : Expect
  frames : List Frame
  deriving Repr

/-- The object with the given fields, last first; it has no value if one of the names has none. -/
def closeObject (fields : List (Option String × Json)) : Json :=
  match fields.reverse.mapM fun (name, value) => name.map (·, value) with
  | some fields => .object fields
  | none => .unusable

namespace Reader

/-- The container if it is nested at most `limit` deep, counting the frames around it. -/
def within (limit : Nat) (around : List Frame) (container : Json) : Json :=
  if around.length < limit then container else .unusable

/-- Reads the first token of a value. -/
def open? (r : Reader) : Token → Option Reader
  | .null => some ⟨.done .null, r.frames⟩
  | .bool b => some ⟨.done (.bool b), r.frames⟩
  | .number (some n) => some ⟨.done (.number n), r.frames⟩
  | .number none => some ⟨.done .unusable, r.frames⟩
  | .string (some s) => some ⟨.done (.string s), r.frames⟩
  | .string none => some ⟨.done .unusable, r.frames⟩
  | .openArray => some ⟨.valueOrClose, .items [] :: r.frames⟩
  | .openObject => some ⟨.nameOrClose, .fields [] none :: r.frames⟩
  | _ => none

/-- Closes the innermost container, in which all has been read. -/
def close? (limit : Nat) (r : Reader) : Token → Option Reader
  | .closeArray =>
    match r.frames with
    | .items done :: around => some ⟨.done (within limit around (.array done.reverse)), around⟩
    | _ => none
  | .closeObject =>
    match r.frames with
    | .fields done _ :: around => some ⟨.done (within limit around (closeObject done)), around⟩
    | _ => none
  | _ => none

/-- Puts a value that has been read into the innermost container. -/
def keep (value : Json) : List Frame → List Frame
  | .items done :: around => .items (value :: done) :: around
  | .fields done name :: around => .fields ((name, value) :: done) none :: around
  | [] => []

/-- Reads one token. -/
def step? (limit : Nat) (r : Reader) (t : Token) : Option Reader :=
  match r.expect with
  | .value => r.open? t
  | .valueOrClose => if t = .closeArray then r.close? limit t else r.open? t
  | .nameOrClose =>
    match t with
    | .string name => some ⟨.colon name, r.frames⟩
    | .closeObject => r.close? limit t
    | _ => none
  | .name =>
    match t with
    | .string name => some ⟨.colon name, r.frames⟩
    | _ => none
  | .colon name =>
    match t, r.frames with
    | .colon, .fields done _ :: around => some ⟨.value, .fields done name :: around⟩
    | _, _ => none
  | .done value =>
    match t, r.frames with
    | .comma, .items done :: around => some ⟨.value, keep value (.items done :: around)⟩
    | .comma, .fields done name :: around => some ⟨.name, keep value (.fields done name :: around)⟩
    | .closeArray, _ | .closeObject, _ => close? limit ⟨r.expect, keep value r.frames⟩ t
    | _, _ => none

/-- The value that has been read, if nothing is left open. -/
def value? (r : Reader) : Option Json :=
  match r.expect, r.frames with
  | .done value, [] => some value
  | _, _ => none

end Reader

/-- The value of a text in which containers nest at most `limit` deep. -/
def ofTextWithin? (limit : Nat) (text : String) : Option Json := do
  let tokens ← Token.ofChars? text.toList
  let reader ← tokens.foldlM (Reader.step? limit) (⟨.value, []⟩ : Reader)
  reader.value?

/-- The nesting that readers of this text support. -/
def nestingLimit : Nat := 127

/-- The value of a text. -/
def ofText? (text : String) : Option Json :=
  ofTextWithin? nestingLimit text

/-! ### Writing -/

/-- The escape of a control character: four hexadecimal digits. -/
def unicodeEscape (n : Nat) : List Char :=
  let digit (k : Nat) : Char := Char.ofNat (if k < 10 then 0x30 + k else 0x57 + k)
  ['\\', 'u', digit (n / 4096 % 16), digit (n / 256 % 16), digit (n / 16 % 16), digit (n % 16)]

/-- A character inside a string. -/
def escapeChar (c : Char) : List Char :=
  match c with
  | '"' => ['\\', '"']
  | '\\' => ['\\', '\\']
  | '\n' => ['\\', 'n']
  | '\r' => ['\\', 'r']
  | '\t' => ['\\', 't']
  | '\x08' => ['\\', 'b']
  | '\x0c' => ['\\', 'f']
  | c => if c.toNat < 0x20 then unicodeEscape c.toNat else [c]

/-- A string with its quotation marks. -/
def quoted (s : String) : List Char :=
  '"' :: s.toList.flatMap escapeChar ++ ['"']

mutual

/-- The characters of a value. What has no value is written as `null`. -/
def chars : Json → List Char
  | .null | .unusable => "null".toList
  | .bool true => "true".toList
  | .bool false => "false".toList
  | .number n => n.text
  | .string s => quoted s
  | .array items => '[' :: itemChars items ++ [']']
  | .object fields => '\x7b' :: fieldChars fields ++ ['\x7d']

/-- The characters of the items of an array. -/
def itemChars : List Json → List Char
  | [] => []
  | item :: items =>
    chars item ++ (match items with
      | [] => []
      | _ :: _ => ',' :: itemChars items)

/-- The characters of the fields of an object. -/
def fieldChars : List (String × Json) → List Char
  | [] => []
  | (name, value) :: fields =>
    quoted name ++ ':' :: chars value ++ (match fields with
      | [] => []
      | _ :: _ => ',' :: fieldChars fields)

end

/-- The text of a value. -/
def toText (j : Json) : String :=
  String.ofList (chars j)

end AnnotationBridge.Json
