import AnnotationBridge.Json.Basic

/-!
# Reading JSON values

A decoder answers `none` for a value of the wrong shape. A record may be given as an object, in
which its known fields occur at most once and others are passed over, or as an array of its fields
in order.

* `Json.Record`, `Json.record?`: the fields of a record.
* `Json.Record.required`, `Json.Record.optional`, `Json.Record.defaulted`: one field.
* `Json.tagged?`: the tag of a value and the rest.
* `Json.text?`, `Json.flag?`, `Json.int32?`, `Json.uint32?`, `Json.uint64?`, `Json.list?`,
  `Json.map?`: plain values.
-/

namespace AnnotationBridge.Json

/-- A decoder: the value that JSON stands for, if it has the right shape. -/
abbrev Decoder (α : Type) := Json → Option α

/-! ### Plain values -/

/-- A string. -/
def text? : Decoder String
  | .string s => some s
  | _ => none

/-- A truth value. -/
def flag? : Decoder Bool
  | .bool b => some b
  | _ => none

/-- An integer from `low` to `high`. -/
def intBetween? (low high : Int) : Decoder Int
  | .number (.integer n) => if low ≤ n ∧ n ≤ high then some n else none
  | _ => none

/-- A natural number below a bound. -/
def natBelow? (bound : Nat) : Decoder Nat
  | .number (.integer n) => if 0 ≤ n ∧ n.toNat < bound then some n.toNat else none
  | _ => none

/-- A signed integer of 32 bits. -/
def int32? : Decoder Int32 := fun j =>
  (intBetween? Int32.minValue.toInt Int32.maxValue.toInt j).map Int32.ofInt

/-- An unsigned integer of 32 bits. -/
def uint32? : Decoder UInt32 := fun j =>
  (natBelow? UInt32.size j).map UInt32.ofNat

/-- An unsigned integer of 64 bits. -/
def uint64? : Decoder UInt64 := fun j =>
  (natBelow? UInt64.size j).map UInt64.ofNat

/-- A list. -/
def list? {α : Type} (decode : Decoder α) : Decoder (List α)
  | .array items => items.mapM decode
  | _ => none

/-- A map: of several fields with one name the last counts. -/
def map? {κ α : Type} (decodeKey : String → Option κ) (decode : Decoder α) :
    Decoder (List (κ × α))
  | .object fields => do
    let entries ← fields.mapM fun (name, value) => do
      some (name, (← decodeKey name), (← decode value))
    some (lastOf entries)
  | _ => none
where
  /-- Of the entries with one name, only the last. -/
  lastOf : List (String × κ × α) → List (κ × α)
    | [] => []
    | (name, key, value) :: rest =>
      if rest.any (·.1 == name) then lastOf rest else (key, value) :: lastOf rest

/-- Any value, in canonical form. -/
def any? : Decoder Json := fun j =>
  if j.isComplete then some j.canonical else none

/-- The value `null` counts as absent. -/
def nullable? {α : Type} (decode : Decoder α) : Decoder (Option α)
  | .null => some none
  | j => (decode j).map some

/-! ### Records -/

/-- The fields of a record that are present. -/
def Record := String → Option Json

/-- The fields of a record named `names`. As an array it has at least `needed` items. -/
def record? (names : List String) (needed : Nat) : Decoder Record
  | .object fields =>
    if names.all fun name => fields.countP (·.1 == name) ≤ 1 then
      some fun name => fields.lookup name
    else none
  | .array items =>
    if needed ≤ items.length ∧ items.length ≤ names.length then
      some fun name => (names.zip items).lookup name
    else none
  | _ => none

namespace Record

/-- A field that must be present. -/
def required {α : Type} (r : Record) (name : String) (decode : Decoder α) : Option α :=
  (r name).bind decode

/-- A field that may be absent or `null`. -/
def optional {α : Type} (r : Record) (name : String) (decode : Decoder α) : Option (Option α) :=
  match r name with
  | none => some none
  | some j => nullable? decode j

/-- A field that has a default. -/
def defaulted {α : Type} (r : Record) (name : String) (default : α) (decode : Decoder α) :
    Option α :=
  match r name with
  | none => some default
  | some j => decode j

end Record

/-! ### Tagged values -/

/-- A value that is tagged with its kind, taken apart: the tag and the rest. The tag of an object is
the field `name`, which occurs once; the tag of an array is its first item. -/
def tagged? (name : String) : Json → Option (Json × Json)
  | .object fields =>
    match fields.filter (·.1 == name) with
    | [(_, tag)] => some (tag, .object (fields.filter (·.1 != name)))
    | _ => none
  | .array (tag :: items) => some (tag, .array items)
  | _ => none

end AnnotationBridge.Json
