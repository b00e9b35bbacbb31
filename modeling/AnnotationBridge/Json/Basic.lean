import AnnotationBridge.Double.Basic

/-!
# JSON values

`Json` is a value as it stands in a text: the fields of an object keep their order and may repeat.
Text that is well formed but has no value, such as a string with half a surrogate pair, is
`unusable`: it may be passed over but not read.

* `Json.isComplete`: no part of the value is unusable.
* `Json.canonical`: fields in order of their names, the last of several with one name.
-/

namespace AnnotationBridge

/-- A number of a JSON text. -/
inductive Number where
  /-- An integer from `-2^63` to `2^64 - 1`. -/
  | integer (value : Int)
  /-- Any other number. -/
  | real (value : Double)
  deriving DecidableEq, Repr, Inhabited

/-- A JSON value as it stands in a text. -/
inductive Json where
  | null
  | bool (value : Bool)
  | number (value : Number)
  | string (value : String)
  | array (items : List Json)
  | object (fields : List (String × Json))
  | unusable
  deriving Repr, Inhabited

namespace Json

/-- The value of a natural number. -/
def nat (n : Nat) : Json :=
  .number (.integer n)

/-- The value of an integer. -/
def int (n : Int) : Json :=
  .number (.integer n)

/-! ### Completeness -/

mutual

/-- Whether no part of a value is unusable. -/
def isComplete : Json → Bool
  | .array items => areComplete items
  | .object fields => fieldsComplete fields
  | .unusable => false
  | _ => true

/-- Whether no part of any of the values is unusable. -/
def areComplete : List Json → Bool
  | [] => true
  | item :: items => isComplete item && areComplete items

/-- Whether no part of the value of any field is unusable. -/
def fieldsComplete : List (String × Json) → Bool
  | [] => true
  | (_, value) :: fields => isComplete value && fieldsComplete fields

end

/-! ### Canonical form -/

/-- Puts a field before the first one with a greater name. -/
def insertField (field : String × Json) : List (String × Json) → List (String × Json)
  | [] => [field]
  | other :: fields =>
    if field.1 < other.1 then field :: other :: fields
    else other :: insertField field fields

mutual

/-- The value with the fields of each object in order of their names; of several fields with one
name the last is kept. -/
def canonical : Json → Json
  | .array items => .array (canonicalItems items)
  | .object fields => .object (canonicalFields fields)
  | other => other

/-- The canonical forms of several values. -/
def canonicalItems : List Json → List Json
  | [] => []
  | item :: items => canonical item :: canonicalItems items

/-- The canonical form of the fields of an object. -/
def canonicalFields : List (String × Json) → List (String × Json)
  | [] => []
  | (name, value) :: fields =>
    let rest := canonicalFields fields
    if rest.any (·.1 == name) then rest else insertField (name, canonical value) rest

end

/-! ### Building objects -/

/-- An object without the fields that have no value. -/
def ofFields (fields : List (String × Option Json)) : Json :=
  .object (fields.filterMap fun (name, value) => value.map (name, ·))

end Json

end AnnotationBridge
