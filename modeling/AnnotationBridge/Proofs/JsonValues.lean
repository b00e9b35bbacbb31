import AnnotationBridge.Proofs.RereadNumber
import Mathlib.Data.List.Forall2

/-!
# JSON values as trees

* `Json.induct`: induction over a value, with a case for each shape.
* `Json.mapReals`: a value in which the double-precision numbers are changed. `Json.reals`: those
  that it holds.
* `Json.ThroughReals`: what is changed stays as it is exactly if the numbers that it carries do.
* `Json.Fits`: a value that nests at most `n` deep and whose numbers are within the bounds.
* `Json.Written`: such a value without unusable parts.
-/

namespace AnnotationBridge.Json

variable {f : Double → Double} {m n : Nat} {j : Json} {items : List Json}
  {fields : List (String × Json)}

/-! ### Induction -/

/-- Induction over a value: what holds of the items of an array holds of the array, and what holds
of the values of the fields holds of the object. -/
theorem induct {P : Json → Prop} (null : P .null) (bool : ∀ b, P (.bool b))
    (number : ∀ n, P (.number n)) (string : ∀ s, P (.string s))
    (array : ∀ items, (∀ j ∈ items, P j) → P (.array items))
    (object : ∀ fields, (∀ e ∈ fields, P e.2) → P (.object fields)) (unusable : P .unusable) :
    ∀ j, P j
  | .null => null
  | .bool b => bool b
  | .number n => number n
  | .string s => string s
  | .array items => array items fun j hj =>
    have := List.sizeOf_lt_of_mem hj
    induct null bool number string array object unusable j
  | .object fields => object fields fun e he =>
    have := List.sizeOf_lt_of_mem he
    induct null bool number string array object unusable e.2
  | .unusable => unusable
termination_by j => sizeOf j
decreasing_by
  · simp only [Json.array.sizeOf_spec]
    omega
  · obtain ⟨name, value⟩ := e
    simp only [Json.object.sizeOf_spec, Prod.mk.sizeOf_spec] at *
    omega

/-! ### Parts of containers -/

/-- An array has no unusable part if none of its items has one. -/
theorem isComplete_array : (array items).isComplete = true ↔ ∀ j ∈ items, j.isComplete = true := by
  rw [isComplete]
  induction items with
  | nil => simp [areComplete]
  | cons item items ih => simp [areComplete, ih]

/-- An object has no unusable part if none of its values has one. -/
theorem isComplete_object :
    (object fields).isComplete = true ↔ ∀ e ∈ fields, e.2.isComplete = true := by
  rw [isComplete]
  induction fields with
  | nil => simp [fieldsComplete]
  | cons field fields ih => simp [fieldsComplete, ih]

/-! ### Changing the double-precision numbers -/

mutual

/-- The value with its double-precision numbers changed. -/
def mapReals (f : Double → Double) : Json → Json
  | .number n => .number (n.mapReal f)
  | .array items => .array (mapRealsItems f items)
  | .object fields => .object (mapRealsFields f fields)
  | other => other

/-- The values with their double-precision numbers changed. -/
def mapRealsItems (f : Double → Double) : List Json → List Json
  | [] => []
  | item :: items => mapReals f item :: mapRealsItems f items

/-- The fields with the double-precision numbers of their values changed. -/
def mapRealsFields (f : Double → Double) : List (String × Json) → List (String × Json)
  | [] => []
  | (name, value) :: fields => (name, mapReals f value) :: mapRealsFields f fields

end

/-- There is no number in `null`. -/
@[simp] theorem mapReals_null : mapReals f .null = .null := rfl

/-- There is no number in a truth value. -/
@[simp] theorem mapReals_bool (b : Bool) : mapReals f (.bool b) = .bool b := rfl

/-- An integer is not a double-precision number. -/
@[simp] theorem mapReals_int (k : Int) : mapReals f (.int k) = .int k := rfl

/-- A natural number is not one either. -/
@[simp] theorem mapReals_nat (k : Nat) : mapReals f (.nat k) = .nat k := rfl

/-- There is no number in a text. -/
@[simp] theorem mapReals_string (s : String) : mapReals f (.string s) = .string s := rfl

/-- The numbers of an array are changed item by item. -/
@[simp] theorem mapReals_array (items : List Json) :
    mapReals f (.array items) = .array (items.map (mapReals f)) := by
  rw [mapReals]
  congr 1
  induction items with
  | nil => rfl
  | cons item items ih => rw [mapRealsItems, ih, List.map_cons]

/-- The numbers of an object are changed value by value, and the names stay. -/
@[simp] theorem mapReals_object (fields : List (String × Json)) :
    mapReals f (.object fields) = .object (fields.map fun e => (e.1, mapReals f e.2)) := by
  rw [mapReals]
  congr 1
  induction fields with
  | nil => rfl
  | cons field fields ih => rw [mapRealsFields, ih, List.map_cons]

mutual

/-- The double-precision numbers of a value. -/
def reals : Json → List Double
  | .number (.real x) => [x]
  | .array items => realsItems items
  | .object fields => realsFields fields
  | _ => []

/-- The double-precision numbers of several values. -/
def realsItems : List Json → List Double
  | [] => []
  | item :: items => reals item ++ realsItems items

/-- The double-precision numbers of the values of fields. -/
def realsFields : List (String × Json) → List Double
  | [] => []
  | (_, value) :: fields => reals value ++ realsFields fields

end

/-- The numbers of an array are those of its items. -/
theorem reals_array (items : List Json) : (array items).reals = items.flatMap reals := by
  rw [reals]
  induction items with
  | nil => rfl
  | cons item items ih => rw [realsItems, ih, List.flatMap_cons]

/-- The numbers of an object are those of its values. -/
theorem reals_object (fields : List (String × Json)) :
    (object fields).reals = fields.flatMap fun e => e.2.reals := by
  rw [reals]
  induction fields with
  | nil => rfl
  | cons field fields ih => rw [realsFields, ih, List.flatMap_cons]

/-! ### What a change leaves as it is -/

section

variable {α : Type} {change : α → α} {carried : α → List Double}

/-- If each item stays as it is exactly if its numbers do, so does the list. -/
theorem map_eq_self_iff {as : List α} (h : ∀ a ∈ as, change a = a ↔ ∀ x ∈ carried a, f x = x) :
    as.map change = as ↔ ∀ x ∈ as.flatMap carried, f x = x := by
  induction as with
  | nil => simp
  | cons a as ih =>
    obtain ⟨hfirst, hrest⟩ := List.forall_mem_cons.1 h
    rw [List.map_cons, List.cons.injEq, hfirst, ih hrest, List.flatMap_cons, List.forall_mem_append]

/-- A change by way of the double-precision numbers that are carried: what is changed stays as it is
exactly if all of these numbers do. -/
def ThroughReals (f : Double → Double) (change : α → α) (carried : α → List Double) : Prop :=
  ∀ a, change a = a ↔ ∀ x ∈ carried a, f x = x

/-- A list is changed by way of the numbers that its items carry. -/
theorem ThroughReals.list (h : ThroughReals f change carried) :
    ThroughReals f (List.map change) (List.flatMap carried) :=
  fun _ => map_eq_self_iff fun a _ => h a

/-- What may be absent is changed by way of the numbers that it carries if it is there. -/
theorem ThroughReals.option (h : ThroughReals f change carried) :
    ThroughReals f (Option.map change) (Option.elim · [] carried) := by
  intro o
  cases o with
  | none => simp
  | some a => exact Option.some_inj.trans (h a)

end

/-- A value stays as it is exactly if its double-precision numbers do. -/
theorem throughReals (f : Double → Double) : ThroughReals f (mapReals f) reals := by
  intro j
  induction j using induct with
  | null | bool | string | unusable => simp [mapReals, reals]
  | number n => cases n <;> simp [mapReals, reals, Number.mapReal]
  | array items ih => rw [mapReals_array, array.injEq, reals_array, map_eq_self_iff ih]
  | object fields ih =>
    rw [mapReals_object, object.injEq, reals_object]
    refine map_eq_self_iff fun e he => ?_
    rw [← ih e he, Prod.ext_iff]
    exact and_iff_right rfl

/-! ### Values that fit -/

/-- A value that nests at most `n` deep and whose numbers are within the bounds. -/
inductive Fits : Nat → Json → Prop
  | null {n : Nat} : Fits n .null
  | bool {n : Nat} (b : Bool) : Fits n (.bool b)
  | number {n : Nat} {k : Number} (h : k.Valid) : Fits n (.number k)
  | string {n : Nat} (s : String) : Fits n (.string s)
  | array {n : Nat} {items : List Json} (h : ∀ j ∈ items, Fits n j) : Fits (n + 1) (.array items)
  | object {n : Nat} {fields : List (String × Json)} (h : ∀ e ∈ fields, Fits n e.2) :
    Fits (n + 1) (.object fields)
  | unusable {n : Nat} : Fits n .unusable

/-- A value that fits and can be written: no part of it is unusable. -/
structure Written (n : Nat) (j : Json) : Prop where
  fits : Fits n j
  complete : j.isComplete = true

/-- What fits within some levels fits within more. -/
theorem Fits.mono (h : Fits m j) (hle : m ≤ n) : Fits n j := by
  induction h generalizing n with
  | null => exact .null
  | bool b => exact .bool b
  | number h => exact .number h
  | string s => exact .string s
  | array _ ih =>
    obtain ⟨n, rfl⟩ := Nat.exists_eq_add_of_lt hle
    exact .array fun j hj => ih j hj (by omega)
  | object _ ih =>
    obtain ⟨n, rfl⟩ := Nat.exists_eq_add_of_lt hle
    exact .object fun e he => ih e he (by omega)
  | unusable => exact .unusable

/-- The numbers of a value that fits are within the bounds. -/
theorem Fits.valid_of_mem_reals (h : Fits n j) {x : Double} (hx : x ∈ j.reals) : x.magnitude.Valid := by
  induction h with
  | null | bool | string | unusable => cases hx
  | @number n k hk =>
    cases k with
    | integer k => cases hx
    | real y =>
      obtain rfl := List.mem_singleton.1 hx
      exact hk
  | array _ ih =>
    rw [reals_array] at hx
    obtain ⟨item, hitem, hx⟩ := List.mem_flatMap.1 hx
    exact ih item hitem hx
  | object _ ih =>
    rw [reals_object] at hx
    obtain ⟨field, hfield, hx⟩ := List.mem_flatMap.1 hx
    exact ih field hfield hx

/-- An array fits if its items fit one level below. -/
theorem fits_array_iff : Fits (n + 1) (.array items) ↔ ∀ j ∈ items, Fits n j :=
  ⟨fun h => by cases h; assumption, .array⟩

/-- An object fits if its values fit one level below. -/
theorem fits_object_iff : Fits (n + 1) (.object fields) ↔ ∀ e ∈ fields, Fits n e.2 :=
  ⟨fun h => by cases h; assumption, .object⟩

namespace Written

/-- What can be written within some levels can be written within more. -/
theorem mono (h : Written m j) (hle : m ≤ n) : Written n j :=
  ⟨h.fits.mono hle, h.complete⟩

/-- `null` can be written at any depth. -/
theorem null : Written n .null :=
  ⟨.null, rfl⟩

/-- A truth value can be written at any depth. -/
theorem bool (b : Bool) : Written n (.bool b) :=
  ⟨.bool b, rfl⟩

/-- A text can be written at any depth. -/
theorem string (s : String) : Written n (.string s) :=
  ⟨.string s, rfl⟩

/-- An integer of 64 bits, with a sign or without, can be written at any depth. -/
theorem int {k : Int} (hlow : Int64.minValue.toInt ≤ k) (hhigh : k < UInt64.size) :
    Written n (.int k) :=
  ⟨.number ⟨hlow, hhigh⟩, rfl⟩

/-- An array can be written if its items can, one level below. -/
theorem array (h : ∀ j ∈ items, Written n j) : Written (n + 1) (.array items) :=
  ⟨.array fun j hj => (h j hj).fits, isComplete_array.2 fun j hj => (h j hj).complete⟩

/-- An object can be written exactly if its values can, one level below. -/
theorem object_iff : Written (n + 1) (.object fields) ↔ ∀ e ∈ fields, Written n e.2 :=
  ⟨fun h e he => ⟨fits_object_iff.1 h.fits e he, isComplete_object.1 h.complete e he⟩,
    fun h => ⟨.object fun e he => (h e he).fits, isComplete_object.2 fun e he => (h e he).complete⟩⟩

end Written

end AnnotationBridge.Json
