import AnnotationBridge.Proofs.JsonValues

/-!
# Canonical form

The fields of a value in canonical form are sorted by name, so bringing it into canonical form again
changes nothing. Neither which numbers it holds nor how deep it nests plays a part.

* `Json.canonical_canonical`, `Json.canonical_mapReals`.
* `Json.Fits.canonical`, `Json.Written.canonical`: what is kept.
-/

namespace AnnotationBridge.Json

variable {f : Double → Double} {n : Nat} {j : Json} {field e : String × Json}
  {fields : List (String × Json)}

/-- The items of an array are brought into canonical form one by one. -/
@[simp] theorem canonical_array (items : List Json) :
    (array items).canonical = .array (items.map canonical) := by
  rw [canonical]
  congr 1
  induction items with
  | nil => rfl
  | cons item items ih => rw [canonicalItems, ih, List.map_cons]

/-- The fields of an object are sorted, and their values brought into canonical form. -/
@[simp] theorem canonical_object (fields : List (String × Json)) :
    (object fields).canonical = .object (canonicalFields fields) := by
  rw [canonical]

/-! ### Sorted fields -/

/-- Fields in order of their names, each name once. -/
def Sorted (fields : List (String × Json)) : Prop :=
  fields.Pairwise fun a b => a.1 < b.1

/-- A field is put among the others, and no other is added. -/
theorem mem_insertField : e ∈ insertField field fields ↔ e = field ∨ e ∈ fields := by
  induction fields with
  | nil => simp [insertField]
  | cons other fields ih =>
    rw [insertField]
    split
    · exact List.mem_cons
    · rw [List.mem_cons, ih, List.mem_cons]
      exact or_left_comm

/-- A field with a new name is put at its place. -/
theorem Sorted.insertField (h : Sorted fields) (hnew : ∀ e ∈ fields, e.1 ≠ field.1) :
    Sorted (insertField field fields) := by
  induction fields with
  | nil => exact List.pairwise_singleton _ _
  | cons other fields ih =>
    obtain ⟨hother, hfields⟩ := List.pairwise_cons.1 h
    obtain ⟨hne, hnew⟩ := List.forall_mem_cons.1 hnew
    rw [Json.insertField]
    split
    · rename_i hlt
      refine List.pairwise_cons.2 ⟨List.forall_mem_cons.2 ⟨hlt, fun e he => ?_⟩, h⟩
      exact String.lt_trans hlt (hother e he)
    · rename_i hle
      refine List.pairwise_cons.2 ⟨fun e he => ?_, ih hfields hnew⟩
      obtain rfl | he := mem_insertField.1 he
      · exact String.not_le.1 fun hge => hne (String.le_antisymm hge (String.not_lt.1 hle)).symm
      · exact hother e he

/-- A name is not taken if no field has it. -/
theorem any_fst_eq_false {name : String} :
    fields.any (·.1 == name) = false ↔ ∀ e ∈ fields, e.1 ≠ name := by
  simp

/-- The fields in canonical form are sorted. -/
theorem sorted_canonicalFields (fields : List (String × Json)) : Sorted (canonicalFields fields) := by
  induction fields with
  | nil => exact List.Pairwise.nil
  | cons field fields ih =>
    obtain ⟨name, value⟩ := field
    rw [canonicalFields]
    split
    · exact ih
    · rename_i hnew
      exact ih.insertField (any_fst_eq_false.1 (Bool.eq_false_iff.2 hnew))

/-- Each of them comes from a field with the same name. -/
theorem exists_of_mem_canonicalFields (h : e ∈ canonicalFields fields) :
    ∃ field ∈ fields, e = (field.1, field.2.canonical) := by
  induction fields with
  | nil => cases h
  | cons field fields ih =>
    obtain ⟨name, value⟩ := field
    rw [canonicalFields] at h
    have hrest : e ∈ canonicalFields fields →
        ∃ field ∈ (name, value) :: fields, e = (field.1, field.2.canonical) := fun he => by
      obtain ⟨field, hfield, heq⟩ := ih he
      exact ⟨field, List.mem_cons_of_mem _ hfield, heq⟩
    split at h
    · exact hrest h
    · obtain rfl | he := mem_insertField.1 h
      · exact ⟨(name, value), List.mem_cons_self, rfl⟩
      · exact hrest he

/-- Sorted fields stay where they are. -/
theorem canonicalFields_eq_self (h : Sorted fields) (hvalues : ∀ e ∈ fields, e.2.canonical = e.2) :
    canonicalFields fields = fields := by
  induction fields with
  | nil => rfl
  | cons field fields ih =>
    obtain ⟨name, value⟩ := field
    obtain ⟨hfirst, hfields⟩ := List.pairwise_cons.1 h
    obtain ⟨hvalue, hvalues⟩ := List.forall_mem_cons.1 hvalues
    have hnew : fields.any (·.1 == name) = false :=
      any_fst_eq_false.2 fun e he heq => String.lt_irrefl name (by simpa [heq] using hfirst e he)
    rw [canonicalFields, ih hfields hvalues]
    dsimp only at hvalue ⊢
    rw [hnew, hvalue]
    cases fields with
    | nil => rfl
    | cons next fields => exact if_pos (hfirst next List.mem_cons_self)

/-- **The canonical form is canonical.** -/
theorem canonical_canonical (j : Json) : j.canonical.canonical = j.canonical := by
  induction j using induct with
  | null | bool | number | string | unusable => rfl
  | array items ih =>
    rw [canonical_array, canonical_array, List.map_map]
    congr 1
    exact List.map_congr_left ih
  | object fields ih =>
    rw [canonical_object, canonical_object]
    congr 1
    refine canonicalFields_eq_self (sorted_canonicalFields fields) fun e he => ?_
    obtain ⟨field, hfield, rfl⟩ := exists_of_mem_canonicalFields he
    exact ih field hfield

/-! ### What is kept -/

/-- Where a field is put does not depend on the values. -/
theorem insertField_map (f : Json → Json) (field : String × Json) (fields : List (String × Json)) :
    insertField (field.1, f field.2) (fields.map fun e => (e.1, f e.2)) =
      (insertField field fields).map fun e => (e.1, f e.2) := by
  induction fields with
  | nil => rfl
  | cons other fields ih =>
    rw [List.map_cons, insertField, insertField, ih]
    split <;> rfl

/-- Changing the numbers does not change the order of the fields. -/
theorem canonical_mapReals (j : Json) : (j.mapReals f).canonical = j.canonical.mapReals f := by
  induction j using induct with
  | null | bool | number | string | unusable => rfl
  | array items ih =>
    rw [mapReals_array, canonical_array, canonical_array, mapReals_array, List.map_map, List.map_map]
    congr 1
    exact List.map_congr_left ih
  | object fields ih =>
    rw [mapReals_object, canonical_object, canonical_object, mapReals_object]
    congr 1
    induction fields with
    | nil => rfl
    | cons field fields ihfields =>
      obtain ⟨name, value⟩ := field
      obtain ⟨hvalue, hrest⟩ := List.forall_mem_cons.1 ih
      have hany (fields : List (String × Json)) :
          (fields.map fun e => (e.1, e.2.mapReals f)).any (·.1 == name) = fields.any (·.1 == name) := by
        rw [List.any_map]
        rfl
      rw [List.map_cons, canonicalFields, canonicalFields, ihfields hrest]
      dsimp only at hvalue ⊢
      rw [hany, hvalue]
      split
      · rfl
      · exact insertField_map (mapReals f) (name, value.canonical) _

/-- Canonical form nests no deeper and has no other numbers. -/
theorem Fits.canonical (h : Fits n j) : Fits n j.canonical := by
  induction h with
  | null => exact .null
  | bool b => exact .bool b
  | number h => exact .number h
  | string s => exact .string s
  | unusable => exact .unusable
  | array _ ih =>
    rw [canonical_array]
    refine .array fun j hj => ?_
    obtain ⟨item, hitem, rfl⟩ := List.mem_map.1 hj
    exact ih item hitem
  | object _ ih =>
    rw [canonical_object]
    refine .object fun e he => ?_
    obtain ⟨field, hfield, rfl⟩ := exists_of_mem_canonicalFields he
    exact ih field hfield

/-- Canonical form makes no part unusable. -/
theorem isComplete_canonical (h : j.isComplete = true) : j.canonical.isComplete = true := by
  induction j using induct with
  | null | bool | number | string => rfl
  | unusable => cases h
  | array items ih =>
    rw [canonical_array, isComplete_array]
    intro j hj
    obtain ⟨item, hitem, rfl⟩ := List.mem_map.1 hj
    exact ih item hitem (isComplete_array.1 h item hitem)
  | object fields ih =>
    rw [canonical_object, isComplete_object]
    intro e he
    obtain ⟨field, hfield, rfl⟩ := exists_of_mem_canonicalFields he
    exact ih field hfield (isComplete_object.1 h field hfield)

/-- Changing the numbers makes no part unusable. -/
theorem isComplete_mapReals (h : j.isComplete = true) : (j.mapReals f).isComplete = true := by
  induction j using induct with
  | null | bool | number | string => rfl
  | unusable => cases h
  | array items ih =>
    rw [mapReals_array, isComplete_array]
    intro j hj
    obtain ⟨item, hitem, rfl⟩ := List.mem_map.1 hj
    exact ih item hitem (isComplete_array.1 h item hitem)
  | object fields ih =>
    rw [mapReals_object, isComplete_object]
    intro e he
    obtain ⟨field, hfield, rfl⟩ := List.mem_map.1 he
    exact ih field hfield (isComplete_object.1 h field hfield)

/-- Only `null` is `null` in canonical form. -/
theorem canonical_eq_null_iff : j.canonical = .null ↔ j = .null := by
  cases j <;> simp [canonical]

/-- Changing the numbers makes nothing `null`. -/
theorem mapReals_eq_null_iff : j.mapReals f = .null ↔ j = .null := by
  cases j <;> simp [mapReals]

end AnnotationBridge.Json
