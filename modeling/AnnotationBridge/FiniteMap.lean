/-!
# Finite maps

A `FiniteMap` binds finitely many keys, each to one value. No order of the keys is promised.

* `FiniteMap.get?`: the view; every operation is described by what it does to it.
* `FiniteMap.insert`, `FiniteMap.erase`, `FiniteMap.filterKeys`: changing a map.
* `FiniteMap.size`: the number of keys.

Main statements: `FiniteMap.get?_insert`, `FiniteMap.get?_erase`, `FiniteMap.get?_filterKeys`.
-/

namespace AnnotationBridge

/-- A map from finitely many keys to values. -/
structure FiniteMap (κ α : Type) where
  entries : List (κ × α)
  /-- No key is bound twice. -/
  nodup : (entries.map Prod.fst).Nodup

namespace FiniteMap

variable {κ α : Type}

/-- The map without keys. -/
def empty : FiniteMap κ α :=
  ⟨[], List.nodup_nil⟩

/-- A map without keys is at hand. -/
instance : Inhabited (FiniteMap κ α) := ⟨empty⟩

/-- The keys of a map. -/
def keys (m : FiniteMap κ α) : List κ :=
  m.entries.map Prod.fst

/-- The values of a map. -/
def values (m : FiniteMap κ α) : List α :=
  m.entries.map Prod.snd

/-- The number of keys. -/
def size (m : FiniteMap κ α) : Nat :=
  m.entries.length

/-- There are as many keys as the size says. -/
theorem length_keys (m : FiniteMap κ α) : m.keys.length = m.size :=
  List.length_map Prod.fst

/-- The map with the keys of a kind only. -/
def filterKeys (m : FiniteMap κ α) (p : κ → Bool) : FiniteMap κ α where
  entries := m.entries.filter fun e => p e.1
  nodup := m.nodup.sublist (List.filter_sublist.map Prod.fst)

variable [DecidableEq κ]

/-- The value of a key. -/
def get? (m : FiniteMap κ α) (k : κ) : Option α :=
  m.entries.lookup k

/-- Whether a key is bound. -/
def contains (m : FiniteMap κ α) (k : κ) : Bool :=
  (m.get? k).isSome

/-- The map without a key. -/
def erase (m : FiniteMap κ α) (k : κ) : FiniteMap κ α :=
  m.filterKeys fun k' => decide (k' ≠ k)

/-- The map in which a key has the given value. -/
def insert (m : FiniteMap κ α) (k : κ) (a : α) : FiniteMap κ α where
  entries := (k, a) :: (m.erase k).entries
  nodup := by
    rw [List.map_cons, List.nodup_cons]
    refine ⟨?_, (m.erase k).nodup⟩
    rw [List.mem_map]
    rintro ⟨e, he, hk⟩
    have := (List.mem_filter.1 he).2
    rw [hk] at this
    exact absurd rfl (of_decide_eq_true this)

/-! ### Operations through the view -/

/-- A map without keys binds none. -/
@[simp] theorem get?_empty (k : κ) : (empty : FiniteMap κ α).get? k = none := rfl

/-- A key that is left in a list is still found there. -/
theorem lookup_filter (p : κ → Bool) (k : κ) (entries : List (κ × α)) :
    (entries.filter fun e => p e.1).lookup k = if p k then entries.lookup k else none := by
  induction entries with
  | nil => simp
  | cons e rest ih =>
    obtain ⟨k', a⟩ := e
    rw [List.filter_cons]
    by_cases hk : k = k'
    · subst hk
      cases hp : p k with
      | true => simp
      | false => simp [hp, ih]
    · cases p k' <;> simp [List.lookup_cons, beq_false_of_ne hk, ih]

/-- A map that is restricted to some keys binds these as before. -/
theorem get?_filterKeys (m : FiniteMap κ α) (p : κ → Bool) (k : κ) :
    (m.filterKeys p).get? k = if p k then m.get? k else none :=
  lookup_filter p k m.entries

/-- A map without a key binds the others as before. -/
theorem get?_erase (m : FiniteMap κ α) (k k' : κ) :
    (m.erase k).get? k' = if k' = k then none else m.get? k' := by
  rw [erase, get?_filterKeys]
  by_cases h : k' = k <;> simp [h]

/-- A key is bound to the value that is put in, and the others are bound as before. -/
theorem get?_insert (m : FiniteMap κ α) (k : κ) (a : α) (k' : κ) :
    (m.insert k a).get? k' = if k' = k then some a else m.get? k' := by
  by_cases h : k' = k
  · subst h
    simp [get?, insert]
  · rw [if_neg h, ← (get?_erase m k k').trans (if_neg h)]
    show List.lookup k' ((k, a) :: _) = _
    rw [List.lookup_cons, beq_false_of_ne h]
    rfl

/-- A map binds a key to a value exactly if the pair is one of its entries. -/
theorem get?_eq_some_iff (m : FiniteMap κ α) (k : κ) (a : α) :
    m.get? k = some a ↔ (k, a) ∈ m.entries := by
  rw [get?, List.lookup_eq_some_iff]
  constructor
  · rintro ⟨before, after, heq, -⟩
    rw [heq]
    exact List.mem_append_right before List.mem_cons_self
  · intro h
    obtain ⟨before, after, heq⟩ := List.append_of_mem h
    refine ⟨before, after, heq, fun e he => ?_⟩
    have hnodup := m.nodup
    rw [heq, List.map_append, List.map_cons, List.nodup_append] at hnodup
    rw [bne_iff_ne]
    exact fun hk => hnodup.2.2 e.1 (List.mem_map_of_mem he) k List.mem_cons_self hk.symm

/-- A key that is not bound is not taken away. -/
theorem erase_of_get?_eq_none {m : FiniteMap κ α} {k : κ} (h : m.get? k = none) : m.erase k = m := by
  have hkept : m.entries.filter (fun e => decide (e.1 ≠ k)) = m.entries := by
    rw [List.filter_eq_self]
    intro e he
    rw [decide_eq_true_eq]
    rintro rfl
    rw [(m.get?_eq_some_iff e.1 e.2).2 he] at h
    cases h
  obtain ⟨entries, nodup⟩ := m
  simp only [erase, filterKeys, hkept]

/-- The keys of a map are those that it binds. -/
theorem mem_keys_iff (m : FiniteMap κ α) (k : κ) : k ∈ m.keys ↔ m.contains k = true := by
  rw [keys, contains, Option.isSome_iff_exists, List.mem_map]
  constructor
  · rintro ⟨⟨k', a⟩, he, rfl⟩
    exact ⟨a, (m.get?_eq_some_iff k' a).2 he⟩
  · rintro ⟨a, ha⟩
    exact ⟨(k, a), (m.get?_eq_some_iff k a).1 ha, rfl⟩

/-- What a map binds does not depend on the order of its entries. -/
theorem get?_of_perm {m m' : FiniteMap κ α} (h : m.entries.Perm m'.entries) (k : κ) :
    m.get? k = m'.get? k := by
  apply Option.ext
  intro a
  rw [get?_eq_some_iff, get?_eq_some_iff, h.mem_iff]

/-- A key is there if it is put in or was there. -/
theorem contains_insert (m : FiniteMap κ α) (k : κ) (a : α) (k' : κ) :
    (m.insert k a).contains k' = (decide (k' = k) || m.contains k') := by
  unfold contains
  rw [get?_insert]
  by_cases h : k' = k <;> simp [h]

/-- A key is there if it was and is not taken out. -/
theorem contains_erase (m : FiniteMap κ α) (k k' : κ) :
    (m.erase k).contains k' = (decide (k' ≠ k) && m.contains k') := by
  unfold contains
  rw [get?_erase]
  by_cases h : k' = k <;> simp [h]

/-- The key that is put in is found. -/
@[simp] theorem get?_insert_self (m : FiniteMap κ α) (k : κ) (a : α) :
    (m.insert k a).get? k = some a := by
  rw [get?_insert, if_pos rfl]

/-- The key that is taken out is not found. -/
@[simp] theorem get?_erase_self (m : FiniteMap κ α) (k : κ) : (m.erase k).get? k = none := by
  rw [get?_erase, if_pos rfl]

end FiniteMap

end AnnotationBridge
