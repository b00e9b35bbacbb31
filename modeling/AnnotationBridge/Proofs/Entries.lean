import AnnotationBridge.FiniteMap
import Mathlib.Data.List.Forall2

/-!
# Entries with distinct keys

A list of keys with values stands for a map if no key occurs twice: what is looked up is then what
is in the list.

* `mem_of_lookup`, `lookup_eq_some_iff_mem`, `lookup_eq_none_iff_notMem`: what is looked up.
* `lookup_map_snd`, `rel_lookup`: entries whose values are changed.
* `map_fst_zip_sublist`: keys that are put before values.
* `mapM_eq_some_iff`, `mapM_eq_none_iff`, `exists_mem_of_mapM`: items that are decoded one by one.
-/

namespace AnnotationBridge

variable {κ α β : Type} [DecidableEq κ] {entries : List (κ × α)} {key : κ} {a : α}

/-- What is found under a key is an entry. -/
theorem mem_of_lookup (h : entries.lookup key = some a) : (key, a) ∈ entries := by
  obtain ⟨before, after, rfl, -⟩ := List.lookup_eq_some_iff.1 h
  exact List.mem_append_right before List.mem_cons_self

/-- Nothing is found under a key that no entry has. -/
theorem lookup_eq_none_iff_notMem : entries.lookup key = none ↔ key ∉ entries.map Prod.fst := by
  rw [List.lookup_eq_none_iff]
  constructor
  · intro h hmem
    obtain ⟨e, he, rfl⟩ := List.mem_map.1 hmem
    simpa using h e he
  · rintro h e he
    rw [bne_iff_ne]
    rintro rfl
    exact h (List.mem_map_of_mem he)

/-- With distinct keys, the value of an entry is the one that is looked up. -/
theorem lookup_eq_some_iff_mem (once : (entries.map Prod.fst).Nodup) :
    entries.lookup key = some a ↔ (key, a) ∈ entries :=
  FiniteMap.get?_eq_some_iff ⟨entries, once⟩ key a

/-- What is found among changed entries is the changed value. -/
theorem lookup_map_snd (f : κ → α → β) (entries : List (κ × α)) (key : κ) :
    (entries.map fun e => (e.1, f e.1 e.2)).lookup key = (entries.lookup key).map (f key) := by
  induction entries with
  | nil => rfl
  | cons e rest ih =>
    rw [List.map_cons, List.lookup_cons, List.lookup_cons, ih]
    cases hkey : key == e.1 with
    | true => rw [eq_of_beq hkey]; rfl
    | false => rfl

/-- Lists that have the same keys at the same places agree on which keys they bind, and to what. -/
theorem rel_lookup {R : α → β → Prop} {others : List (κ × β)}
    (h : List.Forall₂ (fun a b => b.1 = a.1 ∧ R a.2 b.2) entries others) (key : κ) :
    Option.Rel R (entries.lookup key) (others.lookup key) := by
  induction h with
  | nil => exact .none
  | @cons a b _ _ hab _ ih =>
    rw [List.lookup_cons, List.lookup_cons, hab.1]
    cases key == a.1 with
    | true => exact .some hab.2
    | false => exact ih

omit [DecidableEq κ] in
/-- The keys that get a value are some of the keys, in order. -/
theorem map_fst_zip_sublist (keys : List κ) (values : List α) :
    ((keys.zip values).map Prod.fst).Sublist keys := by
  induction keys generalizing values with
  | nil => exact List.nil_sublist _
  | cons key keys ih =>
    cases values with
    | nil => exact List.nil_sublist _
    | cons a values => exact (ih values).cons_cons key

/-- Items are decoded together exactly if each of them is. -/
theorem mapM_eq_some_iff {decode : α → Option β} {items : List α} {results : List β} :
    items.mapM decode = some results ↔ List.Forall₂ (fun a b => decode a = some b) items results := by
  induction items generalizing results with
  | nil =>
    rw [List.mapM_nil, List.forall₂_nil_left_iff]
    exact Option.some_inj.trans eq_comm
  | cons a items ih =>
    rw [List.mapM_cons]
    constructor
    · intro h
      obtain ⟨b, hb, h⟩ := Option.bind_eq_some_iff.1 h
      obtain ⟨rest, hrest, heq⟩ := Option.bind_eq_some_iff.1 h
      obtain rfl := Option.some.inj heq
      exact .cons hb (ih.1 hrest)
    · rintro (_ | ⟨hb, hrest⟩)
      rw [hb, ih.2 hrest]
      rfl

/-- Items are not decoded together exactly if one of them is not. -/
theorem mapM_eq_none_iff {decode : α → Option β} {items : List α} :
    items.mapM decode = none ↔ ∃ a ∈ items, decode a = none := by
  induction items with
  | nil => simp
  | cons a items ih =>
    rw [List.mapM_cons, List.exists_mem_cons_iff, ← ih]
    cases decode a with
    | none => simp
    | some b => cases items.mapM decode <;> simp

/-- What items are decoded to comes from one of them. -/
theorem exists_mem_of_mapM {decode : α → Option β} {items : List α} {results : List β}
    (h : items.mapM decode = some results) {b : β} (hb : b ∈ results) :
    ∃ a ∈ items, decode a = some b := by
  induction mapM_eq_some_iff.1 h with
  | nil => cases hb
  | cons hfirst hrest ih =>
    obtain rfl | hb := List.mem_cons.1 hb
    · exact ⟨_, List.mem_cons_self, hfirst⟩
    · obtain ⟨a, ha, heq⟩ := ih (mapM_eq_some_iff.2 hrest) hb
      exact ⟨a, List.mem_cons_of_mem _ ha, heq⟩

/-- Each item is decoded to one of the results. -/
theorem exists_result_of_mapM {decode : α → Option β} {items : List α} {results : List β}
    (h : items.mapM decode = some results) {a : α} (ha : a ∈ items) :
    ∃ b ∈ results, decode a = some b := by
  induction mapM_eq_some_iff.1 h with
  | nil => cases ha
  | cons hfirst hrest ih =>
    obtain rfl | ha := List.mem_cons.1 ha
    · exact ⟨_, List.mem_cons_self, hfirst⟩
    · obtain ⟨b, hb, heq⟩ := ih (mapM_eq_some_iff.2 hrest) ha
      exact ⟨b, List.mem_cons_of_mem _ hb, heq⟩

end AnnotationBridge
