import AnnotationBridge.Proofs.Entries
import AnnotationBridge.Toml.Document

/-!
# Tables have each key once

What a document of TOML says of a key is said once: no table that is read, at any depth, has a key
twice, whatever headers, dotted keys and inline tables it was put together from. And an integer is
one of 64 bits.

* `Toml.Value.Regular`: a value whose tables have each key once.
* `Toml.Table.Regular`: the same of a table under construction. `Toml.Table.Regular.put`,
  `Toml.Table.Regular.descend`: what a step keeps.
* `Toml.regular_of_read`, `Toml.regular_of_lines?`: what is read is regular.
* `Toml.regular_of_ofText?`: so is a document.
-/

namespace AnnotationBridge.Toml

variable {key k : String} {path : List String} {entries : List (String × Entry)} {entry : Entry}
  {t s : Table} {v : Value} {way : Origin} {cs rest : List Char}

/-! ### Regular values -/

/-- A value whose tables have each key once and whose integers have 64 bits. -/
inductive Value.Regular : Value → Prop where
  | string (text : String) : Regular (.string text)
  | integer {n : Int} (low : Int64.minValue.toInt ≤ n) (high : n ≤ Int64.maxValue.toInt) :
    Regular (.integer n)
  | float : Regular .float
  | boolean (b : Bool) : Regular (.boolean b)
  | datetime : Regular .datetime
  | array {items : List Value} (each : ∀ v ∈ items, Regular v) : Regular (.array items)
  | table {entries : List (String × Value)} (once : (entries.map Prod.fst).Nodup)
    (each : ∀ e ∈ entries, Regular e.2) : Regular (.table entries)

mutual

/-- A table under construction that has each key once, like the tables in it. -/
inductive Table.Regular : Table → Prop where
  | mk {origin : Origin} {entries : List (String × Entry)} (once : (entries.map Prod.fst).Nodup)
    (each : ∀ e ∈ entries, Entry.Regular e.2) : Table.Regular (.mk origin entries)

/-- An entry whose tables have each key once. -/
inductive Entry.Regular : Entry → Prop where
  | value {v : Value} (h : v.Regular) : Entry.Regular (.value v)
  | table {t : Table} (h : t.Regular) : Entry.Regular (.table t)
  | tables {ts : List Table} (each : ∀ t ∈ ts, t.Regular) : Entry.Regular (.tables ts)

end

namespace Table

/-- An empty table has no key twice. -/
theorem regular_empty (origin : Origin) : (empty origin).Regular :=
  .mk List.nodup_nil fun _ he => absurd he List.not_mem_nil

/-- The entries of a regular table are regular. -/
theorem Regular.each (h : t.Regular) : ∀ e ∈ t.entries, e.2.Regular := by
  obtain ⟨-, each⟩ := h
  exact each

/-- An entry that is found in a regular table is regular. -/
theorem Regular.of_find? (h : t.Regular) (hfind : t.find? key = some entry) : entry.Regular :=
  h.each _ (mem_of_lookup hfind)

/-! ### What a step keeps -/

/-- Putting an entry adds no other. -/
theorem mem_putEntry {e : String × Entry} (h : e ∈ putEntry key entry entries) :
    e = (key, entry) ∨ e ∈ entries := by
  induction entries with
  | nil => exact .inl (List.mem_singleton.1 h)
  | cons e' rest ih =>
    rw [putEntry] at h
    split at h
    · rcases List.mem_cons.1 h with h | h
      · exact .inl h
      · exact .inr (List.mem_cons_of_mem _ h)
    · rcases List.mem_cons.1 h with rfl | h
      · exact .inr List.mem_cons_self
      · exact (ih h).imp_right (List.mem_cons_of_mem _)

/-- An entry takes the place of the one with its key, or comes behind all others. -/
theorem map_fst_putEntry (key : String) (entry : Entry) (entries : List (String × Entry)) :
    (putEntry key entry entries).map Prod.fst =
      if key ∈ entries.map Prod.fst then entries.map Prod.fst
      else entries.map Prod.fst ++ [key] := by
  induction entries with
  | nil => rfl
  | cons e rest ih =>
    obtain ⟨k, e⟩ := e
    by_cases hk : k = key
    · simp [putEntry, hk]
    · have hk' : ¬ key = k := fun h => hk h.symm
      simp only [putEntry, if_neg hk, List.map_cons, ih, List.mem_cons, hk', false_or]
      split <;> rfl

/-- A regular table stays so with a regular entry put into it. -/
theorem Regular.put (h : t.Regular) (hentry : entry.Regular) : (t.put key entry).Regular := by
  obtain ⟨once, each⟩ := h
  refine .mk ?_ fun e he => ?_
  · rw [map_fst_putEntry]
    split
    · exact once
    · rename_i hnew
      refine List.nodup_append.2 ⟨once, by simp, fun a ha b hb => ?_⟩
      rw [List.mem_singleton.1 hb]
      exact ne_of_mem_of_not_mem ha hnew
  · rcases mem_putEntry he with rfl | he
    · exact hentry
    · exact each e he

/-- A change keeps tables regular. -/
def Keeps (change : Table → Option Table) : Prop :=
  ∀ t t', t.Regular → change t = some t' → t'.Regular

/-- A change that keeps tables regular may be made at the end of a path. -/
theorem Keeps.descend {change : Table → Option Table} (hchange : Keeps change) (way : Origin)
    (path : List String) : Keeps (descend way change path) := by
  induction path with
  | nil => exact hchange
  | cons key path ih =>
    intro t t' h hdescend
    rw [Table.descend] at hdescend
    split at hdescend
    · obtain ⟨s, hs, rfl⟩ := Option.map_eq_some_iff.1 hdescend
      exact h.put (.table (ih _ s (regular_empty way) hs))
    · rename_i s hfind
      have hsub : s.Regular := by
        cases h.of_find? hfind with
        | table hs => exact hs
      split at hdescend
      · cases hdescend
      · obtain ⟨s', hs', rfl⟩ := Option.map_eq_some_iff.1 hdescend
        exact h.put (.table (ih s s' hsub hs'))
    · rename_i ts hfind
      have hall : ∀ s ∈ ts, s.Regular := by
        cases h.of_find? hfind with
        | tables each => exact each
      split at hdescend
      · cases hdescend
      · rename_i s hlast
        obtain ⟨s', hs', rfl⟩ := Option.map_eq_some_iff.1 hdescend
        refine h.put (.tables fun u hu => ?_)
        rcases List.mem_append.1 hu with hu | hu
        · exact hall u ((List.dropLast_sublist ts).subset hu)
        · rw [List.mem_singleton.1 hu]
          exact ih s s' (hall s (List.mem_of_getLast? hlast)) hs'
    · cases hdescend

/-- A definition keeps tables regular. -/
theorem keeps_define (path : List String) (key : String) (hv : v.Regular) :
    Keeps (define path key v) := by
  refine Keeps.descend (fun t t' h hput => ?_) .dotted path
  split at hput
  · cases hput
  · obtain rfl := Option.some.inj hput
    exact h.put (.value hv)

/-- A header of a table keeps tables regular. -/
theorem keeps_openTable (path : List String) (key : String) : Keeps (openTable path key) := by
  refine Keeps.descend (fun t t' h hput => ?_) .path path
  split at hput
  · obtain rfl := Option.some.inj hput
    exact h.put (.table (regular_empty .header))
  · rename_i entries hfind
    obtain rfl := Option.some.inj hput
    cases h.of_find? hfind with
    | table hs =>
      obtain ⟨once, each⟩ := hs
      exact h.put (.table (.mk once each))
  · cases hput

/-- A header of an item of an array keeps tables regular. -/
theorem keeps_openArray (path : List String) (key : String) : Keeps (openArray path key) := by
  refine Keeps.descend (fun t t' h hput => ?_) .path path
  split at hput
  · obtain rfl := Option.some.inj hput
    refine h.put (.tables fun u hu => ?_)
    rw [List.mem_singleton.1 hu]
    exact regular_empty .header
  · rename_i ts hfind
    obtain rfl := Option.some.inj hput
    refine h.put (.tables fun u hu => ?_)
    rcases List.mem_append.1 hu with hu | hu
    · cases h.of_find? hfind with
      | tables each => exact each u hu
    · rw [List.mem_singleton.1 hu]
      exact regular_empty .header
  · cases hput

/-! ### Finished tables -/

/-- The entries of a table are finished one by one. -/
theorem entriesToValues_eq (entries : List (String × Entry)) :
    entriesToValues entries = entries.map fun e => (e.1, entryToValue e.2) := by
  induction entries with
  | nil => rfl
  | cons e rest ih => rw [entriesToValues, ih]; rfl

mutual

/-- A regular table is finished as a regular value. -/
theorem Regular.toValue : {t : Table} → t.Regular → t.toValue.Regular
  | .mk _ entries, .mk once each => by
    rw [Table.toValue]
    refine .table ?_ fun e he => ?_
    · rwa [entriesToValues_eq, List.map_map]
    · exact regular_entriesToValues entries each e he

/-- The entries of a table are finished as regular values. -/
theorem regular_entriesToValues : (entries : List (String × Entry)) →
    (∀ e ∈ entries, e.2.Regular) → ∀ e ∈ entriesToValues entries, e.2.Regular
  | [], _, e, he => absurd he List.not_mem_nil
  | (key, entry) :: rest, each, e, he => by
    rw [entriesToValues] at he
    rcases List.mem_cons.1 he with rfl | he
    · exact regular_entryToValue entry (each _ List.mem_cons_self)
    · exact regular_entriesToValues rest (fun e he => each e (List.mem_cons_of_mem _ he)) e he

/-- An entry is finished as a regular value. -/
theorem regular_entryToValue : (entry : Entry) → entry.Regular → (entryToValue entry).Regular
  | .value v, .value h => by rwa [entryToValue]
  | .table t, .table h => by rw [entryToValue]; exact h.toValue
  | .tables ts, .tables each => by
    rw [entryToValue]
    exact .array (regular_tablesToValues ts each)

/-- The tables of an array are finished as regular values. -/
theorem regular_tablesToValues : (ts : List Table) → (∀ t ∈ ts, t.Regular) →
    ∀ v ∈ tablesToValues ts, v.Regular
  | [], _, v, hv => absurd hv List.not_mem_nil
  | t :: rest, each, v, hv => by
    rw [tablesToValues] at hv
    rcases List.mem_cons.1 hv with rfl | hv
    · exact (each t List.mem_cons_self).toValue
    · exact regular_tablesToValues rest (fun t ht => each t (List.mem_cons_of_mem _ ht)) v hv

end

end Table

/-! ### What is read -/

/-- An integer that is read has 64 bits. -/
theorem regular_of_integer? {word : List Char} {n : Int} (h : integer? word = some n) :
    (Value.integer n).Regular := by
  have hchecked : ∃ read : Option Int, (read.bind fun m =>
      if Int64.minValue.toInt ≤ m ∧ m ≤ Int64.maxValue.toInt then some m else none) = some n := by
    unfold integer? at h
    split at h <;> exact ⟨_, h⟩
  obtain ⟨read, hread⟩ := hchecked
  obtain ⟨m, -, hm⟩ := Option.bind_eq_some_iff.1 hread
  obtain ⟨hrange, heq⟩ := Option.ite_none_right_eq_some.1 hm
  obtain rfl := Option.some.inj heq
  exact .integer hrange.1 hrange.2

/-- A value that is a single word is regular. -/
theorem regular_of_ofWord? {word : List Char} (h : Value.ofWord? word = some v) : v.Regular := by
  unfold Value.ofWord? at h
  split at h
  · obtain rfl := Option.some.inj h
    exact .boolean true
  · split at h
    · obtain rfl := Option.some.inj h
      exact .boolean false
    · split at h
      · obtain rfl := Option.some.inj h
        exact .datetime
      · split at h
        · obtain rfl := Option.some.inj h
          exact .float
        · obtain ⟨n, hn, rfl⟩ := Option.map_eq_some_iff.1 h
          exact regular_of_integer? hn

/-- **What is read is regular**: a value, the items of an array, and a table to which the fields of
an inline table are added. -/
theorem regular_of_read (fuel : Nat) :
    (∀ depth cs v rest, value? fuel depth cs = some (v, rest) → v.Regular) ∧
      (∀ depth cs items rest, items? fuel depth cs = some (items, rest) → ∀ v ∈ items, v.Regular) ∧
      ∀ depth t cs s rest, t.Regular → fields? fuel depth t cs = some (s, rest) → s.Regular := by
  induction fuel with
  | zero =>
    refine ⟨fun _ _ _ _ h => ?_, fun _ _ _ _ h => ?_, fun _ _ _ _ _ _ h => ?_⟩
    · simp [value?] at h
    · simp [items?] at h
    · simp [fields?] at h
  | succ fuel ih =>
    obtain ⟨ihValue, ihItems, ihFields⟩ := ih
    refine ⟨fun depth cs v rest h => ?_, fun depth cs items rest h => ?_,
      fun depth t cs s rest ht h => ?_⟩
    · unfold value? at h
      split at h
      · split at h
        · obtain ⟨⟨items, rest'⟩, hitems, heq⟩ := Option.map_eq_some_iff.1 h
          obtain ⟨rfl, rfl⟩ := Prod.mk.inj heq
          exact .array (ihItems _ _ _ _ hitems)
        · cases h
      · split at h
        · split at h
          · obtain ⟨rfl, rfl⟩ := Prod.mk.inj (Option.some.inj h)
            exact .table List.nodup_nil fun _ he => absurd he List.not_mem_nil
          · obtain ⟨⟨t, rest'⟩, hfields, heq⟩ := Option.map_eq_some_iff.1 h
            obtain ⟨rfl, rfl⟩ := Prod.mk.inj heq
            exact (ihFields _ _ _ _ _ (Table.regular_empty .header) hfields).toValue
        · cases h
      · obtain ⟨⟨text, rest'⟩, -, heq⟩ := Option.map_eq_some_iff.1 h
        obtain ⟨rfl, rfl⟩ := Prod.mk.inj heq
        exact .string _
      · obtain ⟨⟨text, rest'⟩, -, heq⟩ := Option.map_eq_some_iff.1 h
        obtain ⟨rfl, rfl⟩ := Prod.mk.inj heq
        exact .string _
      · obtain ⟨v', hword, heq⟩ := Option.map_eq_some_iff.1 h
        obtain ⟨rfl, rfl⟩ := Prod.mk.inj heq
        exact regular_of_ofWord? hword
    · unfold items? at h
      split at h
      · obtain ⟨rfl, rfl⟩ := Prod.mk.inj (Option.some.inj h)
        exact fun _ hv => absurd hv List.not_mem_nil
      · obtain ⟨⟨item, rest'⟩, hitem, h⟩ := Option.bind_eq_some_iff.1 h
        have hfirst := ihValue _ _ _ _ hitem
        dsimp only at h
        split at h
        · obtain ⟨⟨more, rest''⟩, hmore, heq⟩ := Option.map_eq_some_iff.1 h
          obtain ⟨rfl, rfl⟩ := Prod.mk.inj heq
          exact List.forall_mem_cons.2 ⟨hfirst, ihItems _ _ _ _ hmore⟩
        · obtain ⟨rfl, rfl⟩ := Prod.mk.inj (Option.some.inj h)
          exact List.forall_mem_singleton.2 hfirst
        · cases h
    · unfold fields? at h
      obtain ⟨⟨path, key, rest'⟩, -, h⟩ := Option.bind_eq_some_iff.1 h
      dsimp only at h
      split at h
      · obtain ⟨⟨v, rest''⟩, hvalue, h⟩ := Option.bind_eq_some_iff.1 h
        obtain ⟨t', hdefine, h⟩ := Option.bind_eq_some_iff.1 h
        have ht' := Table.keeps_define path key (ihValue _ _ _ _ hvalue) t t' ht hdefine
        dsimp only at h
        split at h
        · exact ihFields _ _ _ _ _ ht' h
        · obtain ⟨rfl, rfl⟩ := Prod.mk.inj (Option.some.inj h)
          exact ht'
        · cases h
      · cases h

/-- A line leaves a regular table regular. -/
theorem regular_of_line? {r r' : Reading} (hr : r.root.Regular)
    (h : line? r cs = some (r', rest)) : r'.root.Regular := by
  unfold line? at h
  have hblank (h : (endOfLine? cs).map (r, ·) = some (r', rest)) : r'.root.Regular := by
    obtain ⟨_, -, heq⟩ := Option.map_eq_some_iff.1 h
    obtain ⟨rfl, -⟩ := Prod.mk.inj heq
    exact hr
  split at h
  · exact hblank h
  · exact hblank h
  · exact hblank h
  · exact hblank h
  · obtain ⟨⟨path, key, rest'⟩, -, h⟩ := Option.bind_eq_some_iff.1 h
    dsimp only at h
    split at h
    · obtain ⟨root, hopen, h⟩ := Option.bind_eq_some_iff.1 h
      obtain ⟨_, -, heq⟩ := Option.bind_eq_some_iff.1 h
      obtain ⟨rfl, -⟩ := Prod.mk.inj (Option.some.inj heq)
      exact Table.keeps_openArray path key _ _ hr hopen
    · cases h
  · obtain ⟨⟨path, key, rest'⟩, -, h⟩ := Option.bind_eq_some_iff.1 h
    dsimp only at h
    split at h
    · obtain ⟨root, hopen, h⟩ := Option.bind_eq_some_iff.1 h
      obtain ⟨_, -, heq⟩ := Option.bind_eq_some_iff.1 h
      obtain ⟨rfl, -⟩ := Prod.mk.inj (Option.some.inj heq)
      exact Table.keeps_openTable path key _ _ hr hopen
    · cases h
  · obtain ⟨⟨path, key, rest'⟩, -, h⟩ := Option.bind_eq_some_iff.1 h
    dsimp only at h
    split at h
    · obtain ⟨⟨v, rest''⟩, hvalue, h⟩ := Option.bind_eq_some_iff.1 h
      obtain ⟨root, hdefine, h⟩ := Option.bind_eq_some_iff.1 h
      obtain ⟨_, -, heq⟩ := Option.bind_eq_some_iff.1 h
      obtain ⟨rfl, -⟩ := Prod.mk.inj (Option.some.inj heq)
      have hv := (regular_of_read _).1 _ _ _ _ hvalue
      exact (Table.keeps_define path key hv).descend .path r.here _ _ hr hdefine
    · cases h

/-- So do all the lines of a text. -/
theorem regular_of_lines? {rounds : Nat} {r : Reading} (hr : r.root.Regular)
    (h : lines? rounds r cs = some t) : t.Regular := by
  induction rounds generalizing r cs with
  | zero => simp [lines?] at h
  | succ rounds ih =>
    cases cs with
    | nil =>
      obtain rfl := Option.some.inj h
      exact hr
    | cons c cs =>
      rw [lines?] at h
      · obtain ⟨⟨r', rest⟩, hline, h⟩ := Option.bind_eq_some_iff.1 h
        exact ih (regular_of_line? hr hline) h
      · simp

/-- **The table of a document is regular.** -/
theorem regular_of_ofText? {text : String} {entries : List (String × Value)}
    (h : ofText? text = some entries) : (Value.table entries).Regular := by
  rw [ofText?] at h
  obtain ⟨root, hroot, h⟩ := Option.bind_eq_some_iff.1 h
  have hregular := (regular_of_lines? (Table.regular_empty .header) hroot).toValue
  split at h
  · rename_i heq
    obtain rfl := Option.some.inj h
    rwa [heq] at hregular
  · cases h

end AnnotationBridge.Toml
