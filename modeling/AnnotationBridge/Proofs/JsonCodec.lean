import AnnotationBridge.Json.Decode
import AnnotationBridge.Proofs.Entries
import AnnotationBridge.Proofs.JsonCanonical
import Mathlib.Data.List.Nodup

/-!
# Decoders and encoders

What a decoder yields is encoded as a value that is decoded again as the same. The double-precision
numbers of that value may be changed in between; then what is decoded is changed accordingly.

* `Json.Holds`: a value that can be written and is decoded as a given result after such a change.
* `Json.Faithful`: a decoder and an encoder that fit together.
* `Json.text_faithful` to `Json.Faithful.map`: plain values, lists and maps.
* `Json.Field`, `Json.Faithful.record`: records. What is known of each field is put together.
-/

namespace AnnotationBridge.Json

variable {α β κ : Type} {f : Double → Double} {n height : Nat} {j : Json} {a : α}
  {decode : Decoder α} {encode : α → Json} {change : α → α}

/-- A value that can be written within `n` levels and is decoded as `a` once its double-precision
numbers are changed. -/
structure Holds (f : Double → Double) (n : Nat) (decode : Decoder α) (j : Json) (a : α) : Prop where
  written : Written n j
  decoded : decode (j.mapReals f) = some a

/-- The number itself if it has a property, else the number of the other sign. -/
def flipUnless (p : Double → Prop) [DecidablePred p] (x : Double) : Double :=
  if p x then x else ⟨!x.negative, x.magnitude⟩

/-- The sign stays exactly if the number has the property. -/
theorem flipUnless_eq_self_iff {p : Double → Prop} [DecidablePred p] {x : Double} :
    flipUnless p x = x ↔ p x := by
  obtain ⟨negative, magnitude⟩ := x
  unfold flipUnless
  split <;> simp_all

/-- What holds of the numbers of the encoding holds of the numbers that are carried: the encoding
has them all, or a change of one of them would not be seen in what is decoded from it. -/
theorem Holds.forall_reals {n : Nat} {decode : Decoder α} {j : Json} {a : α}
    {change : (Double → Double) → α → α} {carried : α → List Double} {p : Double → Prop}
    (h : ∀ f, Holds f n decode j (change f a)) (hreals : ∀ f, ThroughReals f (change f) carried)
    (hj : ∀ x ∈ j.reals, p x) : ∀ x ∈ carried a, p x := by
  classical
  have hdecoded := (h (flipUnless p)).decoded
  have hsame := (h id).decoded
  rw [(throughReals _ j).2 fun x hx => flipUnless_eq_self_iff.2 (hj x hx)] at hdecoded
  rw [(throughReals id j).2 fun _ _ => rfl, (hreals id a).2 fun _ _ => rfl] at hsame
  have hchange : change (flipUnless p) a = a := Option.some.inj (hdecoded.symm.trans hsame)
  exact fun x hx => flipUnless_eq_self_iff.1 ((hreals _ a).1 hchange x hx)

/-- A decoder and an encoder that fit together: what is decoded from a value that fits is encoded as
one that fits, and decoded again as the same up to `change`. Only `null` is decoded as something
that is encoded as `null`. -/
structure Faithful (f : Double → Double) (height : Nat) (decode : Decoder α) (encode : α → Json)
    (change : α → α) : Prop where
  holds : ∀ {n j a}, height ≤ n → Fits n j → decode j = some a →
    Holds f n decode (encode a) (change a)
  present : ∀ {j a}, decode j = some a → encode a = .null → j = .null

/-! ### Plain values -/

/-- Texts are kept as they are. -/
theorem text_faithful : Faithful f 0 text? .string id where
  holds _ _ _ := ⟨.string _, rfl⟩
  present _ h := nomatch h

/-- Truth values are kept as they are. -/
theorem flag_faithful : Faithful f 0 flag? .bool id where
  holds _ _ _ := ⟨.bool _, rfl⟩
  present _ h := nomatch h

/-- A signed number of 32 bits is read from its own value. -/
theorem int32?_int (k : Int32) : int32? (.int k.toInt) = some k := by
  show (intBetween? _ _ (.number (.integer k.toInt))).map Int32.ofInt = _
  rw [intBetween?, if_pos ⟨k.minValue_le_toInt, k.toInt_le⟩, Option.map_some, Int32.ofInt_toInt]

/-- A signed number of 32 bits can be written at any depth. -/
theorem written_int32 (k : Int32) : Written n (.int k.toInt) :=
  Written.int (Int.le_trans (by decide) k.minValue_le_toInt)
    (Int.lt_of_le_of_lt k.toInt_le (by decide))

/-- Signed numbers of 32 bits are kept. -/
theorem int32_faithful : Faithful f 0 int32? (fun k => .int k.toInt) id where
  holds {_ _ k} _ _ _ := ⟨written_int32 k, int32?_int k⟩
  present _ h := nomatch h

/-- A natural number is read if it is below the bound. -/
theorem natBelow?_nat {bound k : Nat} (h : k < bound) : natBelow? bound (.nat k) = some k := by
  show natBelow? bound (.number (.integer k)) = _
  rw [natBelow?, if_pos ⟨Int.natCast_nonneg k, by simpa using h⟩]
  rfl

/-- A natural number of 64 bits can be written at any depth. -/
theorem written_nat {k : Nat} (h : k < UInt64.size) : Written n (.nat k) :=
  Written.int (Int.le_trans (by decide) (Int.natCast_nonneg k)) (Int.ofNat_lt.2 h)

/-- Natural numbers of 32 bits are kept. -/
theorem uint32_faithful : Faithful f 0 uint32? (fun k => .nat k.toNat) id where
  holds {_ _ k} _ _ _ := by
    refine ⟨written_nat (Nat.lt_trans k.toNat_lt (by decide)), ?_⟩
    rw [mapReals_nat, uint32?, natBelow?_nat k.toNat_lt, Option.map_some, UInt32.ofNat_toNat]
    rfl
  present _ h := nomatch h

/-- What is written for a number of 64 bits is read as that number. -/
theorem uint64_holds (k : UInt64) : Holds f n uint64? (.nat k.toNat) k := by
  refine ⟨written_nat k.toNat_lt, ?_⟩
  rw [mapReals_nat, uint64?, natBelow?_nat k.toNat_lt, Option.map_some, UInt64.ofNat_toNat]

/-- Natural numbers of 64 bits are kept. -/
theorem uint64_faithful : Faithful f 0 uint64? (fun k => .nat k.toNat) id where
  holds {_ _ k} _ _ _ := uint64_holds k
  present _ h := nomatch h

/-- Any value is kept in canonical form. -/
theorem any_faithful : Faithful f 0 any? id (mapReals f) where
  holds {n j a} _ hfits h := by
    unfold any? at h
    split at h
    · rename_i hcomplete
      cases h
      refine ⟨⟨hfits.canonical, isComplete_canonical hcomplete⟩, ?_⟩
      rw [id, any?, if_pos (isComplete_mapReals (isComplete_canonical hcomplete)),
        canonical_mapReals, canonical_canonical]
    · cases h
  present {j a} h hnull := by
    unfold any? at h
    split at h
    · cases h
      exact canonical_eq_null_iff.1 hnull
    · cases h

/-! ### Lists and maps -/

/-- What fits within some levels fits within more. -/
theorem Faithful.mono {height' : Nat} (h : Faithful f height decode encode change)
    (hle : height ≤ height') : Faithful f height' decode encode change where
  holds hn := h.holds (Nat.le_trans hle hn)
  present := h.present

/-- Lists are faithful if their items are; they take one more level. -/
theorem Faithful.list (h : Faithful f height decode encode change) :
    Faithful f (height + 1) (list? decode) (fun as => .array (as.map encode)) (List.map change) where
  holds {n j as} hn hfits has := by
    obtain ⟨n, rfl⟩ := Nat.exists_eq_add_of_le' (Nat.le_trans (Nat.le_add_left 1 height) hn)
    cases j with
    | array items =>
      have hitems := fits_array_iff.1 hfits
      have hall : ∀ a ∈ as, Holds f n decode (encode a) (change a) := fun a ha => by
        obtain ⟨item, hitem, hdecode⟩ := exists_mem_of_mapM has ha
        exact h.holds (Nat.le_of_succ_le_succ hn) (hitems item hitem) hdecode
      refine ⟨.array fun j hj => ?_, ?_⟩
      · obtain ⟨a, ha, rfl⟩ := List.mem_map.1 hj
        exact (hall a ha).written
      · rw [mapReals_array, list?, mapM_eq_some_iff, List.map_map, List.forall₂_map_left_iff,
          List.forall₂_map_right_iff, List.forall₂_same]
        exact fun a ha => (hall a ha).decoded
    | _ => cases has
  present _ h := nomatch h

section Map

variable {decodeKey : String → Option κ} {nameOf : κ → String} {entries : List (String × κ × α)}

/-- An entry that is kept is one of those that were given. -/
theorem exists_of_mem_lastOf {e : κ × α} (h : e ∈ map?.lastOf entries) :
    ∃ name, (name, e) ∈ entries := by
  induction entries with
  | nil => cases h
  | cons entry entries ih =>
    obtain ⟨name, key, value⟩ := entry
    have hrest : e ∈ map?.lastOf entries → ∃ name', (name', e) ∈ (name, key, value) :: entries :=
      fun he => (ih he).imp fun _ => List.mem_cons_of_mem _
    rw [map?.lastOf] at h
    split at h
    · exact hrest h
    · obtain rfl | he := List.mem_cons.1 h
      · exact ⟨name, List.mem_cons_self⟩
      · exact hrest he

/-- Of entries with one name only one is kept. -/
theorem nodup_lastOf (h : ∀ e ∈ entries, nameOf e.2.1 = e.1) :
    ((map?.lastOf entries).map fun e => nameOf e.1).Nodup := by
  induction entries with
  | nil => exact List.nodup_nil
  | cons entry entries ih =>
    obtain ⟨name, key, value⟩ := entry
    obtain ⟨hname, hrest⟩ := List.forall_mem_cons.1 h
    dsimp only at hname
    rw [map?.lastOf]
    split
    · exact ih hrest
    · rename_i hnew
      refine List.nodup_cons.2 ⟨fun hmem => hnew ?_, ih hrest⟩
      obtain ⟨e, he, heq⟩ := List.mem_map.1 hmem
      obtain ⟨other, hother⟩ := exists_of_mem_lastOf he
      refine List.any_eq_true.2 ⟨_, hother, beq_iff_eq.2 ?_⟩
      exact (hrest _ hother).symm.trans (heq.trans hname)

/-- If the names are distinct, all entries are kept. -/
theorem lastOf_of_nodup (h : (entries.map Prod.fst).Nodup) :
    map?.lastOf entries = entries.map Prod.snd := by
  induction entries with
  | nil => rfl
  | cons entry entries ih =>
    obtain ⟨name, key, value⟩ := entry
    obtain ⟨hnew, hrest⟩ := List.nodup_cons.1 h
    have hany : entries.any (·.1 == name) = false := by
      rw [List.any_eq_false]
      intro e he heq
      exact hnew (List.mem_map.2 ⟨e, he, eq_of_beq heq⟩)
    rw [map?.lastOf, hany, ih hrest]
    rfl

/-- Values with distinct names are decoded one by one. -/
theorem map?_of_nodup {es : List (κ × α)} (write : α → Json)
    (hkey : ∀ k, decodeKey (nameOf k) = some k) (hnodup : (es.map fun e => nameOf e.1).Nodup)
    (h : ∀ e ∈ es, decode (write e.2) = some (change e.2)) :
    map? decodeKey decode (.object (es.map fun e => (nameOf e.1, write e.2))) =
      some (es.map fun e => (e.1, change e.2)) := by
  have hentries : (es.map fun e => (nameOf e.1, write e.2)).mapM
      (fun field => (decodeKey field.1).bind fun key => (decode field.2).bind fun value =>
        some (field.1, key, value)) = some (es.map fun e => (nameOf e.1, e.1, change e.2)) := by
    rw [mapM_eq_some_iff, List.forall₂_map_left_iff, List.forall₂_map_right_iff, List.forall₂_same]
    intro e he
    rw [hkey, h e he]
    rfl
  have hnames : ((es.map fun e => (nameOf e.1, e.1, change e.2)).map Prod.fst).Nodup := by
    rw [List.map_map]
    exact hnodup
  refine (congrArg (Option.bind · _) hentries).trans ?_
  rw [Option.bind_some, lastOf_of_nodup hnames, List.map_map]
  rfl

/-- Maps are faithful if their values are and each key has one name. -/
theorem Faithful.map (hkey : ∀ {s k}, decodeKey s = some k ↔ nameOf k = s)
    (h : Faithful f height decode encode change) :
    Faithful f (height + 1) (map? decodeKey decode)
      (fun es => .object (es.map fun e => (nameOf e.1, encode e.2)))
      (List.map fun e => (e.1, change e.2)) where
  holds {n j es} hn hfits hes := by
    obtain ⟨n, rfl⟩ := Nat.exists_eq_add_of_le' (Nat.le_trans (Nat.le_add_left 1 height) hn)
    cases j with
    | object fields =>
      have hfields := fits_object_iff.1 hfits
      obtain ⟨entries, hentries, heq⟩ := Option.bind_eq_some_iff.1 hes
      obtain rfl := Option.some.inj heq
      have hentry : ∀ e ∈ entries, nameOf e.2.1 = e.1 ∧
          Holds f n decode (encode e.2.2) (change e.2.2) := fun e he => by
        obtain ⟨⟨name, value⟩, hfield, hdecoded⟩ := exists_mem_of_mapM hentries he
        obtain ⟨key, hname, hdecoded⟩ := Option.bind_eq_some_iff.1 hdecoded
        obtain ⟨a, ha, heq⟩ := Option.bind_eq_some_iff.1 hdecoded
        obtain rfl := Option.some.inj heq
        exact ⟨hkey.1 hname, h.holds (Nat.le_of_succ_le_succ hn) (hfields _ hfield) ha⟩
      have hnodup := nodup_lastOf fun e he => (hentry e he).1
      have hlast : ∀ e ∈ map?.lastOf entries, Holds f n decode (encode e.2) (change e.2) :=
        fun e he => by
          obtain ⟨name, hmem⟩ := exists_of_mem_lastOf he
          exact (hentry _ hmem).2
      refine ⟨Written.object_iff.2 fun field hfield => ?_, ?_⟩
      · obtain ⟨e, he, rfl⟩ := List.mem_map.1 hfield
        exact (hlast e he).written
      · rw [mapReals_object, List.map_map]
        exact map?_of_nodup (fun a => (encode a).mapReals f) (fun k => hkey.2 rfl) hnodup
          fun e he => (hlast e he).decoded
    | _ => cases hes
  present _ h := nomatch h

end Map

/-! ### Records -/

variable {fields : List (String × Option Json)} {names : List String} {needed : Nat} {r : Record}
  {name : String}

/-- The fields of a record are those that are present. -/
theorem ofFields_eq (fields : List (String × Option Json)) :
    ofFields fields = .object (fields.filterMap fun e => e.2.map (e.1, ·)) := rfl

/-- A record can be written if each field that is present can. -/
theorem written_ofFields_iff :
    Written (n + 1) (ofFields fields) ↔ ∀ e ∈ fields, ∀ v, e.2 = some v → Written n v := by
  rw [ofFields_eq, Written.object_iff]
  constructor
  · intro h e he v hv
    exact h (e.1, v) (List.mem_filterMap.2 ⟨e, he, by rw [hv]; rfl⟩)
  · intro h field hfield
    obtain ⟨e, he, heq⟩ := List.mem_filterMap.1 hfield
    obtain ⟨v, hv, rfl⟩ := Option.map_eq_some_iff.1 heq
    exact h e he v hv

/-- The numbers of a record are changed field by field. -/
theorem mapReals_ofFields (fields : List (String × Option Json)) :
    (ofFields fields).mapReals f = ofFields (fields.map fun e => (e.1, e.2.map (mapReals f))) := by
  rw [ofFields, ofFields, mapReals_object, List.filterMap_map, List.map_filterMap]
  congr 2
  funext ⟨name, value⟩
  cases value <;> rfl

/-- The names that stand in a record are some of those given, in order. -/
theorem map_fst_ofFields_sublist (fields : List (String × Option Json)) :
    ((fields.filterMap fun e => e.2.map (e.1, ·)).map Prod.fst).Sublist (fields.map Prod.fst) := by
  induction fields with
  | nil => exact List.nil_sublist _
  | cons field fields ih =>
    obtain ⟨name, value⟩ := field
    cases value with
    | none => exact ih.cons name
    | some value => exact ih.cons_cons name

/-- A field of a record is found by its name. -/
theorem lookup_ofFields (hdistinct : (fields.map Prod.fst).Nodup) (name : String) :
    (fields.filterMap fun e => e.2.map (e.1, ·)).lookup name = (fields.lookup name).join := by
  induction fields with
  | nil => rfl
  | cons field fields ih =>
    obtain ⟨other, value⟩ := field
    obtain ⟨hnew, hrest⟩ := List.nodup_cons.1 hdistinct
    have ih := ih hrest
    rw [List.lookup_cons]
    cases hname : name == other with
    | false =>
      cases value with
      | none => exact ih
      | some value =>
        show ((other, value) :: _).lookup name = _
        rw [List.lookup_cons, hname]
        exact ih
    | true =>
      obtain rfl := eq_of_beq hname
      cases value with
      | none => exact ih.trans (by rw [lookup_eq_none_iff_notMem.2 hnew]; rfl)
      | some value =>
        show ((name, value) :: _).lookup name = _
        rw [List.lookup_cons, hname]
        rfl

/-- The record with the given fields. -/
def Record.of (fields : List (String × Option Json)) : Record := fun name =>
  (fields.lookup name).join

/-- The fields of a record are those that it was built of. -/
theorem record?_ofFields (hdistinct : (fields.map Prod.fst).Nodup) :
    record? names needed (ofFields fields) = some (Record.of fields) := by
  have honce : ∀ name, (fields.filterMap fun e => e.2.map (e.1, ·)).countP (·.1 == name) ≤ 1 := by
    intro name
    have hnodup := hdistinct.sublist (map_fst_ofFields_sublist fields)
    have hcount := List.nodup_iff_count_le_one.1 hnodup name
    rwa [List.count_eq_countP, List.countP_map] at hcount
  show (if _ then _ else _) = _
  rw [if_pos (List.all_eq_true.2 fun name _ => decide_eq_true (honce name))]
  exact congrArg some (funext (lookup_ofFields hdistinct))

/-- The values in a record that was decoded fit. -/
def Record.Fits (n : Nat) (r : Record) : Prop :=
  ∀ name v, r name = some v → Json.Fits n v

/-- What is decoded as a record has fields that fit one level below. -/
theorem record_fits (hj : Fits (n + 1) j) (h : record? names needed j = some r) : r.Fits n := by
  intro name v hv
  unfold record? at h
  split at h
  · split at h
    · cases h
      exact fits_object_iff.1 hj _ (mem_of_lookup hv)
    · cases h
  · split at h
    · cases h
      exact fits_array_iff.1 hj v (List.of_mem_zip (mem_of_lookup hv)).2
    · cases h
  · cases h

/-- A field of an encoded record: what stands in it can be written, and `read` yields `b` from any
record in which it stands, once its double-precision numbers are changed. -/
structure Field (f : Double → Double) (n : Nat) (name : String) (read : Record → Option β)
    (value : Option Json) (b : β) : Prop where
  written : ∀ v, value = some v → Written n v
  read : ∀ r : Record, r name = value.map (mapReals f) → read r = some b

/-- A field that must be there is kept. -/
theorem Faithful.required (h : Faithful f height decode encode change) (hn : height ≤ n)
    (hr : r.Fits n) (ha : r.required name decode = some a) :
    Field f n name (·.required name decode) (some (encode a)) (change a) := by
  obtain ⟨j, hj, hdecode⟩ := Option.bind_eq_some_iff.1 ha
  have hholds := h.holds hn (hr name j hj) hdecode
  refine ⟨?_, fun r' hr' => ?_⟩
  · rintro _ ⟨⟩
    exact hholds.written
  · rw [Record.required, hr']
    exact hholds.decoded

/-- Any value but `null` is decoded. -/
theorem nullable?_of_ne_null (h : j ≠ .null) : nullable? decode j = (decode j).map some := by
  cases j <;> first | exact absurd rfl h | rfl

/-- What is read from a field that may be absent or `null`. -/
theorem Faithful.holds_of_optional (h : Faithful f height decode encode change) (hn : height ≤ n)
    (hr : r.Fits n) (ha : r.optional name decode = some (some a)) :
    Holds f n decode (encode a) (change a) ∧ encode a ≠ .null := by
  unfold Record.optional at ha
  split at ha
  · cases ha
  · rename_i j hj
    have hnull : j ≠ .null := by
      rintro rfl
      cases ha
    rw [nullable?_of_ne_null hnull] at ha
    obtain ⟨a', hdecode, heq⟩ := Option.map_eq_some_iff.1 ha
    cases heq
    exact ⟨h.holds hn (hr name j hj) hdecode, fun heq => hnull (h.present hdecode heq)⟩

/-- A value that is not `null` is decoded also after its numbers are changed. -/
theorem Holds.nullable (h : Holds f n decode j a) (hnull : j ≠ .null) :
    nullable? decode (j.mapReals f) = some (some a) := by
  have hchanged : j.mapReals f ≠ .null := fun heq => hnull (mapReals_eq_null_iff.1 heq)
  rw [nullable?_of_ne_null hchanged, h.decoded, Option.map_some]

/-- A field that is left out if it is absent. -/
theorem Faithful.optional (h : Faithful f height decode encode change) (hn : height ≤ n)
    (hr : r.Fits n) {o : Option α} (ho : r.optional name decode = some o) :
    Field f n name (·.optional name decode) (o.map encode) (o.map change) := by
  cases o with
  | none =>
    refine ⟨by rintro _ ⟨⟩, fun r' hr' => ?_⟩
    rw [Record.optional, hr']
    rfl
  | some a =>
    obtain ⟨hholds, hnull⟩ := h.holds_of_optional hn hr ho
    refine ⟨?_, fun r' hr' => ?_⟩
    · rintro _ ⟨⟩
      exact hholds.written
    · rw [Record.optional, hr']
      exact hholds.nullable hnull

/-- A field that is `null` if it is absent. -/
theorem Faithful.nullable (h : Faithful f height decode encode change) (hn : height ≤ n)
    (hr : r.Fits n) {o : Option α} (ho : r.optional name decode = some o) :
    Field f n name (·.optional name decode) (some ((o.map encode).getD .null)) (o.map change) := by
  cases o with
  | none =>
    refine ⟨?_, fun r' hr' => ?_⟩
    · rintro _ ⟨⟩
      exact .null
    · rw [Record.optional, hr']
      rfl
  | some a =>
    obtain ⟨hholds, hnull⟩ := h.holds_of_optional hn hr ho
    refine ⟨?_, fun r' hr' => ?_⟩
    · rintro _ ⟨⟩
      exact hholds.written
    · rw [Record.optional, hr']
      exact hholds.nullable hnull

/-- A field that holds any value. -/
theorem any_optional (hr : r.Fits n) {o : Option Json} (ho : r.optional name any? = some o) :
    Field f n name (·.optional name any?) o (o.map (mapReals f)) := by
  have h := any_faithful.optional (f := f) (Nat.zero_le n) hr ho
  rwa [Option.map_id] at h

/-- A field that holds several values of any kind. -/
theorem anys_optional (hr : r.Fits n) (hn : 1 ≤ n) {o : Option (List Json)}
    (ho : r.optional name (list? any?) = some o) :
    Field f n name (·.optional name (list? any?)) (o.map .array)
      (o.map (List.map (mapReals f))) := by
  have h := any_faithful.list.optional (f := f) hn hr ho
  simpa only [List.map_id] using h

/-- A field with a default is always written, and kept. -/
theorem Faithful.defaulted (h : Faithful f height decode encode change) (hn : height ≤ n)
    (hr : r.Fits n) {default : α} (hdefault : Holds f n decode (encode default) (change default))
    (ha : r.defaulted name default decode = some a) :
    Field f n name (·.defaulted name default decode) (some (encode a)) (change a) := by
  have hholds : Holds f n decode (encode a) (change a) := by
    unfold Record.defaulted at ha
    split at ha
    · cases ha
      exact hdefault
    · rename_i j hj
      exact h.holds hn (hr name j hj) ha
  refine ⟨?_, fun r' hr' => ?_⟩
  · rintro _ ⟨⟩
    exact hholds.written
  · rw [Record.defaulted, hr']
    exact hholds.decoded

/-- A record with the given fields: each can be written, and `build` yields `a` from any record with
these fields once their double-precision numbers are changed. -/
structure Rebuilds (f : Double → Double) (n : Nat) (fields : List (String × Option Json))
    (build : Record → Option α) (a : α) : Prop where
  written : ∀ e ∈ fields, ∀ v, e.2 = some v → Written n v
  rebuilt : ∀ r : Record, (∀ name, r name = (Record.of fields name).map (mapReals f)) →
    build r = some a

/-- Such a record is decoded as what it was built from. -/
theorem Rebuilds.holds {build : Record → Option α} (h : Rebuilds f n fields build a)
    (hdistinct : (fields.map Prod.fst).Nodup) :
    Holds f (n + 1) (fun j => (record? names needed j).bind build) (ofFields fields) a := by
  refine ⟨written_ofFields_iff.2 h.written, ?_⟩
  · have hchanged : ((fields.map fun e => (e.1, e.2.map (mapReals f))).map Prod.fst).Nodup := by
      rw [List.map_map]
      exact hdistinct
    rw [mapReals_ofFields, record?_ofFields hchanged, Option.bind_some]
    refine h.rebuilt _ fun name => ?_
    rw [Record.of, Record.of, lookup_map_snd fun _ => Option.map (mapReals f)]
    cases fields.lookup name <;> rfl

/-- **A record is faithful** if it is built again from its fields. -/
theorem Faithful.record (fields : α → List (String × Option Json)) {build : Record → Option α}
    (hdecode : ∀ j, decode j = (record? names needed j).bind build)
    (hencode : ∀ a, encode a = ofFields (fields a))
    (hdistinct : ∀ a, ((fields a).map Prod.fst).Nodup)
    (hbuild : ∀ {n r a}, height ≤ n → r.Fits n → build r = some a →
      Rebuilds f n (fields a) build (change a)) :
    Faithful f (height + 1) decode encode change where
  holds {n j a} hn hfits ha := by
    obtain ⟨n, rfl⟩ := Nat.exists_eq_add_of_le' (Nat.le_trans (Nat.le_add_left 1 height) hn)
    rw [hdecode] at ha
    obtain ⟨r, hr, hbuilt⟩ := Option.bind_eq_some_iff.1 ha
    rw [hencode, funext hdecode]
    exact (hbuild (Nat.le_of_succ_le_succ hn) (record_fits hfits hr) hbuilt).holds (hdistinct a)
  present {j a} _ hnull := by
    rw [hencode] at hnull
    cases hnull

/-- A record of two parts, of which the second is written first, is faithful if its parts are. -/
theorem Faithful.pair {γ : Type} {decodeLeft : Decoder β} {decodeRight : Decoder γ}
    {encodeLeft : β → Json} {encodeRight : γ → Json} {left : α → β} {right : α → γ}
    {make : β → γ → α} {nameLeft nameRight : String} (hnames : nameRight ≠ nameLeft)
    (hleft : Faithful f height decodeLeft encodeLeft id)
    (hright : Faithful f height decodeRight encodeRight id)
    (hdecode : ∀ j, decode j = (record? names needed j).bind fun r =>
      (r.required nameLeft decodeLeft).bind fun b => (r.required nameRight decodeRight).bind fun c =>
        some (make b c))
    (hencode : ∀ a, encode a =
      .object [(nameRight, encodeRight (right a)), (nameLeft, encodeLeft (left a))])
    (hparts : ∀ b c, left (make b c) = b ∧ right (make b c) = c) :
    Faithful f (height + 1) decode encode id := by
  refine Faithful.record (fun a => [(nameRight, some (encodeRight (right a))),
    (nameLeft, some (encodeLeft (left a)))]) hdecode hencode (fun _ => by simpa using hnames) ?_
  intro n r a hn hr h
  simp only [Option.bind_eq_some_iff, Option.some.injEq] at h
  obtain ⟨b, hb, c, hc, rfl⟩ := h
  have hb := hleft.required hn hr hb
  have hc := hright.required hn hr hc
  rw [(hparts b c).1, (hparts b c).2]
  refine ⟨?_, fun r' hr' => ?_⟩
  · simp only [List.forall_mem_cons]
    exact ⟨hc.written, hb.written, nofun⟩
  · have hread := hr' nameLeft
    rw [Record.of, List.lookup_cons, beq_false_of_ne hnames.symm, List.lookup_cons_self] at hread
    have hread' := hr' nameRight
    rw [Record.of, List.lookup_cons_self] at hread'
    rw [hb.read r' hread, hc.read r' hread']
    rfl

/-! ### Tagged values -/

variable {tag body : Json}

/-- A record has no entry of a name that it lacks. -/
theorem filter_beq_eq_nil (h : fields.lookup name = none) :
    (fields.filterMap fun e => e.2.map (e.1, ·)).filter (·.1 == name) = [] := by
  rw [List.filter_eq_nil_iff]
  intro e he heq
  have hname := (map_fst_ofFields_sublist fields).subset (List.mem_map_of_mem he)
  rw [eq_of_beq heq] at hname
  exact lookup_eq_none_iff_notMem.1 h hname

/-- A record has exactly one entry of a name that it has. -/
theorem filter_beq_eq_singleton (hdistinct : (fields.map Prod.fst).Nodup)
    (htag : fields.lookup name = some (some tag)) :
    (fields.filterMap fun e => e.2.map (e.1, ·)).filter (·.1 == name) = [(name, tag)] := by
  induction fields with
  | nil => cases htag
  | cons field fields ih =>
    obtain ⟨other, value⟩ := field
    obtain ⟨hnew, hrest⟩ := List.nodup_cons.1 hdistinct
    rw [List.lookup_cons] at htag
    cases hname : name == other with
    | true =>
      rw [hname] at htag
      obtain rfl := eq_of_beq hname
      obtain rfl := Option.some.inj htag
      show ((name, tag) :: _).filter _ = _
      rw [List.filter_cons, if_pos (beq_self_eq_true name),
        filter_beq_eq_nil (lookup_eq_none_iff_notMem.2 hnew)]
    | false =>
      rw [hname] at htag
      have hother : ¬ (other == name) = true := by
        rw [BEq.comm, hname]
        decide
      cases value with
      | none => exact ih hrest htag
      | some value =>
        show ((other, value) :: _).filter _ = _
        rw [List.filter_cons, if_neg hother]
        exact ih hrest htag

/-- The entries of other names are those of the other fields. -/
theorem filter_bne_ofFields (fields : List (String × Option Json)) (name : String) :
    (fields.filterMap fun e => e.2.map (e.1, ·)).filter (·.1 != name) =
      (fields.filter (·.1 != name)).filterMap fun e => e.2.map (e.1, ·) := by
  induction fields with
  | nil => rfl
  | cons field fields ih =>
    obtain ⟨other, value⟩ := field
    rw [List.filter_cons]
    cases value with
    | none => split <;> exact ih
    | some value =>
      show ((other, value) :: _).filter _ = _
      rw [List.filter_cons]
      dsimp only
      split
      · rw [ih]
        rfl
      · exact ih

/-- A tag is taken off the other fields. -/
theorem tagged?_ofFields (hdistinct : (fields.map Prod.fst).Nodup)
    (htag : fields.lookup name = some (some tag)) :
    tagged? name (ofFields fields) = some (tag, ofFields (fields.filter (·.1 != name))) := by
  rw [ofFields_eq, ofFields_eq, tagged?]
  simp only [filter_beq_eq_singleton hdistinct htag, filter_bne_ofFields]

/-- No tag is taken off a record that lacks it. -/
theorem tagged?_eq_none (h : fields.lookup name = none) : tagged? name (ofFields fields) = none := by
  rw [ofFields_eq, tagged?]
  simp only [filter_beq_eq_nil h]

/-- What is left of a value without its tag fits. -/
theorem Fits.of_tagged? (hj : Fits n j) (h : tagged? name j = some (tag, body)) : Fits n body := by
  unfold tagged? at h
  split at h
  · split at h
    · cases h
      obtain ⟨n, rfl⟩ : ∃ m, n = m + 1 := by cases hj; exact ⟨_, rfl⟩
      exact .object fun e he => fits_object_iff.1 hj e (List.mem_of_mem_filter he)
    · cases h
  · cases h
    obtain ⟨n, rfl⟩ : ∃ m, n = m + 1 := by cases hj; exact ⟨_, rfl⟩
    exact .array fun j hmem => fits_array_iff.1 hj j (List.mem_cons_of_mem _ hmem)
  · cases h

end AnnotationBridge.Json
