import AnnotationBridge.Proofs.Entries
import AnnotationBridge.Proofs.JsonTokens

/-!
# Texts of values

* `Json.Written.ofText?_toText`: a value is read from its text, up to what becomes of its numbers.
* `Json.fits_of_ofText?`: what is read from any text nests no deeper than readers support, and its
  numbers are within the bounds.
-/

namespace AnnotationBridge.Json

variable {f : Double → Double} {limit n : Nat} {j value : Json} {t : Token} {ts : List Token}
  {r r' : Reader} {e : Expect} {frames around : List Frame}

namespace Reader

/-! ### Reading the tokens of a value -/

/-- A token that is accepted is followed by the others. -/
theorem foldlM_of_step? (h : r.step? limit t = some r') :
    (t :: ts).foldlM (step? limit) r = ts.foldlM (step? limit) r' := by
  rw [List.foldlM_cons, h]
  rfl

/-- A place where a value is read. -/
def AtValue (e : Expect) : Prop :=
  e = .value ∨ e = .valueOrClose

/-- From the tokens of a value the value is read, whatever follows. -/
def Reads (limit : Nat) (frames : List Frame) (j : Json) : Prop :=
  ∀ e ts, AtValue e →
    (j.tokens ++ ts).foldlM (step? limit) ⟨e, frames⟩ = ts.foldlM (step? limit) ⟨.done j, frames⟩

/-- Where a value is expected, a token other than a closing bracket opens one. -/
theorem step?_of_open? (he : AtValue e) (hclose : t ≠ .closeArray) :
    step? limit ⟨e, frames⟩ t = open? ⟨e, frames⟩ t := by
  obtain rfl | rfl := he
  · rfl
  · exact if_neg hclose

/-- A value of one token is read if that token opens and ends it. -/
theorem reads_of_open? (htokens : j.tokens = [t]) (hclose : t ≠ .closeArray)
    (hopen : ∀ e, open? ⟨e, frames⟩ t = some ⟨.done j, frames⟩) : Reads limit frames j := by
  intro e ts he
  rw [htokens, List.singleton_append]
  exact foldlM_of_step? ((step?_of_open? he hclose).trans (hopen e))

/-- The items of an array are read one after the other. -/
theorem foldlM_itemTokens {items : List Json} (done : List Json)
    (he : e = .valueOrClose ∨ e = .value ∧ items ≠ [])
    (h : ∀ done, ∀ j ∈ items, Reads limit (.items done :: around) j) :
    (itemTokens items ++ .closeArray :: ts).foldlM (step? limit) ⟨e, .items done :: around⟩ =
      ts.foldlM (step? limit) ⟨.done (within limit around (.array (done.reverse ++ items))), around⟩ := by
  induction items generalizing e done with
  | nil =>
    obtain rfl : e = .valueOrClose := he.resolve_right fun h => h.2 rfl
    rw [List.append_nil]
    exact foldlM_of_step? rfl
  | cons item items ih =>
    have hitem := h done item List.mem_cons_self e
    have hvalue : AtValue e := he.symm.imp And.left id
    cases items with
    | nil =>
      rw [itemTokens, hitem _ hvalue, ← List.reverse_cons]
      exact foldlM_of_step? rfl
    | cons next items =>
      have hrest := ih (e := .value) (item :: done) (.inr ⟨rfl, List.cons_ne_nil _ _⟩)
        fun done j hj => h done j (List.mem_cons_of_mem _ hj)
      rw [List.reverse_cons, List.append_assoc, List.singleton_append] at hrest
      rw [itemTokens, List.append_assoc, hitem _ hvalue, List.cons_append, ← hrest]
      exact foldlM_of_step? rfl

/-- An object whose fields have names is closed as the object of these. -/
theorem closeObject_of_named (fields : List (String × Json)) :
    Json.closeObject (fields.map fun e => (some e.1, e.2)).reverse = .object fields := by
  have hfields : (fields.map fun e => (some e.1, e.2)).mapM
      (fun e : Option String × Json => e.1.map (·, e.2)) = some fields := by
    rw [mapM_eq_some_iff, List.forall₂_map_left_iff]
    exact List.forall₂_same.2 fun _ _ => rfl
  unfold Json.closeObject
  rw [List.reverse_reverse]
  split
  · rename_i found hfound
    rw [Option.some.inj (hfields.symm.trans hfound)]
  · rename_i hnone
    cases hfields.symm.trans hnone

/-- After the name of a field and a colon its value is expected. -/
theorem step?_colon {done : List (Option String × Json)} {old name : Option String} :
    step? limit ⟨.colon name, .fields done old :: around⟩ .colon =
      some ⟨.value, .fields done name :: around⟩ := rfl

/-- The fields of an object are read one after the other. -/
theorem foldlM_fieldTokens {fields : List (String × Json)} (done : List (String × Json))
    (he : e = .nameOrClose ∨ e = .name ∧ fields ≠ [])
    (h : ∀ done name, ∀ field ∈ fields, Reads limit (.fields done name :: around) field.2) :
    (fieldTokens fields ++ .closeObject :: ts).foldlM (step? limit)
        ⟨e, .fields (done.map fun e => (some e.1, e.2)).reverse none :: around⟩ =
      ts.foldlM (step? limit) ⟨.done (within limit around (.object (done ++ fields))), around⟩ := by
  induction fields generalizing e done with
  | nil =>
    obtain rfl : e = .nameOrClose := he.resolve_right fun h => h.2 rfl
    rw [List.append_nil, ← closeObject_of_named]
    exact foldlM_of_step? rfl
  | cons field fields ih =>
    obtain ⟨name, value⟩ := field
    have hvalue := fun done => h done (some name) _ List.mem_cons_self .value
    have hname : step? limit ⟨e, .fields (done.map fun e => (some e.1, e.2)).reverse none :: around⟩
        (.string (some name)) = some ⟨.colon (some name),
          .fields (done.map fun e => (some e.1, e.2)).reverse none :: around⟩ := by
      obtain rfl | ⟨rfl, -⟩ := he <;> rfl
    have hdone : (some name, value) :: (done.map fun e => (some e.1, e.2)).reverse =
        ((done ++ [(name, value)]).map fun e => (some e.1, e.2)).reverse := by
      rw [List.map_append, List.reverse_append]
      rfl
    cases fields with
    | nil =>
      rw [fieldTokens, List.cons_append, foldlM_of_step? hname, List.cons_append,
        foldlM_of_step? step?_colon, hvalue _ _ (.inl rfl),
        ← closeObject_of_named, ← hdone]
      exact foldlM_of_step? rfl
    | cons next fields =>
      have hrest := ih (e := .name) (done ++ [(name, value)])
        (.inr ⟨rfl, List.cons_ne_nil _ _⟩)
        fun done name e he => h done name e (List.mem_cons_of_mem _ he)
      rw [List.append_assoc, List.singleton_append] at hrest
      rw [fieldTokens, List.cons_append, foldlM_of_step? hname, List.cons_append,
        foldlM_of_step? step?_colon, List.append_assoc, hvalue _ _ (.inl rfl),
        List.cons_append, ← hrest, ← hdone]
      exact foldlM_of_step? rfl

/-- A value that is nested less deep than the limit is kept. -/
theorem within_of_lt (h : around.length < limit) : within limit around j = j :=
  if_pos h

/-- **A value that does not nest too deep is read from its tokens.** -/
theorem reads_of_fits (f : Double → Double) (h : Fits n j) (hc : j.isComplete = true)
    (hn : frames.length + n ≤ limit) : Reads limit frames (j.mapReals f) := by
  induction h generalizing frames with
  | null => exact reads_of_open? rfl (by decide) fun _ => rfl
  | bool b => exact reads_of_open? rfl (by rintro ⟨⟩) fun _ => rfl
  | number _ => exact reads_of_open? rfl (by rintro ⟨⟩) fun _ => rfl
  | string s => exact reads_of_open? rfl (by rintro ⟨⟩) fun _ => rfl
  | unusable => cases hc
  | @array n items _ ih =>
    have hitems : ∀ done, ∀ j ∈ items.map (mapReals f), Reads limit (.items done :: frames) j := by
      rintro done j hj
      obtain ⟨item, hitem, rfl⟩ := List.mem_map.1 hj
      exact ih item hitem (isComplete_array.1 hc item hitem) (by rw [List.length_cons]; omega)
    rw [mapReals_array]
    intro e ts he
    rw [tokens, List.cons_append, List.append_assoc, List.singleton_append,
      foldlM_of_step? ((step?_of_open? he (by decide)).trans rfl),
      foldlM_itemTokens [] (.inl rfl) hitems, within_of_lt (by omega)]
    rfl
  | @object n fields _ ih =>
    have hfields : ∀ done name, ∀ e ∈ fields.map fun e => (e.1, e.2.mapReals f),
        Reads limit (.fields done name :: frames) e.2 := by
      rintro done name e he
      obtain ⟨field, hfield, rfl⟩ := List.mem_map.1 he
      exact ih field hfield (isComplete_object.1 hc field hfield) (by rw [List.length_cons]; omega)
    rw [mapReals_object]
    intro e ts he
    rw [tokens, List.cons_append, List.append_assoc, List.singleton_append,
      foldlM_of_step? ((step?_of_open? he (by decide)).trans rfl)]
    refine (foldlM_fieldTokens [] (.inl rfl) hfields).trans ?_
    rw [within_of_lt (by omega)]
    rfl

end Reader

/-- **A value is read from its text**, up to what becomes of its numbers. -/
theorem Written.ofText?_toText (h : Written nestingLimit j) :
    ofText? j.toText = some (j.mapReals Double.reread) := by
  have hreads : Reader.Reads nestingLimit [] (j.mapReals Double.reread) :=
    Reader.reads_of_fits Double.reread h.fits h.complete (by simp)
  have hreads := hreads .value [] (.inl rfl)
  rw [List.append_nil] at hreads
  rw [ofText?, ofTextWithin?, h.fits.ofChars?_toText]
  simp only [Option.bind_eq_bind, Option.bind_some, hreads]
  rfl

/-! ### What is read from any text -/

/-- A token whose number, if it has one, is within the bounds. -/
def Token.Valid (t : Token) : Prop :=
  ∀ k, t = .number (some k) → k.Valid

/-- A keyword is a token within the bounds. -/
theorem keyword?_valid {cs rest : List Char} (h : keyword? cs = some (t, rest)) : t.Valid := by
  unfold keyword? at h
  split at h <;> cases h <;> rintro _ ⟨⟩

/-- Each token of a text is within the bounds. -/
theorem Token.first?_valid {cs rest : List Char} (h : Token.first? cs = some (t, rest)) :
    t.Valid := by
  cases cs with
  | nil => cases h
  | cons c cs =>
    rw [Token.first?] at h
    split at h
    · rename_i hmark
      cases h
      rintro k rfl
      unfold Token.ofMark? at hmark
      split at hmark <;> cases hmark
    · split at h
      · obtain ⟨_, -, h⟩ := Option.map_eq_some_iff.1 h
        cases h
        rintro _ ⟨⟩
      · split at h
        · obtain ⟨number, hnumber, h⟩ := Option.map_eq_some_iff.1 h
          cases h
          rintro k ⟨⟩
          exact Number.valid_of_ofLiteral? hnumber
        · exact keyword?_valid h

/-- The numbers of a text are within the bounds. -/
theorem valid_of_ofChars? {cs : List Char} (h : Token.ofChars? cs = some ts) :
    ∀ t ∈ ts, t.Valid := by
  fun_induction Token.ofChars? cs generalizing ts with
  | case1 => cases h; simp
  | case2 _ _ _ ih => exact ih h
  | case3 => cases h
  | case4 _ _ _ t after hfirst _ ih =>
    obtain ⟨rest, hrest, rfl⟩ := Option.map_eq_some_iff.1 h
    exact List.forall_mem_cons.2 ⟨Token.first?_valid hfirst, ih hrest⟩

namespace Reader

/-- The values in a container that has been opened. -/
def Frame.values : Frame → List Json
  | .items done => done
  | .fields done _ => done.map Prod.snd

/-- The values in the open containers fit into what is left of the limit at their depth. -/
def FramesFit (limit : Nat) : List Frame → Prop
  | [] => True
  | frame :: around =>
    (∀ v ∈ Frame.values frame, Json.Fits (limit - (around.length + 1)) v) ∧ FramesFit limit around

/-- All that has been read fits. -/
structure Fits (limit : Nat) (r : Reader) : Prop where
  frames : FramesFit limit r.frames
  value : ∀ v, r.expect = .done v → Json.Fits (limit - r.frames.length) v

/-- A value that fits or is nested too deep leaves one that fits. -/
theorem fits_within (h : around.length < limit → Json.Fits (limit - around.length) j) :
    Json.Fits (limit - around.length) (within limit around j) := by
  unfold within
  split
  · exact h ‹_›
  · exact .unusable

/-- A container that is nested too deep has no value, so the rest of the limit always suffices. -/
theorem sub_length_eq (h : around.length < limit) :
    limit - around.length = limit - (around.length + 1) + 1 := by
  omega

/-- An object fits if the values of its fields do. -/
theorem fits_closeObject {done : List (Option String × Json)}
    (h : ∀ v ∈ done.map Prod.snd, Json.Fits n v) : Json.Fits (n + 1) (Json.closeObject done) := by
  unfold Json.closeObject
  split
  · rename_i fields hfields
    refine .object fun field hfield => ?_
    obtain ⟨e, he, hnamed⟩ := exists_mem_of_mapM hfields hfield
    obtain ⟨name, -, rfl⟩ := Option.map_eq_some_iff.1 hnamed
    exact h e.2 (List.mem_map_of_mem (List.mem_reverse.1 he))
  · exact .unusable

/-- The value that is kept in a frame fits there. -/
theorem framesFit_keep (hframes : FramesFit limit frames)
    (hvalue : Json.Fits (limit - frames.length) value) : FramesFit limit (keep value frames) := by
  cases frames with
  | nil => exact trivial
  | cons frame around =>
    cases frame with
    | items done => exact ⟨List.forall_mem_cons.2 ⟨hvalue, hframes.1⟩, hframes.2⟩
    | fields done name => exact ⟨List.forall_mem_cons.2 ⟨hvalue, hframes.1⟩, hframes.2⟩

/-- Where no value is done, only the frames have to fit. -/
theorem Fits.pending (hframes : FramesFit limit frames) (he : ∀ v, e ≠ .done v) :
    Fits limit ⟨e, frames⟩ :=
  ⟨hframes, fun v hv => absurd hv (he v)⟩

/-- Where a value is done, it has to fit as well. -/
theorem fits_done (hframes : FramesFit limit frames)
    (hvalue : Json.Fits (limit - frames.length) value) : Fits limit ⟨.done value, frames⟩ :=
  ⟨hframes, by rintro _ ⟨⟩; exact hvalue⟩

/-- A token that opens a value keeps the bounds. -/
theorem open?_fits (hframes : FramesFit limit r.frames) (ht : t.Valid) (h : r.open? t = some r') :
    r'.Fits limit := by
  unfold open? at h
  split at h <;> cases h
  · exact fits_done hframes .null
  · exact fits_done hframes (.bool _)
  · exact fits_done hframes (.number (ht _ rfl))
  · exact fits_done hframes .unusable
  · exact fits_done hframes (.string _)
  · exact fits_done hframes .unusable
  · exact .pending ⟨by rintro _ ⟨⟩, hframes⟩ (by rintro _ ⟨⟩)
  · exact .pending ⟨by rintro _ ⟨⟩, hframes⟩ (by rintro _ ⟨⟩)

/-- A token that closes a value keeps the bounds. -/
theorem close?_fits (hframes : FramesFit limit r.frames) (h : r.close? limit t = some r') :
    r'.Fits limit := by
  unfold close? at h
  split at h
  · split at h
    · rename_i done around heq
      rw [heq] at hframes
      cases h
      refine fits_done hframes.2 (fits_within fun hlimit => ?_)
      rw [sub_length_eq hlimit]
      exact .array fun v hv => hframes.1 v (List.mem_reverse.1 hv)
    · cases h
  · split at h
    · rename_i done name around heq
      rw [heq] at hframes
      cases h
      refine fits_done hframes.2 (fits_within fun hlimit => ?_)
      rw [sub_length_eq hlimit]
      exact fits_closeObject hframes.1
    · cases h
  · cases h

/-- **Reading a token keeps to the limit.** -/
theorem step?_fits (hr : r.Fits limit) (ht : t.Valid) (h : r.step? limit t = some r') :
    r'.Fits limit := by
  obtain ⟨expect, frames⟩ := r
  obtain ⟨hframes, hvalue⟩ := hr
  unfold step? at h
  cases expect with
  | value => exact open?_fits hframes ht h
  | valueOrClose =>
    simp only at h
    split at h
    · exact close?_fits hframes h
    · exact open?_fits hframes ht h
  | nameOrClose =>
    simp only at h
    split at h
    · cases h
      exact .pending hframes (by rintro _ ⟨⟩)
    · exact close?_fits hframes h
    · cases h
  | name =>
    simp only at h
    split at h
    · cases h
      exact .pending hframes (by rintro _ ⟨⟩)
    · cases h
  | colon name =>
    simp only at h
    split at h
    · cases h
      exact .pending hframes (by rintro _ ⟨⟩)
    · cases h
  | done value =>
    have hkept := framesFit_keep hframes (hvalue value rfl)
    simp only at h
    split at h
    · cases h
      exact .pending hkept (by rintro _ ⟨⟩)
    · cases h
      exact .pending hkept (by rintro _ ⟨⟩)
    · exact close?_fits hkept h
    · exact close?_fits hkept h
    · cases h

/-- Reading any tokens keeps to the limit. -/
theorem foldlM_fits (hr : r.Fits limit) (ht : ∀ t ∈ ts, t.Valid)
    (h : ts.foldlM (step? limit) r = some r') : r'.Fits limit := by
  induction ts generalizing r with
  | nil =>
    cases h
    exact hr
  | cons t ts ih =>
    rw [List.foldlM_cons] at h
    obtain ⟨next, hnext, h⟩ := Option.bind_eq_some_iff.1 h
    obtain ⟨hfirst, hrest⟩ := List.forall_mem_cons.1 ht
    exact ih (step?_fits hr hfirst hnext) hrest h

end Reader

/-- **What is read from any text fits.** -/
theorem fits_of_ofText? {text : String} (h : ofText? text = some j) : Fits nestingLimit j := by
  unfold ofText? ofTextWithin? at h
  obtain ⟨ts, hts, h⟩ := Option.bind_eq_some_iff.1 h
  obtain ⟨r, hr, h⟩ := Option.bind_eq_some_iff.1 h
  have hstart : Reader.Fits nestingLimit ⟨.value, []⟩ := .pending trivial (by rintro _ ⟨⟩)
  obtain ⟨-, hvalue⟩ := Reader.foldlM_fits hstart (valid_of_ofChars? hts) hr
  unfold Reader.value? at h
  split at h
  · rename_i v hexpect hframes
    cases h
    rw [hframes] at hvalue
    exact hvalue j hexpect
  · cases h

end AnnotationBridge.Json
