import AnnotationBridge.Marker

/-!
# Which markers are current

A marker store changes by whole batches: one batch takes the place of another, or batches are taken
away. Generations never come back, so a marker that was read from the store at some time stays
current exactly until a change touches its key.

* `MarkerChange`, `MarkerStore.change`, `MarkerStore.changes`: changes of a store, and histories of
  them. `MarkerChange.Touches` says which keys a change is about.
* `MarkerStore.WellFormed`: every generation in use is below the next one, and the markers of a
  batch carry its key and its generation.
* `MarkerStore.batch?_changes`: after any history, a key that was not touched holds its old batch,
  and a key that was touched holds a newer batch or none.
* `MarkerStore.mem_collect_changes_iff`, `MarkerStore.isCurrent_changes_iff`: the same for a marker;
  being a marker of the batch and having its generation are one thing.
-/

namespace AnnotationBridge

/-- A change of a marker store. -/
inductive MarkerChange where
  | replace (editor : EditorId) (server : String) (d : Document) (diagnostics : List Lsp.Diagnostic)
  | clear (editor : EditorId) (server : String)
  | clearEditor (editor : EditorId)

/-- Whether a change is about the key of an editor and a server. -/
def MarkerChange.Touches (editor : EditorId) (server : String) : MarkerChange → Prop
  | .replace e v _ _ => e = editor ∧ v = server
  | .clear e v => e = editor ∧ v = server
  | .clearEditor e => e = editor

namespace MarkerStore

variable {locate : Locator} {s : MarkerStore} {e : EditorId} {v : String} {m : Marker}

/-- The store after a change. -/
def change (locate : Locator) (s : MarkerStore) : MarkerChange → MarkerStore
  | .replace e v d diagnostics => s.replace locate e v d diagnostics
  | .clear e v => s.clear e v
  | .clearEditor e => s.clearEditor e

/-- The store after a history of changes. -/
def changes (locate : Locator) (s : MarkerStore) (history : List MarkerChange) : MarkerStore :=
  history.foldl (change locate) s

/-- No changes leave the store as it is. -/
@[simp] theorem changes_nil : s.changes locate [] = s := rfl

/-- Changes are made one after the other. -/
@[simp] theorem changes_cons (c : MarkerChange) (history : List MarkerChange) :
    s.changes locate (c :: history) = (s.change locate c).changes locate history := rfl

/-- The later changes are made to what the earlier ones have left. -/
theorem changes_append (earlier later : List MarkerChange) :
    s.changes locate (earlier ++ later) = (s.changes locate earlier).changes locate later :=
  List.foldl_append

/-! ### Reading a store -/

/-- The markers of a key are those of the batch that it holds. -/
theorem mem_collect : m ∈ s.collect e v ↔ ∃ b, s.batch? e v = some b ∧ m ∈ b.markers := by
  unfold collect
  cases s.batch? e v <;> simp

/-- A marker is current if its key holds a batch of its generation. -/
theorem isCurrent_iff :
    s.isCurrent m = true ↔ ∃ b, s.batch? m.editor m.server = some b ∧ b.generation = m.generation := by
  unfold isCurrent generation
  cases s.batch? m.editor m.server <;> simp

/-! ### One change -/

/-- Generations are not given out twice. -/
theorem next_le_next_change (c : MarkerChange) : s.next ≤ (s.change locate c).next := by
  cases c with
  | replace e v d diagnostics => exact Nat.le_succ s.next
  | clear e v => exact Nat.le_refl s.next
  | clearEditor e => exact Nat.le_refl s.next

/-- A change leaves the keys that it is not about as they are. -/
theorem batch?_change_of_not_touches {c : MarkerChange} (h : ¬ c.Touches e v) :
    (s.change locate c).batch? e v = s.batch? e v := by
  cases c with
  | replace e' v' d diagnostics =>
    rw [change, batch?_replace, if_neg]
    intro hkey
    obtain ⟨rfl, rfl⟩ := Prod.mk.inj hkey
    exact h ⟨rfl, rfl⟩
  | clear e' v' =>
    rw [change, batch?_clear, if_neg]
    intro hkey
    obtain ⟨rfl, rfl⟩ := Prod.mk.inj hkey
    exact h ⟨rfl, rfl⟩
  | clearEditor e' =>
    rw [change, batch?_clearEditor, if_neg]
    exact fun heq => h heq.symm

/-- After a change that is about a key, the key holds nothing or the batch of a replacement, which
has the newest generation. -/
theorem batch?_change_of_touches (locate : Locator) (s : MarkerStore) {c : MarkerChange}
    (h : c.Touches e v) :
    (s.change locate c).batch? e v = none ∨
      ∃ d diagnostics, c = .replace e v d diagnostics ∧
        (s.change locate c).batch? e v =
          some ⟨s.next, diagnostics.map (Marker.ofDiagnostic locate e v s.next d)⟩ := by
  cases c with
  | replace e' v' d diagnostics =>
    obtain ⟨rfl, rfl⟩ := h
    exact .inr ⟨d, diagnostics, rfl, by rw [change, batch?_replace, if_pos rfl]⟩
  | clear e' v' =>
    obtain ⟨rfl, rfl⟩ := h
    exact .inl (by rw [change, batch?_clear, if_pos rfl])
  | clearEditor e' =>
    obtain rfl : e' = e := h
    exact .inl (by rw [change, batch?_clearEditor, if_pos rfl])

/-- A batch that a key holds after a change that is about it has the newest generation. -/
theorem generation_of_touches {c : MarkerChange} (h : c.Touches e v) {b : Batch}
    (hb : (s.change locate c).batch? e v = some b) : b.generation = s.next := by
  rcases batch?_change_of_touches locate s h with hn | ⟨d, diagnostics, -, hs⟩
  · rw [hn] at hb
    cases hb
  · rw [hs] at hb
    rw [← Option.some.inj hb]

/-! ### Well-formed stores -/

/-- What holds of every store that was empty once. -/
structure WellFormed (s : MarkerStore) : Prop where
  /-- A generation in use was given out. -/
  generation_lt : ∀ e v b, s.batch? e v = some b → b.generation < s.next
  /-- The markers of a batch carry its key and its generation. -/
  own : ∀ e v b, s.batch? e v = some b → ∀ m ∈ b.markers,
    m.editor = e ∧ m.server = v ∧ m.generation = b.generation

/-- The empty store is well formed. -/
theorem WellFormed.empty : WellFormed .empty where
  generation_lt e v b h := by cases h
  own e v b h := by cases h

/-- A change keeps a store well-formed. -/
theorem WellFormed.change (h : s.WellFormed) (c : MarkerChange) :
    (s.change locate c).WellFormed := by
  refine ⟨fun e v b hb => ?_, fun e v b hb m hm => ?_⟩
  · by_cases ht : c.Touches e v
    · rcases batch?_change_of_touches locate s ht with hn | ⟨d, ds, rfl, hs⟩
      · rw [hn] at hb
        cases hb
      · rw [hs] at hb
        obtain rfl := Option.some.inj hb
        exact Nat.lt_succ_self s.next
    · rw [batch?_change_of_not_touches ht] at hb
      exact Nat.lt_of_lt_of_le (h.generation_lt e v b hb) (next_le_next_change c)
  · by_cases ht : c.Touches e v
    · rcases batch?_change_of_touches locate s ht with hn | ⟨d, ds, -, hs⟩
      · rw [hn] at hb
        cases hb
      · rw [hs] at hb
        obtain rfl := Option.some.inj hb
        obtain ⟨diagnostic, -, rfl⟩ := List.mem_map.1 hm
        exact ⟨rfl, rfl, rfl⟩
    · rw [batch?_change_of_not_touches ht] at hb
      exact h.own e v b hb m hm

/-- A history keeps a store well-formed. -/
theorem WellFormed.changes (h : s.WellFormed) (history : List MarkerChange) :
    (s.changes locate history).WellFormed := by
  induction history generalizing s with
  | nil => exact h
  | cons c history ih => exact ih (h.change c)

/-- A marker that was read from a key carries that key. -/
theorem WellFormed.key_of_mem_collect (h : s.WellFormed) (hm : m ∈ s.collect e v) :
    m.editor = e ∧ m.server = v := by
  obtain ⟨b, hb, hmem⟩ := mem_collect.1 hm
  exact ⟨(h.own e v b hb m hmem).1, (h.own e v b hb m hmem).2.1⟩

/-- A marker of a batch that a key holds is current. -/
theorem WellFormed.isCurrent_of_mem_collect (h : s.WellFormed)
    (hm : m ∈ s.collect m.editor m.server) : s.isCurrent m = true := by
  obtain ⟨b, hb, hmem⟩ := mem_collect.1 hm
  exact isCurrent_iff.2 ⟨b, hb, (h.own _ _ b hb m hmem).2.2.symm⟩

/-! ### Histories -/

/-- **A key that was not touched holds its old batch; a key that was touched holds a newer batch or
none.** Newer means that its generation was not given out before the history. -/
theorem batch?_changes (locate : Locator) (s : MarkerStore) (history : List MarkerChange) :
    ((∀ c ∈ history, ¬ c.Touches e v) ∧ (s.changes locate history).batch? e v = s.batch? e v) ∨
      ((∃ c ∈ history, c.Touches e v) ∧
        ∀ b, (s.changes locate history).batch? e v = some b → s.next ≤ b.generation) := by
  induction history generalizing s with
  | nil => exact .inl ⟨fun c hc => absurd hc List.not_mem_nil, rfl⟩
  | cons c history ih =>
    rcases ih (s.change locate c) with ⟨hun, hsame⟩ | ⟨⟨c', hc', ht'⟩, hnew⟩
    · by_cases ht : c.Touches e v
      · refine .inr ⟨⟨c, List.mem_cons_self, ht⟩, fun b hb => ?_⟩
        rw [changes_cons, hsame] at hb
        exact Nat.le_of_eq (generation_of_touches ht hb).symm
      · refine .inl ⟨List.forall_mem_cons.2 ⟨ht, hun⟩, ?_⟩
        rw [changes_cons, hsame, batch?_change_of_not_touches ht]
    · refine .inr ⟨⟨c', List.mem_cons_of_mem c hc', ht'⟩, fun b hb => ?_⟩
      exact Nat.le_trans (next_le_next_change c) (hnew b hb)

/-- **A marker that was read from a well-formed store stays in the batch of its key exactly as long
as no change touches the key.** -/
theorem mem_collect_changes_iff (hs : s.WellFormed) (hm : m ∈ s.collect m.editor m.server)
    (history : List MarkerChange) :
    m ∈ (s.changes locate history).collect m.editor m.server ↔
      ∀ c ∈ history, ¬ c.Touches m.editor m.server := by
  obtain ⟨b, hb, hmem⟩ := mem_collect.1 hm
  rcases batch?_changes locate s history with ⟨hun, hsame⟩ | ⟨⟨c, hc, ht⟩, hnew⟩
  · exact iff_of_true (mem_collect.2 ⟨b, hsame.trans hb, hmem⟩) hun
  · refine iff_of_false (fun hin => ?_) fun hun => hun c hc ht
    obtain ⟨b', hb', hmem'⟩ := mem_collect.1 hin
    -- the marker would be in a batch of its own generation, and all later generations are larger
    have hgen := (hs.own _ _ b hb m hmem).2.2
    have hgen' := ((hs.changes history).own _ _ b' hb' m hmem').2.2
    have := hs.generation_lt _ _ b hb
    have := hnew b' hb'
    omega

/-- **Having the generation of the batch and being one of its markers are the same** for a marker
that was read from the store before. -/
theorem isCurrent_changes_iff (hs : s.WellFormed) (hm : m ∈ s.collect m.editor m.server)
    (history : List MarkerChange) :
    (s.changes locate history).isCurrent m = true ↔
      m ∈ (s.changes locate history).collect m.editor m.server := by
  rw [mem_collect_changes_iff hs hm, isCurrent_iff]
  obtain ⟨b, hb, hmem⟩ := mem_collect.1 hm
  have hgen := (hs.own _ _ b hb m hmem).2.2
  rcases batch?_changes locate s history with ⟨hun, hsame⟩ | ⟨⟨c, hc, ht⟩, hnew⟩
  · exact iff_of_true ⟨b, hsame.trans hb, hgen.symm⟩ hun
  · refine iff_of_false (fun ⟨b', hb', hgen'⟩ => ?_) fun hun => hun c hc ht
    have := hs.generation_lt _ _ b hb
    have := hnew b' hb'
    omega

end MarkerStore

end AnnotationBridge
