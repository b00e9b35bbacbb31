import AnnotationBridge.Proofs.MarkerHistory

/-!
# Currency is final

A marker belongs to the replacement that made it, and is current until the first later change of its
key. Generations are counted over the whole store and never come back, so nothing that happens later
makes the marker current again.

* `MarkerStore.answers`, `MarkerStore.answers_eq_range'`: the generations that the replacements of a
  history answer are counted up.
* `MarkerStore.Made`: the replacement of a history that made a marker.
  `MarkerStore.exists_made_of_mem_collect`, `MarkerStore.Made.unique`: there is one.
* `MarkerStore.Made.isCurrent_iff`: a marker is current as long as its key is not touched.
* `MarkerStore.currency_final`: all this for the markers that were ever read from a store.
-/

namespace AnnotationBridge

open Lsp MarkerChange

/-- Whether a change is a replacement. -/
def MarkerChange.isReplacement : MarkerChange → Bool
  | .replace _ _ _ _ => true
  | .clear _ _ | .clearEditor _ => false

namespace MarkerStore

variable {locate : Locator} {s : MarkerStore} {history past later later' : List MarkerChange}
  {earlier earlier' : List MarkerChange} {m m' : Marker} {e : EditorId} {v : String}

/-! ### Generations are counted up -/

/-- The generations that the replacements of a history answer, in order. -/
def answers (locate : Locator) (s : MarkerStore) : List MarkerChange → List Nat
  | [] => []
  | c :: history => (s.answer? locate c).toList ++ (s.change locate c).answers locate history

/-- **Each replacement answers the next number.** A counter of 64 bits is enough for `2 ^ 64 - 1`
replacements. -/
theorem answers_eq_range' (locate : Locator) (s : MarkerStore) (history : List MarkerChange) :
    s.answers locate history = List.range' s.next (history.countP isReplacement) := by
  induction history generalizing s with
  | nil => rfl
  | cons c history ih =>
    rw [answers, ih, List.countP_cons]
    cases c with
    | replace e v d diagnostics =>
      rw [answer?_replace]
      exact List.range'_succ.symm
    | clear e v => rfl
    | clearEditor e => rfl

/-- Generations are counted on. -/
theorem next_le_next_changes (locate : Locator) (s : MarkerStore) (history : List MarkerChange) :
    s.next ≤ (s.changes locate history).next := by
  induction history generalizing s with
  | nil => exact Nat.le_refl s.next
  | cons c history ih => exact Nat.le_trans (next_le_next_change c) (ih (s.change locate c))

/-- A replacement in between makes the next generation larger. -/
theorem next_lt_next_of_replacement (locate : Locator) {d : Document}
    {diagnostics : List Diagnostic} :
    (ofHistory locate earlier).next <
      (ofHistory locate (earlier ++ .replace e v d diagnostics :: later)).next := by
  have hstep : ((ofHistory locate earlier).change locate (.replace e v d diagnostics)).next =
      (ofHistory locate earlier).next + 1 := rfl
  rw [ofHistory_append, changes_cons]
  have hlater := next_le_next_changes locate
    ((ofHistory locate earlier).change locate (.replace e v d diagnostics)) later
  omega

/-! ### The replacement that made a marker -/

/-- In a history the marker was made by the replacement after the changes `earlier`: it is one of
the markers that its key has then. The changes `later` came after it. -/
def Made (locate : Locator) (history earlier : List MarkerChange) (m : Marker)
    (later : List MarkerChange) : Prop :=
  ∃ d diagnostics, history = earlier ++ .replace m.editor m.server d diagnostics :: later ∧
    m ∈ ((ofHistory locate earlier).replace locate m.editor m.server d diagnostics).collect
      m.editor m.server

/-- A marker stays made when the history goes on. -/
theorem Made.append (h : Made locate past earlier m later) (future : List MarkerChange) :
    Made locate (past ++ future) earlier m (later ++ future) := by
  obtain ⟨d, diagnostics, rfl, hm⟩ := h
  exact ⟨d, diagnostics, by simp, hm⟩

/-- A marker has the generation that its replacement answered. -/
theorem Made.generation_eq (h : Made locate history earlier m later) :
    m.generation = (ofHistory locate earlier).next := by
  obtain ⟨d, diagnostics, -, hm⟩ := h
  obtain ⟨b, hb, hmem⟩ := mem_collect.1 hm
  rw [batch?_replace, if_pos rfl] at hb
  obtain rfl := Option.some.inj hb
  obtain ⟨diagnostic, -, hdiagnostic⟩ := List.mem_map.1 hmem
  rw [← hdiagnostic]
  rfl

/-- A marker that is read from a store carries the key and was made by a replacement. -/
theorem exists_made_of_mem_collect (hm : m ∈ (ofHistory locate history).collect e v) :
    m.editor = e ∧ m.server = v ∧ ∃ earlier later, Made locate history earlier m later := by
  obtain ⟨rfl, rfl⟩ := (wellFormed_ofHistory locate history).key_of_mem_collect hm
  obtain ⟨b, hb, hmem⟩ := mem_collect.1 hm
  obtain ⟨earlier, d, diagnostics, ⟨later, rfl, -⟩, rfl⟩ := batch?_ofHistory_eq_some_iff.1 hb
  refine ⟨rfl, rfl, earlier, later, d, diagnostics, rfl, mem_collect.2 ⟨_, ?_, hmem⟩⟩
  rw [batch?_replace, if_pos rfl]

/-- Of two replacements of one history that made markers, they are the same or one comes after the
other. -/
theorem Made.eq_or_mem (h : Made locate history earlier m later)
    (h' : Made locate history earlier' m' later') :
    (earlier = earlier' ∧ later = later') ∨
      (∃ between d diagnostics,
        earlier' = earlier ++ .replace m.editor m.server d diagnostics :: between ∧
          ∃ c ∈ later, c.Touches m'.editor m'.server) ∨
      ∃ between d diagnostics,
        earlier = earlier' ++ .replace m'.editor m'.server d diagnostics :: between ∧
          ∃ c ∈ later', c.Touches m.editor m.server := by
  obtain ⟨d, diagnostics, rfl, -⟩ := h
  obtain ⟨d', diagnostics', heq, -⟩ := h'
  rcases List.append_eq_append_iff.1 heq with ⟨between, rfl, hrest⟩ | ⟨between, rfl, hrest⟩
  · cases between with
    | nil =>
      rw [List.nil_append, List.cons.injEq] at hrest
      exact .inl ⟨(List.append_nil earlier).symm, hrest.2⟩
    | cons c between =>
      rw [List.cons_append, List.cons.injEq] at hrest
      obtain ⟨rfl, rfl⟩ := hrest
      exact .inr (.inl ⟨between, d, diagnostics, rfl, _,
        List.mem_append_right _ List.mem_cons_self, rfl, rfl⟩)
  · cases between with
    | nil =>
      rw [List.nil_append, List.cons.injEq] at hrest
      exact .inl ⟨List.append_nil earlier', hrest.2.symm⟩
    | cons c between =>
      rw [List.cons_append, List.cons.injEq] at hrest
      obtain ⟨rfl, rfl⟩ := hrest
      exact .inr (.inr ⟨between, d', diagnostics', rfl, _,
        List.mem_append_right _ List.mem_cons_self, rfl, rfl⟩)

/-- A marker is made once. -/
theorem Made.unique (h : Made locate history earlier m later)
    (h' : Made locate history earlier' m later') : earlier = earlier' ∧ later = later' := by
  have hgen : (ofHistory locate earlier).next = (ofHistory locate earlier').next :=
    h.generation_eq.symm.trans h'.generation_eq
  rcases h.eq_or_mem h' with heq | ⟨between, d, ds, rfl, -⟩ | ⟨between, d, ds, rfl, -⟩
  · exact heq
  · exact absurd hgen (Nat.ne_of_lt (next_lt_next_of_replacement locate))
  · exact absurd hgen.symm (Nat.ne_of_lt (next_lt_next_of_replacement locate))

/-! ### Currency -/

/-- **A marker is current exactly as long as no change after its replacement touches its key.** -/
theorem Made.isCurrent_iff (h : Made locate history earlier m later) :
    (ofHistory locate history).isCurrent m = true ↔ ∀ c ∈ later, ¬ c.Touches m.editor m.server := by
  obtain ⟨d, diagnostics, rfl, hm⟩ := h
  have hs : ((ofHistory locate earlier).change locate
      (.replace m.editor m.server d diagnostics)).WellFormed :=
    (wellFormed_ofHistory locate earlier).change _
  rw [ofHistory_append, changes_cons, isCurrent_changes_iff hs hm, mem_collect_changes_iff hs hm]

/-- A marker that is not current stays so. -/
theorem Made.isCurrent_append (h : Made locate past earlier m later)
    (hm : (ofHistory locate past).isCurrent m = false) (future : List MarkerChange) :
    (ofHistory locate (past ++ future)).isCurrent m = false := by
  rw [← Bool.not_eq_true] at hm ⊢
  intro hcur
  rw [(h.append future).isCurrent_iff] at hcur
  exact hm (h.isCurrent_iff.2 fun c hc => hcur c (List.mem_append_left future hc))

/-- Of two markers of one key that were made by different replacements, one is not current. -/
theorem Made.not_both_current (h : Made locate history earlier m later)
    (h' : Made locate history earlier' m' later') (heditor : m.editor = m'.editor)
    (hserver : m.server = m'.server) (hne : earlier ≠ earlier') :
    ¬ ((ofHistory locate history).isCurrent m = true ∧
      (ofHistory locate history).isCurrent m' = true) := by
  rintro ⟨hcur, hcur'⟩
  rcases h.eq_or_mem h' with ⟨heq, -⟩ | ⟨-, -, -, -, c, hc, ht⟩ | ⟨-, -, -, -, c, hc, ht⟩
  · exact hne heq
  · rw [← heditor, ← hserver] at ht
    exact h.isCurrent_iff.1 hcur c hc ht
  · rw [heditor, hserver] at ht
    exact h'.isCurrent_iff.1 hcur' c hc ht

/-- **Currency is final.** Whatever happens to a store: each marker that was ever read from it was
made by one replacement, is current exactly if no later change touched its key, and never is current
again once it is not; markers of different replacements of a key are not current together; and the
replacements answer larger and larger generations, whatever their keys are. -/
theorem currency_final (locate : Locator) (history : List MarkerChange) :
    (∀ past future e v m, history = past ++ future → m ∈ (ofHistory locate past).collect e v →
      m.editor = e ∧ m.server = v ∧ ∃ earlier later, Made locate history earlier m later ∧
        (∀ earlier' later', Made locate history earlier' m later' → earlier' = earlier) ∧
        ((ofHistory locate history).isCurrent m = true ↔
          ∀ c ∈ later, ¬ c.Touches m.editor m.server) ∧
        ∀ further, (ofHistory locate history).isCurrent m = false →
          (ofHistory locate (history ++ further)).isCurrent m = false) ∧
      (∀ m m' earlier earlier' later later', Made locate history earlier m later →
        Made locate history earlier' m' later' → m.editor = m'.editor → m.server = m'.server →
        earlier ≠ earlier' →
        ¬ ((ofHistory locate history).isCurrent m = true ∧
          (ofHistory locate history).isCurrent m' = true)) ∧
      (empty.answers locate history).Pairwise (· < ·) := by
  refine ⟨fun past future e v m heq hm => ?_, fun m m' _ _ _ _ h h' he hv hne => ?_, ?_⟩
  · obtain ⟨he, hv, earlier, between, hpast⟩ := exists_made_of_mem_collect hm
    have hmade : Made locate history earlier m (between ++ future) := by
      rw [heq]
      exact hpast.append future
    exact ⟨he, hv, earlier, _, hmade, fun _ _ h => (h.unique hmade).1, hmade.isCurrent_iff,
      fun further hnot => hmade.isCurrent_append hnot further⟩
  · exact h.not_both_current h' he hv hne
  · rw [answers_eq_range']
    exact List.pairwise_lt_range'

namespace Sample

/-- The marker of the first replacement. -/
def oldMarker : Marker :=
  ⟨⟨1⟩, "x", 1, diagnostic "a", ⟨0, 4⟩, "text"⟩

end Sample

/-- The marker of the first replacement is not current after its key was cleared and replaced, and
publishing the same diagnostic once more does not make it current. -/
theorem currency_final_republished :
    (ofHistory tokenLocator (Sample.course.take 1)).isCurrent Sample.oldMarker = true ∧
      (ofHistory tokenLocator Sample.course).isCurrent Sample.oldMarker = false ∧
      (ofHistory tokenLocator (Sample.course ++
        [.replace ⟨1⟩ "x" Sample.document [Sample.diagnostic "a"]])).isCurrent
          Sample.oldMarker = false := by
  have hold : Sample.oldMarker ∈
      (ofHistory tokenLocator (Sample.course.take 1)).collect ⟨1⟩ "x" := by
    have hcollect : (ofHistory tokenLocator (Sample.course.take 1)).collect ⟨1⟩ "x" =
        [Sample.oldMarker] := rfl
    rw [hcollect]
    exact List.mem_singleton_self Sample.oldMarker
  have hstale : (ofHistory tokenLocator Sample.course).isCurrent Sample.oldMarker = false := rfl
  obtain ⟨-, -, -, -, -, -, -, final⟩ := (currency_final tokenLocator Sample.course).1
    (Sample.course.take 1) (Sample.course.drop 1) ⟨1⟩ "x" Sample.oldMarker rfl hold
  exact ⟨rfl, hstale, final _ hstale⟩

end MarkerStore

end AnnotationBridge
