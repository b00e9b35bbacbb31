import AnnotationBridge.Proofs.Currency
import AnnotationBridge.Proofs.History
import Mathlib.Data.Set.Card

/-!
# A marker store is its history

What a store answers about a key depends on the last change of that key and on nothing else: the
markers of the last replacement, or nothing if they were taken away since or never were there.

* `MarkerChange.ReplacedLast`: the markers of a key were replaced last at some point of a history,
  and are still there.
* `MarkerStore.ofHistory`: the store after a history of changes, and `MarkerStore.answer?`, the
  generation that a replacement answers.
* `MarkerStore.batch?_ofHistory_eq_some_iff`: the batch of a key is that of its last replacement.
* `MarkerStore.encard_batches`: the size of a store is the number of keys that hold a batch.
* `MarkerStore.ofHistory_refines`: all that a store answers, said of its history.
-/

namespace AnnotationBridge

open Lsp

variable {locate : Locator} {history : List MarkerChange} {c : MarkerChange} {e : EditorId}
  {v : String} {earlier : List MarkerChange} {d : Document} {diagnostics : List Diagnostic}

/-! ### The last replacement of a key -/

/-- The markers of a key were replaced last after the changes `earlier`, by those for `diagnostics`,
and no later change of the history is about the key. -/
def MarkerChange.ReplacedLast (history : List MarkerChange) (e : EditorId) (v : String)
    (earlier : List MarkerChange) (d : Document) (diagnostics : List Diagnostic) : Prop :=
  History.LastAt history earlier (.replace e v d diagnostics) (·.Touches e v)

open MarkerChange

namespace MarkerStore

/-! ### The store of a history -/

/-- The store after a history of changes, which was empty before. -/
def ofHistory (locate : Locator) (history : List MarkerChange) : MarkerStore :=
  empty.changes locate history

/-- What a change answers: a replacement answers the generation of the batch that it makes. -/
def answer? (locate : Locator) (s : MarkerStore) : MarkerChange → Option Nat
  | .replace e v d diagnostics => (s.replace locate e v d diagnostics).generation e v
  | .clear _ _ | .clearEditor _ => none

/-- A replacement answers the next generation. -/
theorem answer?_replace (s : MarkerStore) (e : EditorId) (v : String) (d : Document)
    (diagnostics : List Diagnostic) :
    s.answer? locate (.replace e v d diagnostics) = some s.next := by
  rw [answer?, generation, batch?_replace, if_pos rfl]
  rfl

/-- The later changes are made to what the earlier ones have left. -/
theorem ofHistory_append (earlier later : List MarkerChange) :
    ofHistory locate (earlier ++ later) = (ofHistory locate earlier).changes locate later :=
  changes_append earlier later

/-- The last change is made to what the others have left. -/
theorem ofHistory_concat (history : List MarkerChange) (c : MarkerChange) :
    ofHistory locate (history ++ [c]) = (ofHistory locate history).change locate c :=
  ofHistory_append history [c]

/-- After any changes the store is well formed. -/
theorem wellFormed_ofHistory (locate : Locator) (history : List MarkerChange) :
    (ofHistory locate history).WellFormed :=
  WellFormed.empty.changes history

/-- **The batch of a key is that of its last replacement**, under the generation that was next
then. -/
theorem batch?_ofHistory_eq_some_iff {b : Batch} :
    (ofHistory locate history).batch? e v = some b ↔
      ∃ earlier d diagnostics, ReplacedLast history e v earlier d diagnostics ∧
        b = ⟨(ofHistory locate earlier).next, diagnostics.map
          (Marker.ofDiagnostic locate e v (ofHistory locate earlier).next d)⟩ := by
  induction history using List.reverseRecOn with
  | nil =>
    constructor
    · intro hb
      cases hb
    · rintro ⟨earlier, d, diagnostics, hlast, -⟩
      exact absurd hlast History.not_lastAt_nil
  | append_singleton history c ih =>
    rw [ofHistory_concat]
    simp only [ReplacedLast, History.lastAt_concat_iff]
    by_cases ht : c.Touches e v
    · constructor
      · intro hb
        rcases batch?_change_of_touches locate (ofHistory locate history) ht with
          hnone | ⟨d, diagnostics, rfl, hsome⟩
        · rw [hnone] at hb
          cases hb
        · rw [hsome] at hb
          exact ⟨history, d, diagnostics, .inl ⟨rfl, rfl⟩, (Option.some.inj hb).symm⟩
      · rintro ⟨earlier, d, diagnostics, ⟨rfl, rfl⟩ | ⟨hnot, -⟩, rfl⟩
        · rw [change, batch?_replace, if_pos rfl]
        · exact absurd ht hnot
    · rw [batch?_change_of_not_touches ht, ih]
      constructor
      · rintro ⟨earlier, d, diagnostics, hlast, hb⟩
        exact ⟨earlier, d, diagnostics, .inr ⟨ht, hlast⟩, hb⟩
      · rintro ⟨earlier, d, diagnostics, ⟨rfl, -⟩ | ⟨-, hlast⟩, hb⟩
        · exact absurd ⟨rfl, rfl⟩ ht
        · exact ⟨earlier, d, diagnostics, hlast, hb⟩

/-- The batch of a key is the one of its last replacement. -/
theorem batch?_of_replacedLast (locate : Locator)
    (h : ReplacedLast history e v earlier d diagnostics) :
    (ofHistory locate history).batch? e v = some ⟨(ofHistory locate earlier).next,
      diagnostics.map (Marker.ofDiagnostic locate e v (ofHistory locate earlier).next d)⟩ :=
  batch?_ofHistory_eq_some_iff.2 ⟨earlier, d, diagnostics, h, rfl⟩

/-- A key holds a batch exactly if it has a last replacement. -/
theorem isSome_batch?_ofHistory_iff :
    ((ofHistory locate history).batch? e v).isSome = true ↔
      ∃ earlier d diagnostics, ReplacedLast history e v earlier d diagnostics := by
  rw [Option.isSome_iff_exists]
  constructor
  · rintro ⟨b, hb⟩
    obtain ⟨earlier, d, diagnostics, hlast, -⟩ := batch?_ofHistory_eq_some_iff.1 hb
    exact ⟨earlier, d, diagnostics, hlast⟩
  · rintro ⟨earlier, d, diagnostics, hlast⟩
    exact ⟨_, batch?_of_replacedLast locate hlast⟩

/-! ### What the operations answer -/

/-- After the last replacement of a key, the key has one marker for each diagnostic, in order. -/
theorem collect_of_replacedLast (locate : Locator)
    (h : ReplacedLast history e v earlier d diagnostics) :
    ((ofHistory locate history).collect e v).map Marker.diagnostic = diagnostics ∧
      (ofHistory locate history).generation e v = some (ofHistory locate earlier).next ∧
      ∀ m ∈ (ofHistory locate history).collect e v,
        m.editor = e ∧ m.server = v ∧ m.generation = (ofHistory locate earlier).next := by
  have hb := batch?_of_replacedLast locate h
  refine ⟨?_, ?_, fun m hm => ?_⟩
  · rw [collect, hb]
    simp [Marker.ofDiagnostic, Function.comp_def]
  · rw [generation, hb]
    rfl
  · obtain ⟨b, hb', hmem⟩ := mem_collect.1 hm
    obtain rfl := Option.some.inj (hb.symm.trans hb')
    exact (wellFormed_ofHistory locate history).own e v _ hb' m hmem

/-- A change leaves what is answered about a key that it is not about. -/
theorem collect_change_of_not_touches (s : MarkerStore) (ht : ¬ c.Touches e v) :
    (s.change locate c).collect e v = s.collect e v ∧
      (s.change locate c).generation e v = s.generation e v := by
  rw [collect, collect, generation, generation, batch?_change_of_not_touches ht]
  exact ⟨rfl, rfl⟩

/-- The size of a store is the number of keys that hold a batch. -/
theorem encard_batches (s : MarkerStore) :
    {k : EditorId × String | (s.batch? k.1 k.2).isSome = true}.encard = s.size := by
  have hkeys : {k : EditorId × String | (s.batch? k.1 k.2).isSome = true} =
      (s.batches.keys.toFinset : Set (EditorId × String)) := by
    ext k
    rw [Finset.mem_coe, List.mem_toFinset, FiniteMap.mem_keys_iff]
    rfl
  have hnodup : s.batches.keys.Nodup := s.batches.nodup
  rw [hkeys, Set.encard_coe_eq_coe_finsetCard, List.toFinset_card_of_nodup hnodup,
    FiniteMap.length_keys]
  rfl

/-- **A store answers as its history says.** If the markers of a key were replaced and not touched
since, the key has one marker for each of the diagnostics, in order, under the generation that the
replacement answered; else it has neither markers nor a generation. The size is the number of keys
of the first kind, and a change of one key does not change what is answered about another. -/
theorem ofHistory_refines (locate : Locator) (history : List MarkerChange) :
    (∀ e v earlier d diagnostics, ReplacedLast history e v earlier d diagnostics →
      ∃ g, (ofHistory locate earlier).answer? locate (.replace e v d diagnostics) = some g ∧
        ((ofHistory locate history).collect e v).map Marker.diagnostic = diagnostics ∧
        (ofHistory locate history).generation e v = some g ∧
        ∀ m ∈ (ofHistory locate history).collect e v,
          m.editor = e ∧ m.server = v ∧ m.generation = g) ∧
      (∀ e v, (¬ ∃ earlier d diagnostics, ReplacedLast history e v earlier d diagnostics) →
        (ofHistory locate history).collect e v = [] ∧
          (ofHistory locate history).generation e v = none) ∧
      {k : EditorId × String |
          ∃ earlier d diagnostics, ReplacedLast history k.1 k.2 earlier d diagnostics}.encard =
        (ofHistory locate history).size ∧
      ∀ c e v, ¬ c.Touches e v →
        (ofHistory locate (history ++ [c])).collect e v = (ofHistory locate history).collect e v ∧
          (ofHistory locate (history ++ [c])).generation e v =
            (ofHistory locate history).generation e v := by
  refine ⟨fun e v earlier d diagnostics hlast => ?_, fun e v hnot => ?_, ?_, fun c e v ht => ?_⟩
  · exact ⟨_, answer?_replace _ e v d diagnostics, collect_of_replacedLast locate hlast⟩
  · have hnone : (ofHistory locate history).batch? e v = none := by
      rw [← Option.not_isSome_iff_eq_none, isSome_batch?_ofHistory_iff]
      exact hnot
    rw [collect, generation, hnone]
    exact ⟨rfl, rfl⟩
  · have hkeys (k : EditorId × String) :
        (∃ earlier d diagnostics, ReplacedLast history k.1 k.2 earlier d diagnostics) ↔
          ((ofHistory locate history).batch? k.1 k.2).isSome = true :=
      isSome_batch?_ofHistory_iff.symm
    simp only [hkeys]
    exact encard_batches _
  · rw [ofHistory_concat]
    exact collect_change_of_not_touches _ ht

namespace Sample

/-- A document about which something is published. -/
def document : Document :=
  ⟨⟨1⟩, ⟨"file:///w/published", by decide⟩, none, "a", none, ⟨"text".toList, 0⟩⟩

/-- A diagnostic about the whole text. -/
def diagnostic (message : String) : Diagnostic :=
  { range := ⟨⟨0, 0⟩, ⟨0, 4⟩⟩, message }

/-- One key is cleared and replaced again, one holds no markers, and one is lost with its editor. -/
def course : List MarkerChange :=
  [.replace ⟨1⟩ "x" document [diagnostic "a"], .replace ⟨2⟩ "x" document [diagnostic "b"],
    .replace ⟨1⟩ "y" document [], .clear ⟨1⟩ "x",
    .replace ⟨1⟩ "x" document [diagnostic "c", diagnostic "d"], .clearEditor ⟨2⟩]

end Sample

/-- After the history the first key has the markers of its second replacement, the key whose editor
was closed has none, and closing the first editor as well would leave the latter as it is. -/
theorem ofHistory_refines_three_keys :
    ((ofHistory tokenLocator Sample.course).collect ⟨1⟩ "x").map Marker.diagnostic =
        [Sample.diagnostic "c", Sample.diagnostic "d"] ∧
      (ofHistory tokenLocator Sample.course).collect ⟨2⟩ "x" = [] ∧
      (ofHistory tokenLocator (Sample.course ++ [.clearEditor ⟨1⟩])).generation ⟨2⟩ "x" = none := by
  obtain ⟨held, lost, -, apart⟩ := ofHistory_refines tokenLocator Sample.course
  have replaced : ReplacedLast Sample.course ⟨1⟩ "x" (Sample.course.take 4) Sample.document
      [Sample.diagnostic "c", Sample.diagnostic "d"] := by
    refine ⟨[.clearEditor ⟨2⟩], rfl, ?_⟩
    simp [Touches]
  have gone : ¬ ∃ earlier d diagnostics,
      ReplacedLast Sample.course ⟨2⟩ "x" earlier d diagnostics := by
    rintro ⟨earlier, d, diagnostics, hlast⟩
    have hlast' : ReplacedLast (Sample.course.take 5 ++ [.clearEditor ⟨2⟩]) ⟨2⟩ "x" earlier d
        diagnostics := hlast
    rcases History.lastAt_concat_iff.1 hlast' with ⟨hc, -⟩ | ⟨hnot, -⟩
    · cases hc
    · exact hnot rfl
  have other : ¬ (MarkerChange.clearEditor ⟨1⟩).Touches ⟨2⟩ "x" := by
    simp [Touches]
  obtain ⟨g, -, hdiagnostics, -⟩ := held _ _ _ _ _ replaced
  exact ⟨hdiagnostics, (lost _ _ gone).1, (apart _ _ _ other).2.trans (lost _ _ gone).2⟩

end MarkerStore

end AnnotationBridge
