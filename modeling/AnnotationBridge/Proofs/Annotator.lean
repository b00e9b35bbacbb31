import AnnotationBridge.Annotator
import AnnotationBridge.Proofs.Currency
import AnnotationBridge.Proofs.Workbench

/-!
# What the acts of an annotator do

One statement for each act, so that no later proof opens an act again.

* `Annotator.snd_publish`: a publish is a history of marker changes and an event.
  `Annotator.touches_replacements_iff`: it touches the key of its server in each editor that it
  returns.
* `Annotator.collect_eq_some`, `Annotator.collect_of_isOpen`: the pass that is made, and that an
  open editor has one. `Annotator.mem_collect_of_collected`: its markers are those that the store
  holds.
* `Annotator.accepts`: whether a result is shown; `Annotator.apply_of_accepts` and
  `Annotator.apply_of_not_accepts` say what happens then, and that nothing happens otherwise.
* `Annotator.snd_publish`, `Annotator.snd_collect`, `Annotator.snd_apply`: the annotator after an
  act, as the annotator before it with other values in the fields that the act reaches.
* `Annotator.queuedResults`: the results that wait for the UI thread.
-/

namespace AnnotationBridge

open Lsp

/-! ### The requests of a pass and the items of its results -/

/-- There is one request for each marker, in order. -/
theorem Pass.map_marker_requestsFrom (pass start : Nat) (markers : List Marker) :
    (requestsFrom pass start markers).map Request.marker = markers := by
  unfold requestsFrom
  rw [List.map_map]
  exact List.zipIdx_map_fst start markers

/-- An inquiry is about one of the connections and asks about that connection's markers. -/
theorem Pass.mem_inquiriesFrom {pass start : Nat} {markersOf : Connection → List Marker}
    {connections : List Connection} {i : Inquiry}
    (h : i ∈ inquiriesFrom pass start markersOf connections) :
    i.connection ∈ connections ∧ ∀ r ∈ i.requests, r.marker ∈ markersOf i.connection := by
  induction connections generalizing start with
  | nil => cases h
  | cons c cs ih =>
    rcases List.mem_cons.1 h with rfl | h
    · refine ⟨List.mem_cons_self, fun r hr => ?_⟩
      obtain ⟨⟨m, n⟩, hm, rfl⟩ := List.mem_map.1 hr
      exact List.fst_mem_of_mem_zipIdx hm
    · exact ⟨List.mem_cons_of_mem c (ih h).1, (ih h).2⟩

/-- An item of a result stems from a request of the pass and has that request's answer. -/
theorem Pass.exists_request {p : Pass} {answers : Answers} {fs : Findings} {f : Finding}
    (hfs : fs ∈ (p.resolved answers).findings) (hf : f ∈ fs.items) :
    ∃ q ∈ p.requests, q.marker = f.marker ∧ answers.get? q.id = some f.actions := by
  obtain ⟨i, hi, rfl⟩ := List.mem_map.1 hfs
  obtain ⟨q, hq, hfind⟩ := List.mem_filterMap.1 hf
  obtain ⟨actions, hget, rfl⟩ := Option.map_eq_some_iff.1 hfind
  exact ⟨q, List.mem_flatMap.2 ⟨i, hi, hq⟩, rfl, hget⟩

namespace Annotator

variable {a : Annotator} {e : EditorId} {v server : String} {onUi : Bool} {r : PassResult}

/-! ### Publishing -/

/-- The marker changes of a publish that reaches the given editors. -/
def replacements (a : Annotator) (server : String) (diagnostics : List Diagnostic)
    (editors : List EditorId) : List MarkerChange :=
  editors.filterMap fun e =>
    (a.workbench.documentFor e).toOption.map (.replace e server · diagnostics)

/-- Replacing the markers of several editors is a list of changes of the store. -/
theorem foldl_replaceMarkers (a : Annotator) (server : String) (diagnostics : List Diagnostic)
    (editors : List EditorId) :
    editors.foldl (·.replaceMarkers server diagnostics) a =
      { a with markers := a.markers.changes a.locate (a.replacements server diagnostics editors) } := by
  induction editors generalizing a with
  | nil => rfl
  | cons e es ih =>
    rw [List.foldl_cons, ih]
    unfold replaceMarkers replacements
    rw [List.filterMap_cons]
    cases hd : a.workbench.documentFor e with
    | error err => rfl
    | ok d => rfl

/-- A publish replaces the markers of its server in the editors of the document, and announces
itself. -/
theorem snd_publish (a : Annotator) (server : String) (params : PublishParams) :
    (a.publish server params).2 =
      { a with
        markers := a.markers.changes a.locate
          (a.replacements server params.diagnostics (a.workbench.editorsFor params.uri))
        workbench := a.workbench.emit (.published params.uri.text server) } := by
  simp only [publish, foldl_replaceMarkers]

/-- A publish touches the key of its server in each editor that it reaches, and no other key. -/
theorem touches_replacements_iff (a : Annotator) (server : String) (params : PublishParams) :
    (∃ c ∈ a.replacements server params.diagnostics (a.workbench.editorsFor params.uri),
        c.Touches e v) ↔ e ∈ a.workbench.editorsFor params.uri ∧ v = server := by
  constructor
  · rintro ⟨c, hc, ht⟩
    obtain ⟨e', he', hmap⟩ := List.mem_filterMap.1 hc
    obtain ⟨d, -, rfl⟩ := Option.map_eq_some_iff.1 hmap
    obtain ⟨rfl, rfl⟩ := ht
    exact ⟨he', rfl⟩
  · rintro ⟨he, rfl⟩
    obtain ⟨d, hd⟩ := Workbench.documentFor_of_mem_editorsFor he
    refine ⟨.replace e v d params.diagnostics, List.mem_filterMap.2 ⟨e, he, ?_⟩, rfl, rfl⟩
    rw [hd]
    rfl

/-! ### Collecting -/

/-- A pass that is made has the next number and is about an open editor. -/
theorem collect_eq_some {p : Pass} (h : (a.collect e).1 = some p) :
    p.number = a.nextPass ∧ p.editor = e ∧ a.workbench.isOpen e = true := by
  unfold collect at h
  cases hd : a.workbench.documentFor e with
  | error err => rw [hd] at h; cases h
  | ok d =>
    rw [hd] at h
    obtain rfl := Option.some.inj h
    exact ⟨rfl, rfl, Workbench.isOpen_of_documentFor hd⟩

/-- The markers of a pass are those that the store holds for its editor. -/
theorem mem_collect_of_collected (hs : a.markers.WellFormed) {p : Pass}
    (h : (a.collect e).1 = some p) {q : Request} (hq : q ∈ p.requests) :
    q.marker.editor = e ∧ q.marker ∈ a.markers.collect q.marker.editor q.marker.server := by
  unfold collect at h
  cases hd : a.workbench.documentFor e with
  | error err => rw [hd] at h; cases h
  | ok d =>
    rw [hd] at h
    obtain rfl := Option.some.inj h
    obtain ⟨i, hi, hqi⟩ := List.mem_flatMap.1 hq
    have hmem := (Pass.mem_inquiriesFrom hi).2 q hqi
    obtain ⟨he, hv⟩ := hs.key_of_mem_collect hmem
    exact ⟨he, by rw [he, hv]; exact hmem⟩

/-- Making a pass, or finding that there is none, changes nothing but the count of passes. -/
theorem snd_collect (a : Annotator) (e : EditorId) :
    (a.collect e).2 =
      { a with nextPass := a.nextPass + if (a.collect e).1.isSome then 1 else 0 } := by
  unfold collect
  cases a.workbench.documentFor e <;> rfl

/-- There is a pass for every open editor. -/
theorem collect_of_isOpen (hw : a.workbench.Stored) (ho : a.workbench.isOpen e = true) :
    (a.collect e).1.isSome = true := by
  obtain ⟨d, hd⟩ := hw.documentFor_of_isOpen ho
  unfold collect
  rw [hd]
  rfl

/-! ### Showing results -/

/-- Whether a result is shown: by the UI thread, in an open editor to which no later pass was
applied. -/
def accepts (a : Annotator) (onUi : Bool) (r : PassResult) : Bool :=
  onUi && a.workbench.isOpen r.editor && decide ((a.appliedPass? r.editor).getD 0 ≤ r.pass)

/-- A result is shown by the UI thread in an open editor to which no later pass was applied. -/
theorem accepts_eq_true_iff :
    a.accepts onUi r = true ↔ onUi = true ∧ a.workbench.isOpen r.editor = true ∧
      ∀ n, a.appliedPass? r.editor = some n → n ≤ r.pass := by
  unfold accepts
  rw [Bool.and_eq_true, Bool.and_eq_true, decide_eq_true_eq, and_assoc]
  cases a.appliedPass? r.editor <;> simp

/-- A result is dropped off the UI thread, for a closed editor, and after a later pass. -/
theorem accepts_eq_false_iff :
    a.accepts onUi r = false ↔ onUi = false ∨ a.workbench.isOpen r.editor = false ∨
      ∃ n, a.appliedPass? r.editor = some n ∧ r.pass < n := by
  unfold accepts
  rw [Bool.and_eq_false_iff, Bool.and_eq_false_iff, decide_eq_false_iff_not, or_assoc]
  cases a.appliedPass? r.editor <;> simp

/-- A result that is accepted is rendered and replaces what its editor showed. -/
theorem apply_of_accepts (h : a.accepts onUi r = true) :
    a.apply onUi r = (.ok (r.render a.markers).length,
      a.present r.editor r.pass (r.render a.markers)) := by
  obtain ⟨rfl, hopen, hpass⟩ := accepts_eq_true_iff.1 h
  have hlt : ¬ r.pass < (a.appliedPass? r.editor).getD 0 := by
    cases hn : a.appliedPass? r.editor with
    | none => exact Nat.not_lt_zero _
    | some n => exact Nat.not_lt.2 (hpass n hn)
  unfold apply
  simp [hopen, hlt]

/-- A result that is not accepted changes nothing. -/
theorem apply_of_not_accepts (h : a.accepts onUi r = false) : (a.apply onUi r).2 = a := by
  unfold apply
  cases onUi with
  | false => rfl
  | true =>
    cases ho : a.workbench.isOpen r.editor with
    | false => rfl
    | true =>
      rw [accepts, ho, Bool.true_and, Bool.true_and, decide_eq_false_iff_not, Nat.not_le] at h
      simp [h]

/-- Handing over a result reaches at most the event stream, the record and the sink. -/
theorem snd_apply (a : Annotator) (onUi : Bool) (r : PassResult) :
    (a.apply onUi r).2 =
      { a with
        workbench :=
          if a.accepts onUi r then
            a.workbench.emit (.applied r.editor (r.render a.markers).length)
          else a.workbench
        applied := if a.accepts onUi r then a.applied.insert r.editor r.pass else a.applied
        sink :=
          if a.accepts onUi r then a.sink.present r.editor (r.render a.markers) else a.sink } := by
  cases h : a.accepts onUi r with
  | true => rw [apply_of_accepts h]; rfl
  | false => rw [apply_of_not_accepts h]; rfl

/-! ### Waiting for the UI thread -/

/-- The result that a queued task shows. -/
def queuedResult? : UiTask UiAction → Option PassResult
  | .mk [.perform (.apply r)] => some r
  | _ => none

/-- The results that wait for the UI thread, in order. -/
def queuedResults (a : Annotator) : List PassResult :=
  a.ui.pending.filterMap queuedResult?

/-- The annotator with other tasks for the UI thread. -/
def withPending (a : Annotator) (tasks : List (UiTask UiAction)) : Annotator :=
  { a with ui := { a.ui with pending := tasks } }

/-- A task that is queued comes last, as long as there is a UI thread. -/
theorem pending_queue (h : a.ui.attached = true) (action : UiAction) :
    (a.queue action).ui.pending = a.ui.pending ++ [.perform action []] := by
  unfold queue UiQueue.invokeLater
  simp [h]

/-- A result that is scheduled waits behind the others. -/
theorem queuedResults_schedule (h : a.ui.attached = true) (r : PassResult) :
    (a.schedule r).queuedResults = a.queuedResults ++ [r] := by
  rw [schedule, queuedResults, pending_queue h, List.filterMap_append]
  rfl

/-- Releasing an editor queues the task that clears it. -/
theorem pending_editorClosed (h : a.ui.attached = true) (e : EditorId) :
    (a.editorClosed e).ui.pending = a.ui.pending ++ [.perform (.clear e) []] :=
  pending_queue (by exact h) (.clear e)

/-- Closing an editor leaves the results that wait as they are. -/
theorem queuedResults_editorClosed (h : a.ui.attached = true) (e : EditorId) :
    (a.editorClosed e).queuedResults = a.queuedResults := by
  rw [queuedResults, pending_editorClosed h, List.filterMap_append]
  exact List.append_nil _

/-- Queueing a task does not detach the UI thread. -/
theorem attached_queue (a : Annotator) (action : UiAction) :
    (a.queue action).ui.attached = a.ui.attached := by
  unfold queue UiQueue.invokeLater
  split <;> rfl

end Annotator

end AnnotationBridge
