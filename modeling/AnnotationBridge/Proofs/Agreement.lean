import AnnotationBridge.Proofs.Publish
import AnnotationBridge.Proofs.Release

/-!
# Which editors of a document agree

Publishes are about documents, and markers are kept for each editor. A publish gives markers to the
editors that are open then, and opening an editor gives it none. So two editors of a document have
markers for the same diagnostics if the last publish about the document came after both were opened
or before both were.

* `Workflow.Ordinary`: histories in which nothing but publishes gives markers to an open editor.
* `Workflow.Received`: the last publish of a server about a URI came after an editor was opened.
* `Workflow.Run.diagnostics?_eq_some_iff`: an open editor has markers for the last publish about its
  document if it has received that, and none otherwise.
* `Workflow.Run.agreement_iff`: when two editors of a document agree.
-/

namespace AnnotationBridge

open Lsp

namespace Workflow

variable {s t u : Workflow} {act : Act} {acts earlier : List Act} {e e' : EditorId} {v : String}
  {uri : Uri} {d d' : Document} {id : DocumentId} {diagnostics : List Diagnostic}
  {workspace : Workspace} {pool : ConnectionPool} {locate : Locator} {config : AnnotatorConfig}

/-! ### Where documents and editors come from -/

/-- A document that is stored after a step was stored before, with the same identifier and URI, or
the step has opened an editor on it. -/
theorem Step.get?_documents (h : Step s act t)
    (hd : t.annotator.workbench.documents.get? id = some d) :
    (∃ d', s.annotator.workbench.documents.get? id = some d' ∧ d'.id = d.id ∧ d'.uri = d.uri) ∨
      ∃ editor, act = .opened editor d ∧ id = d.id ∧
        s.annotator.workbench.findByUri d.uri = none := by
  rcases h.workbench_cases with
    ⟨editor, d₀, rfl, -, hw⟩ | ⟨editor, -, ok⟩ | ⟨id, range, text, -, ok⟩ | hw | ⟨event, hw⟩
  · rw [hw] at hd
    rcases Workbench.get?_documents_openDocument hd with hd | ⟨rfl, rfl, hnew⟩
    · exact .inl ⟨d, hd, rfl, rfl⟩
    · exact .inr ⟨editor, rfl, rfl, hnew⟩
  · exact .inl ⟨d, Workbench.get?_documents_close ok hd, rfl, rfl⟩
  · exact .inl (Workbench.get?_documents_edit ok hd)
  · rw [hw] at hd
    exact .inl ⟨d, hd, rfl, rfl⟩
  · rw [hw] at hd
    exact .inl ⟨d, hd, rfl, rfl⟩

/-- An editor that is open after a step was open on the same document before, or the step has opened
it. -/
theorem Step.get?_editors (h : Step s act t)
    (he : t.annotator.workbench.editors.get? e = some id) :
    s.annotator.workbench.editors.get? e = some id ∨ ∃ d, act = .opened e d := by
  rcases h.workbench_cases with
    ⟨editor, d, rfl, -, hw⟩ | ⟨editor, -, ok⟩ | ⟨id, range, text, -, ok⟩ | hw | ⟨event, hw⟩
  · rw [hw] at he
    rcases Workbench.get?_editors_openDocument he with rfl | he
    · exact .inr ⟨d, rfl⟩
    · exact .inl he
  · exact .inl (Workbench.get?_editors_close ok he)
  · obtain ⟨before, taken, buffer, -, -, hw⟩ := Workbench.edit_eq_ok ok
    rw [hw] at he
    exact .inl he
  · rw [hw] at he
    exact .inl he
  · rw [hw] at he
    exact .inl he

/-! ### Histories -/

/-- Whether an editor was opened in a history. -/
def Opened (acts : List Act) (e : EditorId) : Prop :=
  ∃ d, .opened e d ∈ acts

/-- An editor is known if it was opened. -/
theorem Run.mem_known_iff (h : Run (start workspace pool locate config) acts s) :
    e ∈ s.known ↔ Opened acts e := by
  induction h with
  | nil => exact iff_of_false List.not_mem_nil fun ⟨_, hmem⟩ => List.not_mem_nil hmem
  | @snoc acts t u act run step ih =>
    have hother : (∀ d, act ≠ .opened e d) → (Opened (acts ++ [act]) e ↔ Opened acts e) := by
      intro hne
      refine ⟨fun ⟨d, hmem⟩ => ?_, fun ⟨d, hmem⟩ => ⟨d, List.mem_append_left _ hmem⟩⟩
      rcases List.mem_append.1 hmem with hmem | hmem
      · exact ⟨d, hmem⟩
      · exact absurd (List.mem_singleton.1 hmem).symm (hne d)
    cases step with
    | @opened editor d fresh =>
      by_cases he : e = editor
      · subst he
        exact iff_of_true List.mem_cons_self ⟨d, List.mem_append_right _ List.mem_cons_self⟩
      · rw [hother fun d' heq => he (Act.opened.inj heq).1.symm, ← ih, List.mem_cons]
        exact or_iff_right he
    | _ => exact ih.trans (hother fun d heq => by cases heq).symm

/-- A document that is stored was opened, with the same identifier and URI. -/
theorem Run.opened_of_stored (h : Run (start workspace pool locate config) acts s)
    (hd : s.annotator.workbench.documents.get? id = some d) :
    ∃ editor d', .opened editor d' ∈ acts ∧ d'.id = d.id ∧ d'.uri = d.uri := by
  induction h generalizing d with
  | nil => cases hd
  | snoc _ step ih =>
    rcases step.get?_documents hd with ⟨d', hd', hid, huri⟩ | ⟨editor, rfl, -, -⟩
    · obtain ⟨editor, opened, hmem, hid', huri'⟩ := ih hd'
      exact ⟨editor, opened, List.mem_append_left _ hmem, hid'.trans hid, huri'.trans huri⟩
    · exact ⟨editor, d, List.mem_append_right _ List.mem_cons_self, rfl, rfl⟩

/-- A history in which an identifier of a document stands for one URI, the markers are left to the
annotator, and only closed editors are released. -/
structure Ordinary (acts : List Act) : Prop where
  one_uri : ∀ e e' d d', .opened e d ∈ acts → .opened e' d' ∈ acts → d.id = d'.id → d.uri = d'.uri
  not_remarked : ∀ c, .remarked c ∉ acts
  released_closed : ∀ e, .released e true ∉ acts

/-- What comes before in an ordinary history is one. -/
theorem Ordinary.of_append {later : List Act} (h : Ordinary (acts ++ later)) : Ordinary acts where
  one_uri e e' d d' hd hd' :=
    h.one_uri e e' d d' (List.mem_append_left _ hd) (List.mem_append_left _ hd')
  not_remarked c hc := h.not_remarked c (List.mem_append_left _ hc)
  released_closed e he := h.released_closed e (List.mem_append_left _ he)

/-- An editor that a step has not opened showed a document of the same URI before. -/
theorem Run.documentFor_before (h : Run (start workspace pool locate config) acts s)
    (step : Step s act t) (ordinary : Ordinary (acts ++ [act])) (old : ∀ d, act ≠ .opened e d)
    (hd : t.annotator.workbench.documentFor e = .ok d) :
    ∃ d', s.annotator.workbench.documentFor e = .ok d' ∧ d'.uri = d.uri := by
  obtain ⟨id, he, hstored⟩ := Workbench.documentFor_eq_ok_iff.1 hd
  have he : s.annotator.workbench.editors.get? e = some id := by
    rcases step.get?_editors he with he | ⟨d', rfl⟩
    · exact he
    · exact absurd rfl (old d')
  rcases step.get?_documents hstored with ⟨d', hd', -, huri⟩ | ⟨editor, rfl, rfl, hnew⟩
  · exact ⟨d', Workbench.documentFor_eq_ok_iff.2 ⟨id, he, hd'⟩, huri⟩
  · -- What was opened would have been found by its URI, which goes with its identifier.
    obtain ⟨d', hd'⟩ := Option.isSome_iff_exists.1 (h.consistent.stored e d.id he)
    obtain ⟨editor', opened, hmem, hid, huri⟩ := h.opened_of_stored hd'
    have hsame : opened.uri = d.uri :=
      ordinary.one_uri editor' editor opened d (List.mem_append_left _ hmem)
        (List.mem_append_right _ List.mem_cons_self) (hid.trans (h.consistent.own d.id d' hd'))
    exact absurd (huri.symm.trans hsame) (Workbench.uri_ne_of_findByUri_eq_none hnew hd')

/-! ### The last publish -/

/-- Whether something that happened is a publish of a server about a URI. -/
def Act.PublishesTo (v : String) (uri : Uri) : Act → Prop
  | .published server params _ _ => server = v ∧ params.uri = uri
  | _ => False

/-- The last publish of a server about a URI came after an editor was opened, with the given
diagnostics. -/
def Received (acts : List Act) (e : EditorId) (v : String) (uri : Uri)
    (diagnostics : List Diagnostic) : Prop :=
  ∃ earlier params runtime editors,
    History.LastAt acts earlier (.published v params runtime editors) (·.PublishesTo v uri) ∧
      params.uri = uri ∧ params.diagnostics = diagnostics ∧ Opened earlier e

/-- A publish about the URI is received by the editors that were opened before. -/
theorem received_published_iff {params : PublishParams} {runtime : Bool} {editors : List EditorId}
    (huri : params.uri = uri) :
    Received (acts ++ [.published v params runtime editors]) e v uri diagnostics ↔
      params.diagnostics = diagnostics ∧ Opened acts e := by
  constructor
  · rintro ⟨earlier, params', runtime', editors', hlast, -, hds, hopened⟩
    rcases History.lastAt_concat_iff.1 hlast with ⟨heq, rfl⟩ | ⟨hnot, -⟩
    · obtain ⟨-, rfl, -, -⟩ := Act.published.inj heq
      exact ⟨hds, hopened⟩
    · exact absurd ⟨rfl, huri⟩ hnot
  · rintro ⟨hds, hopened⟩
    exact ⟨acts, params, runtime, editors, History.lastAt_concat_iff.2 (.inl ⟨rfl, rfl⟩), huri, hds,
      hopened⟩

/-- Anything else changes nothing about what was received. -/
theorem received_concat_iff (hact : ¬ act.PublishesTo v uri) :
    Received (acts ++ [act]) e v uri diagnostics ↔ Received acts e v uri diagnostics := by
  constructor
  · rintro ⟨earlier, params, runtime, editors, hlast, huri, rest⟩
    rcases History.lastAt_concat_iff.1 hlast with ⟨rfl, -⟩ | ⟨-, hlast⟩
    · exact absurd ⟨rfl, huri⟩ hact
    · exact ⟨earlier, params, runtime, editors, hlast, huri, rest⟩
  · rintro ⟨earlier, params, runtime, editors, hlast, rest⟩
    exact ⟨earlier, params, runtime, editors, History.lastAt_concat_iff.2 (.inr ⟨hact, hlast⟩), rest⟩

/-- What was received was published after the editor was opened. -/
theorem Received.opened (h : Received acts e v uri diagnostics) : Opened acts e := by
  obtain ⟨earlier, params, runtime, editors, ⟨later, rfl, -⟩, -, -, d, hmem⟩ := h
  exact ⟨d, List.mem_append_left _ hmem⟩

/-! ### What an editor has markers for -/

/-- The diagnostics of which a key holds markers; none if it holds no batch. -/
def diagnostics? (s : Workflow) (e : EditorId) (v : String) : Option (List Diagnostic) :=
  (s.annotator.markers.batch? e v).map fun b => b.markers.map Marker.diagnostic

/-- An editor that is not known has no markers. -/
theorem Run.batch?_of_not_known (h : Run (start workspace pool locate config) acts s)
    (ordinary : Ordinary acts) (unknown : e ∉ s.known) : s.annotator.markers.batch? e v = none := by
  induction h with
  | nil => rfl
  | @snoc acts t u act run step ih =>
    have unknown' : e ∉ t.known := fun hmem => unknown (step.known_subset hmem)
    refine step.batch?_eq_none (Bool.eq_false_iff.2 fun ho => ?_) (fun d diagnostics heq => ?_)
      (ih ordinary.of_append unknown')
    · exact unknown' ((run.sound .start).open_known e ho)
    · exact ordinary.not_remarked _ (List.mem_append_right _ (List.mem_singleton.2 heq.symm))

/-- A publish gives an editor of its document one marker for each diagnostic. -/
theorem Run.diagnostics?_published (h : Run (start workspace pool locate config) acts s)
    {params : PublishParams} {runtime : Bool} {editors : List EditorId}
    (step : Step s (.published v params runtime editors) t)
    (hd : s.annotator.workbench.documentFor e = .ok d) (huri : d.uri = params.uri) :
    t.diagnostics? e v = some params.diagnostics := by
  cases step with
  | published =>
    have he : e ∈ (s.annotator.publish v params).1 :=
      h.consistent.mem_editorsFor_iff.2 ⟨d, hd, huri⟩
    obtain ⟨n, hn⟩ := List.getElem?_of_mem he
    rw [diagnostics?, Annotator.batch?_publish hn hd]
    simp [Marker.ofDiagnostic, Function.comp_def]

/-- A step that is no publish about the document of an open editor leaves its markers. -/
theorem Run.batch?_of_not_publishesTo (h : Run (start workspace pool locate config) acts s)
    (step : Step s act t) (ordinary : Ordinary (acts ++ [act]))
    (hd : s.annotator.workbench.documentFor e = .ok d) (hact : ¬ act.PublishesTo v d.uri) :
    t.annotator.markers.batch? e v = s.annotator.markers.batch? e v := by
  refine step.batch?_eq fun ht => ?_
  cases act with
  | published server params runtime editors =>
    obtain ⟨he, rfl⟩ := ht
    cases step with
    | published =>
      obtain ⟨d', hd', huri⟩ := h.consistent.mem_editorsFor_iff.1 he
      obtain rfl : d' = d := Except.ok.inj (hd'.symm.trans hd)
      exact hact ⟨rfl, huri.symm⟩
  | remarked c =>
    exact ordinary.not_remarked c (List.mem_append_right _ List.mem_cons_self)
  | released editor stillOpen =>
    obtain rfl : editor = e := ht
    cases step with
    | released =>
      rw [show s.isOpen editor = true from Workbench.isOpen_of_documentFor hd] at ordinary
      exact ordinary.released_closed editor (List.mem_append_right _ List.mem_cons_self)
  | _ => exact ht

/-- **An open editor has markers for the last publish about its document, if that came after the
editor was opened, and none otherwise.** -/
theorem Run.diagnostics?_eq_some_iff (h : Run (start workspace pool locate config) acts s)
    (ordinary : Ordinary acts) (hd : s.annotator.workbench.documentFor e = .ok d) :
    s.diagnostics? e v = some diagnostics ↔ Received acts e v d.uri diagnostics := by
  induction h generalizing d with
  | nil => cases hd
  | @snoc acts t u act run step ih =>
    by_cases hopens : ∃ d₀, act = .opened e d₀
    · obtain ⟨d₀, rfl⟩ := hopens
      have unknown : e ∉ t.known := by
        cases step with
        | opened d fresh => exact fresh
      have hnone : u.diagnostics? e v = none := by
        rw [diagnostics?, step.batch?_eq id, run.batch?_of_not_known ordinary.of_append unknown]
        rfl
      rw [hnone, received_concat_iff id]
      refine iff_of_false (fun hsome => by cases hsome) fun hreceived => ?_
      exact unknown (run.mem_known_iff.2 hreceived.opened)
    · have old : ∀ d₀, act ≠ .opened e d₀ := fun d₀ heq => hopens ⟨d₀, heq⟩
      obtain ⟨d', hd', huri⟩ := run.documentFor_before step ordinary old hd
      by_cases hact : act.PublishesTo v d.uri
      · cases act with
        | published server params runtime editors =>
          obtain ⟨rfl, hparams⟩ := hact
          have hknown := (run.sound .start).open_known e (Workbench.isOpen_of_documentFor hd')
          rw [received_published_iff hparams,
            run.diagnostics?_published step hd' (huri.trans hparams.symm), Option.some.injEq]
          exact (and_iff_left (run.mem_known_iff.1 hknown)).symm
        | _ => exact hact.elim
      · rw [received_concat_iff hact, ← huri, ← ih ordinary.of_append hd', diagnostics?,
          run.batch?_of_not_publishesTo step ordinary hd' (by rwa [huri])]
        rfl

/-- The diagnostics of an editor's markers, whether it holds a batch or not. -/
theorem map_diagnostic_collect (s : Workflow) (e : EditorId) (v : String) :
    (s.annotator.markers.collect e v).map Marker.diagnostic = (s.diagnostics? e v).getD [] := by
  unfold MarkerStore.collect diagnostics?
  cases s.annotator.markers.batch? e v <;> rfl

/-- An editor has no markers if its document was not published about. -/
theorem Run.collect_of_not_published (h : Run (start workspace pool locate config) acts s)
    (ordinary : Ordinary acts) (hd : s.annotator.workbench.documentFor e = .ok d)
    (quiet : ∀ act ∈ acts, ¬ act.PublishesTo v d.uri) : s.annotator.markers.collect e v = [] := by
  have hnone : s.diagnostics? e v = none := by
    rw [Option.eq_none_iff_forall_ne_some]
    intro diagnostics hsome
    obtain ⟨earlier, params, runtime, editors, hlast, huri, -⟩ :=
      (h.diagnostics?_eq_some_iff ordinary hd).1 hsome
    exact quiet _ hlast.mem ⟨rfl, huri⟩
  rw [← List.map_eq_nil_iff, map_diagnostic_collect, hnone]
  rfl

open Classical in
/-- An editor has markers for the last publish about its document if it was opened before. -/
theorem Run.collect_of_lastAt (h : Run (start workspace pool locate config) acts s)
    (ordinary : Ordinary acts) (hd : s.annotator.workbench.documentFor e = .ok d)
    {params : PublishParams} {runtime : Bool} {editors : List EditorId}
    (last : History.LastAt acts earlier (.published v params runtime editors)
      (·.PublishesTo v d.uri)) (huri : params.uri = d.uri) :
    (s.annotator.markers.collect e v).map Marker.diagnostic =
      if Opened earlier e then params.diagnostics else [] := by
  rw [map_diagnostic_collect]
  by_cases hopened : Opened earlier e
  · have hreceived : Received acts e v d.uri params.diagnostics :=
      ⟨earlier, params, runtime, editors, last, huri, rfl, hopened⟩
    rw [(h.diagnostics?_eq_some_iff ordinary hd).2 hreceived, if_pos hopened]
    rfl
  · have hnone : s.diagnostics? e v = none := by
      rw [Option.eq_none_iff_forall_ne_some]
      intro diagnostics hsome
      obtain ⟨earlier', params', runtime', editors', last', huri', -, hopened'⟩ :=
        (h.diagnostics?_eq_some_iff ordinary hd).1 hsome
      rw [(last.unique last' ⟨rfl, huri⟩ ⟨rfl, huri'⟩).1] at hopened
      exact hopened hopened'
    rw [hnone, if_neg hopened]
    rfl

open Classical in
/-- **When two editors of a document agree.** As long as nothing but publishes gives markers to open
editors: if a server has not published about the document, no editor of it has markers of the
server. Otherwise an editor has markers for the diagnostics of the last publish if it was opened
before that, and none if it was opened after it. So two editors have markers for the same
diagnostics exactly if there were none in the last publish or it came before both were opened or
after both were. -/
theorem Run.agreement_iff (h : Run (start workspace pool locate config) acts s)
    (ordinary : Ordinary acts) (hd : s.annotator.workbench.documentFor e = .ok d)
    (hd' : s.annotator.workbench.documentFor e' = .ok d) (v : String) :
    ((∀ act ∈ acts, ¬ act.PublishesTo v d.uri) →
        s.annotator.markers.collect e v = [] ∧ s.annotator.markers.collect e' v = []) ∧
      ∀ earlier params runtime editors,
        History.LastAt acts earlier (.published v params runtime editors) (·.PublishesTo v d.uri) →
        params.uri = d.uri →
        (s.annotator.markers.collect e v).map Marker.diagnostic =
            (if Opened earlier e then params.diagnostics else []) ∧
          (s.annotator.markers.collect e' v).map Marker.diagnostic =
            (if Opened earlier e' then params.diagnostics else []) ∧
          ((s.annotator.markers.collect e v).map Marker.diagnostic =
              (s.annotator.markers.collect e' v).map Marker.diagnostic ↔
            params.diagnostics = [] ∨ (Opened earlier e ↔ Opened earlier e')) := by
  refine ⟨fun quiet => ⟨h.collect_of_not_published ordinary hd quiet,
    h.collect_of_not_published ordinary hd' quiet⟩,
    fun earlier params runtime editors last huri => ?_⟩
  have hcollect := h.collect_of_lastAt ordinary hd last huri
  have hcollect' := h.collect_of_lastAt ordinary hd' last huri
  refine ⟨hcollect, hcollect', ?_⟩
  rw [hcollect, hcollect']
  by_cases ho : Opened earlier e <;> by_cases ho' : Opened earlier e'
  · simp [ho, ho']
  · simp [ho, ho']
  · simp [ho, ho', eq_comm]
  · simp [ho, ho']

namespace Sample

/-- An editor is opened after a publish about its document. -/
def late : List Act :=
  [.opened editor document, .published "x" (params "x") false [editor], .opened ⟨2⟩ document]

/-- The server publishes once more. -/
def again : Act :=
  .published "x" (params "x") false [editor, ⟨2⟩]

/-- The run, up to the second editor and with the second publish. -/
theorem late_run : ∃ s t, Run initial late s ∧ Step s again t ∧
    (∀ e ∈ [editor, ⟨2⟩], s.annotator.workbench.documentFor e = .ok document ∧
      t.annotator.workbench.documentFor e = .ok document) ∧
      (s.annotator.markers.collect editor "x").map Marker.diagnostic = (params "x").diagnostics ∧
      s.annotator.markers.collect ⟨2⟩ "x" = [] := by
  have h₁ := (Run.nil (s := initial)).snoc
    (.opened document (show editor ∉ initial.known by decide))
  have h₂ := h₁.snoc (.published "x" (params "x") false)
  have h₃ := h₂.snoc (.opened document (show ⟨2⟩ ∉ [editor] by decide))
  have next : ∀ {s t u : Workflow} {acts : List Act} {act : Act},
      Run s acts t → Step t act u → Step t act u := fun _ => id
  have h₄ := next h₃ (.published "x" (params "x") false)
  refine ⟨_, _, Eq.mp (congrArg (Run initial · _) ?_) h₃, Eq.mp (congrArg (Step _ · _) ?_) h₄,
    List.forall_mem_cons.2 ⟨⟨?_, ?_⟩, List.forall_mem_singleton.2 ⟨?_, ?_⟩⟩, ?_, ?_⟩
  all_goals cbv

end Sample

/-- The editor that was opened after the publish has no markers for what was published about its
document, and the other one has. -/
theorem late_editor_has_no_markers :
    ∃ s, Run Sample.initial Sample.late s ∧
      s.annotator.workbench.documentFor Sample.editor = .ok Sample.document ∧
      s.annotator.workbench.documentFor ⟨2⟩ = .ok Sample.document ∧
      (s.annotator.markers.collect Sample.editor "x").map Marker.diagnostic =
        (Sample.params "x").diagnostics ∧
      s.annotator.markers.collect ⟨2⟩ "x" = [] ∧ (Sample.params "x").diagnostics ≠ [] := by
  obtain ⟨s, _, run, _, hshown, heditor, hlate⟩ := Sample.late_run
  refine ⟨s, run, (hshown _ List.mem_cons_self).1,
    (hshown _ (List.mem_cons_of_mem _ List.mem_cons_self)).1, heditor, hlate, ?_⟩
  simp [Sample.params]

/-- With the next publish both editors have markers for the same diagnostics again. -/
theorem agreement_iff_published_again :
    ∃ t, Run Sample.initial (Sample.late ++ [Sample.again]) t ∧
      (t.annotator.markers.collect Sample.editor "x").map Marker.diagnostic =
        (t.annotator.markers.collect ⟨2⟩ "x").map Marker.diagnostic := by
  obtain ⟨s, t, run, step, hshown, -, -⟩ := Sample.late_run
  have ordinary : Ordinary (Sample.late ++ [Sample.again]) := by
    refine ⟨fun e e' d d' hd hd' _ => ?_, fun c hc => ?_, fun e he => ?_⟩
    · simp only [Sample.late, Sample.again, List.cons_append, List.nil_append, List.mem_cons,
        List.not_mem_nil, reduceCtorEq, Act.opened.injEq, or_false, false_or] at hd hd'
      rcases hd with ⟨-, rfl⟩ | ⟨-, rfl⟩ <;> rcases hd' with ⟨-, rfl⟩ | ⟨-, rfl⟩ <;> rfl
    · simp [Sample.late, Sample.again] at hc
    · simp [Sample.late, Sample.again] at he
  have last : History.LastAt (Sample.late ++ [Sample.again]) Sample.late Sample.again
      (·.PublishesTo "x" Sample.document.uri) := ⟨[], rfl, fun y hy => by cases hy⟩
  have hagree := ((run.snoc step).agreement_iff ordinary (hshown _ List.mem_cons_self).2
    (hshown _ (List.mem_cons_of_mem _ List.mem_cons_self)).2 "x").2 _ _ _ _ last rfl
  refine ⟨t, run.snoc step, hagree.2.2.2 (.inr (iff_of_true ⟨Sample.document, ?_⟩
    ⟨Sample.document, ?_⟩))⟩
  · exact List.mem_cons_self
  · exact List.mem_cons_of_mem _ (List.mem_cons_of_mem _ List.mem_cons_self)

end Workflow

end AnnotationBridge
