import AnnotationBridge.Session
import AnnotationBridge.Proofs.Exchange
import AnnotationBridge.Proofs.Reachable
import AnnotationBridge.Proofs.UiRun

/-!
# What goes on in a session is a run

A session runs its annotator in virtual time, with event loops and waits of its own. Each of its
acts is made of steps, so whatever holds of all runs holds of all sessions.

* `Exchange.Settles`: the results that come up while time passes are those of passes that wait.
* `Session.Reached`: the sessions there can be, with the passes and results that their owner has.
* `Session.IsRun`: a run ends with the annotator of a session. `Session.IsRun.background`: so it
  does after everything that can happen by itself.
* `Session.Reached.isRun`, `Session.Reached.of_run`: it is so for every session there can be.
-/

namespace AnnotationBridge

open Lsp

/-! ### What comes up while time passes -/

namespace Exchange

/-- Some results are those of passes that wait, and no other pass waits afterwards. -/
structure Settles (x : Exchange) (results : List PassResult) (y : Exchange) : Prop where
  results : ∀ r ∈ results, ∃ w ∈ x.waiting, ∃ answers, r = w.pass.resolved answers
  waiting : y.waiting ⊆ x.waiting

/-- If nothing changes about the waits, no result comes up. -/
theorem Settles.of_waiting_eq {x y : Exchange} (h : y.waiting = x.waiting) : x.Settles [] y :=
  ⟨fun _ hr => absurd hr List.not_mem_nil, fun _ hw => h ▸ hw⟩

/-- Noting which requests have ended leaves the waits as they are. -/
theorem waiting_finish (x : Exchange) (batch noticed : List Sent) :
    (x.finish batch noticed).2.waiting = x.waiting := by
  rw [snd_finish]
  rfl

/-- So does a wait without a deadline. -/
theorem waiting_endAtOnce (x : Exchange) (deadline : Nat) (batch : List Sent) :
    (x.endAtOnce deadline batch).2.waiting = x.waiting := by
  unfold endAtOnce
  split
  · exact waiting_finish _ _ _
  · exact waiting_finish _ _ _

/-- The waits that end give the results of their own passes, and the others go on. -/
theorem settleAll_spec (x : Exchange) (ws : List Waiting) :
    (x.settleAll ws).2.waiting = x.waiting ∧
      ∀ r ∈ (x.settleAll ws).1, ∃ w ∈ ws, ∃ answers, r = w.pass.resolved answers := by
  induction ws generalizing x with
  | nil => exact ⟨rfl, fun r hr => absurd hr List.not_mem_nil⟩
  | cons w ws ih =>
    obtain ⟨hwaiting, hresults⟩ := ih (x.settle w).2
    refine ⟨hwaiting.trans (waiting_finish _ _ _), fun r hr => ?_⟩
    rcases List.mem_cons.1 hr with rfl | hr
    · exact ⟨w, List.mem_cons_self, _, rfl⟩
    · obtain ⟨w', hw', hr'⟩ := hresults r hr
      exact ⟨w', List.mem_cons_of_mem _ hw', hr'⟩

/-- Letting time pass ends waits. -/
theorem advanceTo_settles (x : Exchange) (time : Nat) :
    x.Settles (x.advanceTo time).1 (x.advanceTo time).2 := by
  obtain ⟨hwaiting, hresults⟩ := settleAll_spec
    { x with waiting := x.waiting.filter (time < ·.ends) }
    ((x.waiting.filter (·.ends ≤ time)).mergeSort fun v w => v.ends ≤ w.ends)
  refine ⟨fun r hr => ?_, fun w hw => ?_⟩
  · obtain ⟨w, hw, hr'⟩ := hresults r hr
    exact ⟨w, (List.mem_filter.1 (List.mem_mergeSort.1 hw)).1, hr'⟩
  · change w ∈ (settleAll _ _).2.waiting at hw
    rw [hwaiting] at hw
    exact (List.mem_filter.1 hw).1

/-- So does waiting for a batch. -/
theorem join_settles (x : Exchange) (deadline : Nat) (batch : List Sent) :
    x.Settles (x.join deadline batch).2.1 (x.join deadline batch).2.2 := by
  unfold join
  cases x.waitEnd? deadline batch with
  | none => exact .of_waiting_eq (waiting_endAtOnce _ _ _)
  | some time =>
    obtain ⟨hresults, hwaiting⟩ := x.advanceTo_settles time
    refine ⟨hresults, fun w hw => hwaiting ?_⟩
    rw [← waiting_finish]
    exact hw

/-- Waiting for a pass yields its result, unless it is refused. -/
theorem resolve_settles (x : Exchange) (onUi : Bool) (deadline : Nat) (p : Pass) :
    x.Settles (x.resolve onUi deadline p).2.1 (x.resolve onUi deadline p).2.2 ∧
      ∀ r, (x.resolve onUi deadline p).1 = .ok r → ∃ answers, r = p.resolved answers := by
  have hask : (x.ask p).2.waiting = x.waiting := (x.ask_sends p).1.waiting
  unfold resolve
  cases onUi with
  | true => exact ⟨.of_waiting_eq hask, fun r hr => by cases hr⟩
  | false =>
    obtain ⟨hresults, hwaiting⟩ := (x.ask p).2.join_settles deadline (x.ask p).1
    rw [hask] at hresults hwaiting
    exact ⟨⟨hresults, hwaiting⟩, fun r hr => ⟨_, (Except.ok.inj hr).symm⟩⟩

/-- A pass that is started has its result at once or waits. -/
theorem start_cases (x : Exchange) (deadline : Nat) (p : Pass) :
    (∀ r ∈ (x.start deadline p).1, ∃ answers, r = p.resolved answers) ∧
      ∀ w ∈ (x.start deadline p).2.waiting, w ∈ x.waiting ∨ w.pass = p := by
  have hask : (x.ask p).2.waiting = x.waiting := (x.ask_sends p).1.waiting
  unfold start
  dsimp only
  cases (x.ask p).2.waitEnd? deadline (x.ask p).1 with
  | none =>
    refine ⟨fun r hr => ⟨_, (Option.some.inj hr).symm⟩, fun w hw => .inl ?_⟩
    rw [← hask, ← waiting_endAtOnce]
    exact hw
  | some time =>
    refine ⟨fun r hr => (by cases hr), fun w hw => ?_⟩
    rcases List.mem_append.1 hw with hw | hw
    · exact .inl (hask ▸ hw)
    · exact .inr (by rw [List.mem_singleton.1 hw])

end Exchange

/-! ### Closing is announced for known editors -/

namespace Workflow

variable {s t : Workflow} {act : Act} {acts : List Act} {e : EditorId}

/-- A closing that is on record after a step was on record before, or is that of an open editor. -/
theorem Step.closed_mem (h : Step s act t)
    (he : .closed e ∈ t.annotator.workbench.feed.emitted) :
    .closed e ∈ s.annotator.workbench.feed.emitted ∨ s.isOpen e = true := by
  have hlast : ∀ {es : List Event} {event : Event}, event ≠ .closed e → .closed e ∈ es ++ [event] →
      .closed e ∈ es := by
    intro es event hne hmem
    rcases List.mem_append.1 hmem with hmem | hmem
    · exact hmem
    · exact absurd (List.mem_singleton.1 hmem).symm hne
  cases h with
  | opened d fresh =>
    rw [Workbench.emitted_openDocument] at he
    exact .inl (hlast (fun heq => by cases heq) he)
  | @closed editor w ok =>
    obtain ⟨hemitted, hopen⟩ := Workbench.emitted_close ok
    rw [hemitted] at he
    rcases List.mem_append.1 he with he | he
    · exact .inl he
    · cases List.mem_singleton.1 he
      exact .inr hopen
  | edited ok =>
    obtain ⟨d, taken, buffer, -, -, rfl⟩ := Workbench.edit_eq_ok ok
    exact .inl (hlast (fun heq => by cases heq) he)
  | published =>
    simp only [Annotator.snd_publish] at he
    exact .inl (hlast (fun heq => by cases heq) he)
  | collected | begun | skipped =>
    simp only [Annotator.snd_collect] at he
    exact .inl he
  | applied | performed =>
    simp only [Annotator.perform, Annotator.snd_apply] at he
    split at he
    · exact .inl (hlast (fun heq => by cases heq) he)
    · exact .inl he
  | _ => exact .inl he

/-- Only known editors are announced as closed. -/
theorem Run.closed_known {workspace : Workspace} {pool : ConnectionPool} {locate : Locator}
    {config : AnnotatorConfig} (h : Run (start workspace pool locate config) acts t)
    (he : .closed e ∈ t.annotator.workbench.feed.emitted) : e ∈ t.known := by
  induction h with
  | nil => cases he
  | snoc run step ih =>
    rcases step.closed_mem he with he | ho
    · exact step.known_subset (ih he)
    · exact step.known_subset ((run.sound .start).open_known e ho)

/-! ### Several steps at once -/

/-- Results of passes that were made can be queued at any time. -/
theorem exists_run_schedule (s : Workflow) (results : List PassResult)
    (h : ∀ r ∈ results, ∃ p ∈ s.passes, ∃ answers, r = p.resolved answers) :
    ∃ acts, Run s acts { s with annotator := results.foldl Annotator.schedule s.annotator } := by
  induction results generalizing s with
  | nil => exact ⟨[], .nil⟩
  | cons r rest ih =>
    obtain ⟨p, hp, answers, rfl⟩ := h r List.mem_cons_self
    have resolve := Step.resolved hp answers
    have schedule := Step.scheduled (s := { s with results := s.results ++ [p.resolved answers] })
      (List.perm_append_singleton (p.resolved answers) s.results)
    obtain ⟨acts, run⟩ := ih { s with annotator := s.annotator.schedule (p.resolved answers) }
      fun r hr => h r (List.mem_cons_of_mem _ hr)
    exact ⟨_, ((Run.nil.snoc resolve).snoc schedule).append run⟩

/-- Looking at an editor may make a pass. -/
theorem exists_run_collect (s : Workflow) (editor : EditorId) :
    ∃ acts, Run s acts { s with
      annotator := (s.annotator.collect editor).2
      passes := s.passes ++ (s.annotator.collect editor).1.toList } := by
  cases hp : (s.annotator.collect editor).1 with
  | none =>
    rw [Annotator.snd_collect, hp, Option.toList_none, List.append_nil]
    exact ⟨[], .nil⟩
  | some p => exact ⟨_, Run.nil.snoc (.collected hp)⟩

/-- So may looking at the first of the editors among which are those with a pass due. -/
theorem exists_run_begin (s : Workflow) (editor : EditorId) (rest : List EditorId)
    {others : List EditorId} (h : (editor :: rest).Perm (s.due ++ others)) :
    ∃ acts due, (∃ others, rest.Perm (due ++ others)) ∧ Run s acts { s with
      annotator := (s.annotator.collect editor).2
      due := due
      passes := s.passes ++ (s.annotator.collect editor).1.toList } := by
  by_cases hd : editor ∈ s.due
  · obtain ⟨before, after, hdue⟩ := List.append_of_mem hd
    have owed : s.due.Perm (editor :: (before ++ after)) := hdue ▸ List.perm_middle
    have hrest := (List.perm_cons editor).1 (h.trans (owed.append_right others))
    cases hp : (s.annotator.collect editor).1 with
    | none =>
      rw [Option.toList_none, List.append_nil]
      exact ⟨_, before ++ after, ⟨others, hrest⟩, Run.nil.snoc (.skipped owed hp)⟩
    | some p => exact ⟨_, before ++ after, ⟨others, hrest⟩, Run.nil.snoc (.begun owed hp)⟩
  · have hothers : editor ∈ others :=
      (List.mem_append.1 (h.mem_iff.1 List.mem_cons_self)).resolve_left hd
    obtain ⟨before, after, rfl⟩ := List.append_of_mem hothers
    obtain ⟨acts, run⟩ := s.exists_run_collect editor
    refine ⟨acts, s.due, ⟨before ++ after, (List.perm_cons editor).1 (h.trans ?_)⟩, run⟩
    rw [← List.append_assoc, ← List.append_assoc]
    exact List.perm_middle

end Workflow

namespace Session

/-! ### Sessions -/

/-- The sessions there can be, each with the passes and the results that its owner has. Between any
two acts of the owner things may happen by themselves. -/
inductive Reached (root : Path) (config : Config) (locate : Locator) :
    Session → List Pass → List PassResult → Prop where
  | start : Reached root config locate (start root config locate) [] []
  | openDocument {s ps rs} (h : Reached root config locate s ps rs) (uri : Uri) (text : String) :
      Reached root config locate (s.openDocument uri text) ps rs
  | openFile {s t ps rs files path} (h : Reached root config locate s ps rs)
      (ok : s.openFile files path = .ok t) : Reached root config locate t ps rs
  | close {s t ps rs editor} (h : Reached root config locate s ps rs)
      (ok : s.close editor = .ok t) : Reached root config locate t ps rs
  | edit {s t ps rs document range text} (h : Reached root config locate s ps rs)
      (ok : s.edit document range text = .ok t) : Reached root config locate t ps rs
  | connect {s ps rs} (h : Reached root config locate s ps rs) (server : String)
      (capabilities : Capabilities) (client : Client) :
      Reached root config locate (s.connect server capabilities client) ps rs
  | disconnect {s ps rs} (h : Reached root config locate s ps rs) (connection : ConnectionId) :
      Reached root config locate (s.disconnect connection) ps rs
  | publish {s ps rs} (h : Reached root config locate s ps rs) (server : String)
      (params : PublishParams) (runtime : Bool) :
      Reached root config locate (s.publish server params runtime).2 ps rs
  | collect {s ps rs} (h : Reached root config locate s ps rs) (editor : EditorId) :
      Reached root config locate (s.collect editor).2 (ps ++ (s.collect editor).1.toList) rs
  | ask {s ps rs} (h : Reached root config locate s ps rs) (p : Pass) :
      Reached root config locate (s.ask p).2 ps rs
  | join {s ps rs} (h : Reached root config locate s ps rs) (deadline : Nat) (batch : List Sent) :
      Reached root config locate (s.join deadline batch).2 ps rs
  | resolve {s ps rs p} (h : Reached root config locate s ps rs) (onUi : Bool) (made : p ∈ ps) :
      Reached root config locate (s.resolve onUi p).2 ps
        (rs ++ (s.resolve onUi p).1.toOption.toList)
  | apply {s ps rs r rest} (h : Reached root config locate s ps rs) (onUi : Bool)
      (atHand : rs.Perm (r :: rest)) : Reached root config locate (s.apply onUi r).2 ps rest
  | schedule {s ps rs r rest} (h : Reached root config locate s ps rs)
      (atHand : rs.Perm (r :: rest)) : Reached root config locate (s.schedule r) ps rest
  | annotate {s ps rs} (h : Reached root config locate s ps rs) (editor : EditorId) :
      Reached root config locate (s.annotate editor) ps rs
  | runUi {s ps rs} (h : Reached root config locate s ps rs) :
      Reached root config locate s.runUi.2 ps rs
  | editorClosed {s ps rs editor} (h : Reached root config locate s ps rs)
      (given : 1 ≤ editor.number ∧ editor.number ≤ s.editorCount) :
      Reached root config locate (s.editorClosed editor) ps rs
  | wait {s ps rs} (h : Reached root config locate s ps rs) (ms : Nat) :
      Reached root config locate (s.wait ms) ps rs
  | startLoop {s ps rs} (h : Reached root config locate s ps rs) :
      Reached root config locate s.startLoop ps rs
  | stopLoop {s ps rs} (h : Reached root config locate s ps rs) :
      Reached root config locate s.stopLoop ps rs
  | drop {s ps rs} (h : Reached root config locate s ps rs) : Reached root config locate s.drop ps rs
  | background {s ps rs} (h : Reached root config locate s ps rs) :
      Reached root config locate s.background ps rs

/-! ### Runs of a session -/

variable {root : Path} {config : Config} {locate : Locator} {s t : Session} {ps : List Pass}
  {rs : List PassResult}

/-- What a workflow has to know about a session: which identifiers were given out, that its passes
that are due are begun, and that it has made those that wait and those that the owner has. -/
structure Books (s : Session) (ps : List Pass) (known due : List EditorId) (made : List Pass) :
    Prop where
  known : ∀ e, e ∈ known ↔ 1 ≤ e.number ∧ e.number ≤ s.editorCount
  due : ∃ others, s.starting.Perm (due ++ others)
  waiting : ∀ w ∈ s.exchange.waiting, w.pass ∈ made
  passes : ps ⊆ made

/-- No more of the session than that matters. -/
theorem Books.congr {known due : List EditorId} {made : List Pass} (h : s.Books ps known due made)
    (hcount : t.editorCount = s.editorCount) (hstarting : t.starting = s.starting)
    (hexchange : t.exchange = s.exchange) : t.Books ps known due made where
  known := hcount ▸ h.known
  due := hstarting ▸ h.due
  waiting := hexchange ▸ h.waiting
  passes := h.passes

/-- A run ends with the annotator of a session, whose owner has some passes and results. -/
def IsRun (root : Path) (config : Config) (locate : Locator) (s : Session) (ps : List Pass)
    (rs : List PassResult) : Prop :=
  ∃ acts known due made,
    Workflow.Run (.start ⟨root⟩ (.empty ⟨root⟩ config) locate config.annotator) acts
      ⟨s.annotator, known, due, made, rs⟩ ∧ s.Books ps known due made

/-- An act that is one step, and does not reach beyond the annotator. -/
theorem IsRun.step {a : Annotator} {rs' : List PassResult} (h : IsRun root config locate s ps rs)
    (next : ∀ known due made, s.Books ps known due made → ∃ act,
      Workflow.Step ⟨s.annotator, known, due, made, rs⟩ act ⟨a, known, due, made, rs'⟩) :
    IsRun root config locate { s with annotator := a } ps rs' := by
  obtain ⟨acts, known, due, made, run, books⟩ := h
  obtain ⟨act, step⟩ := next known due made books
  exact ⟨_, known, due, made, run.snoc step, books.congr rfl rfl rfl⟩

/-- The owner may forget passes. -/
theorem IsRun.mono {qs : List Pass} (h : IsRun root config locate s ps rs) (hsub : qs ⊆ ps) :
    IsRun root config locate s qs rs := by
  obtain ⟨acts, known, due, made, run, books⟩ := h
  exact ⟨acts, known, due, made, run, books.known, books.due, books.waiting,
    fun _ hq => books.passes (hsub hq)⟩

/-- The loops of a session, and whether its annotator is held, are not the annotator's concern. -/
theorem IsRun.withLoops (h : IsRun root config locate s ps rs) (held : Bool) (free : List EventLoop)
    (own : Option EventLoop) :
    IsRun root config locate { s with held := held, freeLoops := free, ownLoop := own } ps rs := by
  obtain ⟨acts, known, due, made, run, books⟩ := h
  exact ⟨acts, known, due, made, run, books.congr rfl rfl rfl⟩

/-- A session in which nothing happened yet. -/
theorem IsRun.start : IsRun root config locate (start root config locate) [] [] := by
  refine ⟨[], [], [], [], .nil, fun e => ?_, ⟨[], .refl _⟩, fun w hw => ?_, List.nil_subset _⟩
  · show e ∈ [] ↔ 1 ≤ e.number ∧ e.number ≤ 0
    simp
    omega
  · cases hw

/-- Opening an editor gives out the next identifier. -/
theorem IsRun.opened (h : IsRun root config locate s ps rs) (d : Document) :
    IsRun root config locate (s.opened (s.workbench.openDocument s.nextEditor d)) ps rs := by
  obtain ⟨acts, known, due, made, run, books⟩ := h
  have fresh : s.nextEditor ∉ known := fun hmem => by
    have hle := ((books.known _).1 hmem).2
    exact absurd hle (Nat.not_succ_le_self _)
  refine ⟨_, s.nextEditor :: known, due, made, run.snoc (.opened d fresh), fun e => ?_, books.due,
    books.waiting, books.passes⟩
  show e ∈ s.nextEditor :: known ↔ 1 ≤ e.number ∧ e.number ≤ s.editorCount + 1
  rw [List.mem_cons, books.known]
  constructor
  · rintro (rfl | ⟨hlow, hhigh⟩)
    · exact ⟨Nat.le_add_left _ _, Nat.le_refl _⟩
    · exact ⟨hlow, Nat.le_succ_of_le hhigh⟩
  · rintro ⟨hlow, hhigh⟩
    rcases Nat.lt_or_eq_of_le hhigh with hlt | heq
    · exact .inr ⟨hlow, Nat.le_of_lt_succ hlt⟩
    · refine .inl ?_
      cases e
      exact congrArg EditorId.mk heq

/-- Opening a file continues the run. -/
theorem IsRun.openFile {files : Files} {path : Path} (h : IsRun root config locate s ps rs)
    (ok : s.openFile files path = .ok t) : IsRun root config locate t ps rs := by
  obtain ⟨w, hw, rfl⟩ := exists_of_map_eq_ok ok
  obtain ⟨d, -, rfl⟩ := exists_of_map_eq_ok hw
  exact h.opened d

/-- Closing an editor continues the run. -/
theorem IsRun.close {editor : EditorId} (h : IsRun root config locate s ps rs)
    (ok : s.close editor = .ok t) : IsRun root config locate t ps rs := by
  obtain ⟨w, hw, rfl⟩ := exists_of_map_eq_ok ok
  exact h.step fun known due made _ => ⟨_, .closed hw⟩

/-- An edit continues the run. -/
theorem IsRun.edit {document : DocumentId} {range : Text.Span} {text : List Char}
    (h : IsRun root config locate s ps rs) (ok : s.edit document range text = .ok t) :
    IsRun root config locate t ps rs := by
  obtain ⟨w, hw, rfl⟩ := exists_of_map_eq_ok ok
  exact h.step fun known due made _ => ⟨_, .edited hw⟩

/-- A publish continues the run. -/
theorem IsRun.publish (h : IsRun root config locate s ps rs) (server : String)
    (params : PublishParams) (runtime : Bool) :
    IsRun root config locate (s.publish server params runtime).2 ps rs := by
  obtain ⟨acts, known, due, made, run, books⟩ := h
  obtain ⟨others, hothers⟩ := books.due
  refine ⟨_, known, _, made, run.snoc (.published server params runtime), books.known,
    ⟨others, ?_⟩, books.waiting, books.passes⟩
  rw [List.append_assoc]
  refine (hothers.append_right _).trans ?_
  rw [List.append_assoc]
  exact List.perm_append_comm.append_left due

/-- Beginning passes that are not due. -/
theorem IsRun.begin (h : IsRun root config locate s ps rs) (editors : List EditorId) :
    IsRun root config locate (s.begin editors) ps rs := by
  obtain ⟨acts, known, due, made, run, books⟩ := h
  obtain ⟨others, hothers⟩ := books.due
  refine ⟨acts, known, due, made, run, books.known, ⟨others ++ editors, ?_⟩, books.waiting,
    books.passes⟩
  rw [← List.append_assoc]
  exact hothers.append_right editors

/-- Making a pass continues the run, and its owner has the pass then. -/
theorem IsRun.collect (h : IsRun root config locate s ps rs) (editor : EditorId) :
    IsRun root config locate (s.collect editor).2 (ps ++ (s.collect editor).1.toList) rs := by
  obtain ⟨acts, known, due, made, run, books⟩ := h
  obtain ⟨later, run'⟩ := Workflow.exists_run_collect _ editor
  refine ⟨_, known, due, _, run.append run', books.known, books.due, fun w hw => ?_, ?_⟩
  · exact List.mem_append_left _ (books.waiting w hw)
  · exact List.append_subset.2 ⟨fun p hp => List.mem_append_left _ (books.passes hp),
      List.subset_append_right _ _⟩

/-- The results that come up while time passes are queued. -/
theorem IsRun.withExchange {results : List PassResult} {x : Exchange}
    (h : IsRun root config locate s ps rs) (settles : s.exchange.Settles results x) :
    IsRun root config locate (s.withExchange results x) ps rs := by
  obtain ⟨acts, known, due, made, run, books⟩ := h
  obtain ⟨later, run'⟩ := Workflow.exists_run_schedule ⟨s.annotator, known, due, made, rs⟩ results
    fun r hr => by
      obtain ⟨w, hw, hr'⟩ := settles.results r hr
      exact ⟨w.pass, books.waiting w hw, hr'⟩
  exact ⟨_, known, due, made, run.append run', books.known, books.due,
    fun w hw => books.waiting w (settles.waiting hw), books.passes⟩

/-- Waiting for a pass continues the run, and its owner has the result then. -/
theorem IsRun.resolve {p : Pass} (h : IsRun root config locate s ps rs) (onUi : Bool)
    (hp : p ∈ ps) : IsRun root config locate (s.resolve onUi p).2 ps
      (rs ++ (s.resolve onUi p).1.toOption.toList) := by
  obtain ⟨settles, hresult⟩ := s.exchange.resolve_settles onUi s.deadline p
  have hkept := h.withExchange settles
  cases hr : (s.exchange.resolve onUi s.deadline p).1 with
  | error err =>
    have hnone : (s.resolve onUi p).1.toOption.toList = [] := by
      rw [show (s.resolve onUi p).1 = .error err from hr]
      rfl
    rw [hnone, List.append_nil]
    exact hkept
  | ok r =>
    have hsome : (s.resolve onUi p).1.toOption.toList = [r] := by
      rw [show (s.resolve onUi p).1 = .ok r from hr]
      rfl
    obtain ⟨answers, rfl⟩ := hresult r hr
    rw [hsome]
    exact hkept.step fun known due made books => ⟨_, .resolved (books.passes hp) answers⟩

/-- A result that is scheduled leaves the hands of its owner. -/
theorem IsRun.schedule {r : PassResult} {rest : List PassResult}
    (h : IsRun root config locate s ps rs) (atHand : rs.Perm (r :: rest)) :
    IsRun root config locate (s.schedule r) ps rest :=
  h.step fun _ _ _ _ => ⟨_, .scheduled atHand⟩

/-- A whole pass continues the run. -/
theorem IsRun.annotate (h : IsRun root config locate s ps rs) (editor : EditorId) :
    IsRun root config locate (s.annotate editor) ps rs := by
  have hcollect := h.collect editor
  unfold Session.annotate
  rcases hc : s.collect editor with ⟨_ | p, t⟩
  · rw [hc] at hcollect
    exact hcollect.mono (List.subset_append_left _ _)
  · rw [hc] at hcollect
    have hresolve := hcollect.resolve false (List.mem_append_right ps List.mem_cons_self)
    dsimp only
    rcases hr : t.resolve false p with ⟨err | r, u⟩
    · rw [hr] at hresolve
      rw [← List.append_nil rs]
      exact hresolve.mono (List.subset_append_left _ _)
    · rw [hr] at hresolve
      exact (hresolve.schedule (List.perm_append_singleton r rs)).mono (List.subset_append_left _ _)

/-- The tasks of the UI thread continue the run. -/
theorem IsRun.runUi (h : IsRun root config locate s ps rs) :
    IsRun root config locate s.runUi.2 ps rs := by
  obtain ⟨acts, known, due, made, run, books⟩ := h
  obtain ⟨later, run', -⟩ := run.exists_run_runUi
  exact ⟨_, known, due, made, run.append run', books.congr rfl rfl rfl⟩

/-- The teardown for an editor that was given out continues the run. -/
theorem IsRun.editorClosed {editor : EditorId} (h : IsRun root config locate s ps rs)
    (given : 1 ≤ editor.number ∧ editor.number ≤ s.editorCount) :
    IsRun root config locate (s.editorClosed editor) ps rs :=
  h.step fun _ _ _ books => ⟨_, .released ((books.known editor).2 given)⟩

/-! ### What happens by itself -/

/-- The identifiers of editors that were closed were given out. -/
theorem IsRun.closed_given {editor : EditorId} (h : IsRun root config locate s ps rs)
    (he : .closed editor ∈ s.workbench.feed.emitted) :
    1 ≤ editor.number ∧ editor.number ≤ s.editorCount := by
  obtain ⟨acts, known, due, made, run, books⟩ := h
  exact (books.known editor).1 (run.closed_known he)

/-- What an event has the annotator do continues the run. -/
theorem IsRun.react (h : IsRun root config locate s ps rs) (event : Event)
    (given : ∀ e, event = .closed e → 1 ≤ e.number ∧ e.number ≤ s.editorCount) :
    IsRun root config locate
      (Session.begin { s with annotator := (s.annotator.react event).2 }
        (s.annotator.react event).1) ps rs := by
  cases event with
  | opened editor => exact h.begin [editor]
  | closed editor => exact (h.editorClosed (given editor rfl)).begin []
  | changed document =>
    unfold Annotator.react
    dsimp only
    split
    · exact h.begin _
    · exact h.begin []
  | published | applied => exact h.begin []

/-- An event loop that handles events continues the run. -/
theorem IsRun.follow (h : IsRun root config locate s ps rs) (events : List Event)
    (given : ∀ e, .closed e ∈ events → 1 ≤ e.number ∧ e.number ≤ s.editorCount) :
    IsRun root config locate (s.follow events).2 ps rs := by
  induction events generalizing s with
  | nil => exact h
  | cons event events ih =>
    unfold Session.follow
    split
    · exact ih (h.react event fun e heq => given e (heq ▸ List.mem_cons_self))
        fun e he => given e (List.mem_cons_of_mem _ he)
    · exact h

/-- All event loops together continue the run. -/
theorem IsRun.readEvents (h : IsRun root config locate s ps rs) (loops : List EventLoop) :
    IsRun root config locate (s.readEvents loops).2 ps rs := by
  induction loops generalizing s with
  | nil => exact h
  | cons l ls ih =>
    unfold Session.readEvents
    refine ih ?_
    split
    · exact h.follow _ fun e he => h.closed_given (List.mem_of_mem_drop he)
    · exact h

/-- There is nothing to start for an editor that is not open. -/
theorem startPass_of_none {editor : EditorId} (h : (s.annotator.collect editor).1 = none) :
    s.startPass editor = (s.collect editor).2 := by
  unfold startPass collect
  dsimp only
  rw [h]

/-- For an open editor a pass is made, and its requests are sent. -/
theorem startPass_of_some {editor : EditorId} {p : Pass}
    (h : (s.annotator.collect editor).1 = some p) :
    s.startPass editor = (s.collect editor).2.withExchange
      (s.exchange.start (s.collect editor).2.deadline p).1.toList
      (s.exchange.start (s.collect editor).2.deadline p).2 := by
  unfold startPass collect
  dsimp only
  rw [h]

/-- A pass that starts has no further one start. -/
theorem starting_startPass (s : Session) (editor : EditorId) :
    (s.startPass editor).starting = s.starting := by
  cases hp : (s.annotator.collect editor).1 with
  | none => rw [startPass_of_none hp]; rfl
  | some p => rw [startPass_of_some hp]; rfl

/-- Starting a pass that was begun. -/
theorem IsRun.startPass {editor : EditorId} {rest : List EditorId}
    (h : IsRun root config locate { s with starting := editor :: rest } ps rs) :
    IsRun root config locate { s.startPass editor with starting := rest } ps rs := by
  obtain ⟨acts, known, due, made, run, books⟩ := h
  obtain ⟨others, hothers⟩ := books.due
  obtain ⟨later, due', hdue', run'⟩ := Workflow.exists_run_begin
    ⟨s.annotator, known, due, made, rs⟩ editor rest hothers
  have begun := run.append run'
  cases hp : (s.annotator.collect editor).1 with
  | none =>
    rw [startPass_of_none hp]
    exact ⟨_, known, due', _, begun, books.known, hdue',
      fun w hw => List.mem_append_left _ (books.waiting w hw),
      fun q hq => List.mem_append_left _ (books.passes hq)⟩
  | some p =>
    obtain ⟨hresult, hwaiting⟩ := s.exchange.start_cases (s.collect editor).2.deadline p
    have hmade : p ∈ made ++ (s.annotator.collect editor).1.toList := by
      rw [hp]
      exact List.mem_append_right _ List.mem_cons_self
    obtain ⟨last, queued⟩ := Workflow.exists_run_schedule
      ⟨(s.annotator.collect editor).2, known, due', made ++ (s.annotator.collect editor).1.toList, rs⟩
      (s.exchange.start (s.collect editor).2.deadline p).1.toList
      fun r hr => ⟨p, hmade, hresult r (Option.mem_toList.1 hr)⟩
    rw [startPass_of_some hp]
    refine ⟨_, known, due', _, begun.append queued, books.known, hdue', fun w hw => ?_,
      fun q hq => List.mem_append_left _ (books.passes hq)⟩
    rcases hwaiting w hw with hw | rfl
    · exact List.mem_append_left _ (books.waiting w hw)
    · exact hmade

/-- The passes that start in the background continue the run. -/
theorem IsRun.startPasses (h : IsRun root config locate s ps rs) :
    IsRun root config locate s.startPasses ps rs := by
  have hfold : ∀ (editors : List EditorId) (s : Session), s.starting = [] →
      IsRun root config locate { s with starting := editors } ps rs →
        IsRun root config locate (editors.foldl Session.startPass s) ps rs := by
    intro editors
    induction editors with
    | nil =>
      intro s hs h
      rw [← hs] at h
      exact h
    | cons editor rest ih =>
      intro s hs h
      exact ih (s.startPass editor) ((starting_startPass s editor).trans hs) h.startPass
  exact hfold s.starting { s with starting := [] } rfl h

/-- Time that passes continues the run. -/
theorem IsRun.wait (h : IsRun root config locate s ps rs) (ms : Nat) :
    IsRun root config locate (s.wait ms) ps rs :=
  h.withExchange (s.exchange.advanceTo_settles _)

/-- **Everything that can happen by itself is part of a run.** -/
theorem IsRun.background (h : IsRun root config locate s ps rs) :
    IsRun root config locate s.background ps rs := by
  have hread := (h.readEvents s.freeLoops).readEvents (s.readEvents s.freeLoops).2.ownLoop.toList
  exact (hread.withLoops _ _ _).startPasses.wait 0

/-! ### All sessions -/

/-- **What goes on in a session is a run.** -/
theorem Reached.isRun (h : Reached root config locate s ps rs) : IsRun root config locate s ps rs := by
  induction h with
  | start => exact .start
  | openDocument _ uri text ih => exact ih.opened _
  | openFile _ ok ih => exact ih.openFile ok
  | close _ ok ih => exact ih.close ok
  | edit _ ok ih => exact ih.edit ok
  | @connect s ps rs _ server capabilities client ih =>
    obtain ⟨acts, known, due, made, run, books⟩ := ih
    exact ⟨_, known, due, made, run.snoc (.connected _), books.congr rfl rfl rfl⟩
  | disconnect _ connection ih => exact ih.step fun _ _ _ _ => ⟨_, .disconnected connection⟩
  | publish _ server params runtime ih => exact ih.publish server params runtime
  | collect _ editor ih => exact ih.collect editor
  | ask _ p ih => exact ih.withExchange (.of_waiting_eq (Exchange.ask_sends _ p).1.waiting)
  | join _ deadline batch ih => exact ih.withExchange (Exchange.join_settles _ deadline batch)
  | resolve _ onUi made ih => exact ih.resolve onUi made
  | apply _ onUi atHand ih => exact ih.step fun _ _ _ _ => ⟨_, .applied onUi atHand⟩
  | schedule _ atHand ih => exact ih.schedule atHand
  | annotate _ editor ih => exact ih.annotate editor
  | runUi _ ih => exact ih.runUi
  | editorClosed _ given ih => exact ih.editorClosed given
  | wait _ ms ih => exact ih.wait ms
  | startLoop _ ih => exact ih.withLoops _ _ _
  | stopLoop _ ih => exact ih.withLoops _ _ _
  | drop _ ih => exact ih.withLoops _ _ _
  | background _ ih => exact ih.background

/-- **What holds of the annotator after every run holds in every session.** -/
theorem Reached.of_run {P : Annotator → Prop} (h : Reached root config locate s ps rs)
    (holds : ∀ acts w, Workflow.Run (.start ⟨root⟩ (.empty ⟨root⟩ config) locate config.annotator)
      acts w → P w.annotator) : P s.annotator := by
  obtain ⟨acts, known, due, made, run, -⟩ := h.isRun
  exact holds acts _ run

/-- In every session each open editor shows a document. -/
theorem Reached.documentFor_of_isOpen {editor : EditorId} (h : Reached root config locate s ps rs)
    (ho : s.workbench.isOpen editor = true) : ∃ d, s.workbench.documentFor editor = .ok d := by
  have hstored := h.of_run (P := fun a => a.workbench.Stored)
    fun acts w run => (run.sound .start).stored
  exact hstored.documentFor_of_isOpen ho

end Session

end AnnotationBridge
