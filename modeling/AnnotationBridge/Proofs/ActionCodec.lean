import AnnotationBridge.Lsp.CodeAction
import AnnotationBridge.Proofs.WorkspaceEditCodec

/-!
# Reading encoded offers

What a server offers is a command or a code action, and only its fields tell which: in a command the
field `command` is a text. A code action has a whole command there or nothing, so an offer is read
as what it was.

* `Lsp.Command.faithful`, `Lsp.CodeAction.faithful`: the two forms.
* `Lsp.Command.ofJson?_codeAction`: they are told apart.
* `Lsp.Action.faithful`: an offer.
-/

namespace AnnotationBridge.Lsp

open Json (Faithful ThroughReals text_faithful flag_faithful any_optional anys_optional)

variable {f : Double → Double}

/-! ### Changing the numbers -/

/-- The command with the double-precision numbers of its arguments changed. -/
def Command.mapReals (f : Double → Double) (c : Command) : Command :=
  { c with arguments := c.arguments.map (List.map (Json.mapReals f)) }

/-- The code action with the double-precision numbers of its data changed, and with those of its
diagnostics and its command. -/
def CodeAction.mapReals (f : Double → Double) (a : CodeAction) : CodeAction :=
  { a with
    diagnostics := a.diagnostics.map (List.map (Diagnostic.mapReals f))
    command := a.command.map (Command.mapReals f)
    data := a.data.map (Json.mapReals f) }

/-- The offer, still of its kind, with the double-precision numbers that it carries changed. -/
def Action.mapReals (f : Double → Double) : Action → Action
  | .command c => .command (c.mapReals f)
  | .action a => .action (a.mapReals f)

/-- The double-precision numbers that a command carries. -/
def Command.reals (c : Command) : List Double :=
  c.arguments.elim [] (List.flatMap Json.reals)

/-- The double-precision numbers that a code action carries. -/
def CodeAction.reals (a : CodeAction) : List Double :=
  a.diagnostics.elim [] (List.flatMap Diagnostic.reals) ++ (a.command.elim [] Command.reals ++
    a.data.elim [] Json.reals)

/-- The double-precision numbers that an offer carries. -/
def Action.reals : Action → List Double
  | .command c => c.reals
  | .action a => a.reals

/-- Only the arguments of a command hold double-precision numbers. -/
theorem Command.throughReals (f : Double → Double) : ThroughReals f (mapReals f) reals := by
  intro c
  rw [reals, ← (Json.throughReals f).list.option c.arguments, mapReals]
  exact ⟨congrArg arguments, fun h => by rw [h]⟩

/-- A code action holds the numbers of its diagnostics, its command and its data. -/
theorem CodeAction.throughReals (f : Double → Double) : ThroughReals f (mapReals f) reals := by
  intro a
  rw [reals, List.forall_mem_append, List.forall_mem_append,
    ← (Diagnostic.throughReals f).list.option a.diagnostics,
    ← (Command.throughReals f).option a.command, ← (Json.throughReals f).option a.data, mapReals]
  constructor
  · exact fun h => ⟨congrArg diagnostics h, congrArg command h, congrArg data h⟩
  · rintro ⟨hdiagnostics, hcommand, hdata⟩
    rw [hdiagnostics, hcommand, hdata]

/-- An offer holds the numbers of what it is. -/
theorem Action.throughReals (f : Double → Double) : ThroughReals f (mapReals f) reals := by
  rintro (c | a)
  · exact (iff_of_eq (command.injEq _ _)).trans (Command.throughReals f c)
  · exact (iff_of_eq (action.injEq _ _)).trans (CodeAction.throughReals f a)

/-! ### The two forms -/

/-- Commands are kept. -/
theorem Command.faithful : Faithful f 2 ofJson? toJson (mapReals f) := by
  refine Faithful.record _ (fun _ => rfl) (fun _ => rfl) (fun _ => by simp) ?_
  intro n r c hn hr h
  simp only [Option.bind_eq_bind, Option.bind_eq_some_iff, Option.some.injEq] at h
  obtain ⟨title, htitle, command, hcommand, arguments, harguments, rfl⟩ := h
  have htitle := text_faithful.required (f := f) (Nat.zero_le n) hr htitle
  have hcommand := text_faithful.required (f := f) (Nat.zero_le n) hr hcommand
  have harguments := anys_optional (f := f) hr hn harguments
  refine ⟨?_, fun r' hr' => ?_⟩
  · simp only [List.forall_mem_cons]
    exact ⟨harguments.written, hcommand.written, htitle.written, nofun⟩
  · simp only [htitle.read r' (hr' _), hcommand.read r' (hr' _), harguments.read r' (hr' _)]
    simp [mapReals]

/-- The reason why an action is disabled is kept. -/
theorem disabledReason_faithful :
    Faithful f 1 disabledReason? (fun reason => .object [("reason", .string reason)]) id := by
  refine Faithful.record (fun reason => [("reason", some (.string reason))]) (fun _ => rfl)
    (fun _ => rfl) (fun _ => by simp) ?_
  intro n r reason hn hr h
  have hreason := text_faithful.required (f := f) hn hr h
  refine ⟨?_, fun r' hr' => hreason.read r' (hr' _)⟩
  simp only [List.forall_mem_cons]
  exact ⟨hreason.written, nofun⟩

/-- Code actions are kept. -/
theorem CodeAction.faithful : Faithful f 8 ofJson? toJson (mapReals f) := by
  refine Faithful.record _ (fun _ => rfl) (fun _ => rfl) (fun _ => by simp) ?_
  intro n r a hn hr h
  simp only [Option.bind_eq_bind, Option.bind_eq_some_iff, Option.some.injEq] at h
  obtain ⟨title, htitle, kind, hkind, diagnostics, hdiagnostics, edit, hedit, command, hcommand,
    preferred, hpreferred, disabled, hdisabled, data, hdata, rfl⟩ := h
  have htitle := text_faithful.required (f := f) (by omega) hr htitle
  have hkind := text_faithful.optional (f := f) (by omega) hr hkind
  have hdiagnostics := Diagnostic.faithful.list.optional (f := f) (by omega) hr hdiagnostics
  have hedit := WorkspaceEdit.faithful.optional (f := f) (by omega) hr hedit
  have hcommand := Command.faithful.optional (f := f) (by omega) hr hcommand
  have hpreferred := flag_faithful.optional (f := f) (by omega) hr hpreferred
  have hdisabled := disabledReason_faithful.optional (f := f) (by omega) hr hdisabled
  have hdata := any_optional (f := f) hr hdata
  refine ⟨?_, fun r' hr' => ?_⟩
  · simp only [List.forall_mem_cons]
    exact ⟨hcommand.written, hdata.written, hdiagnostics.written, hdisabled.written, hedit.written,
      hpreferred.written, hkind.written, htitle.written, nofun⟩
  · simp only [htitle.read r' (hr' _), hkind.read r' (hr' _), hdiagnostics.read r' (hr' _),
      hedit.read r' (hr' _), hcommand.read r' (hr' _), hpreferred.read r' (hr' _),
      hdisabled.read r' (hr' _), hdata.read r' (hr' _)]
    simp [mapReals]

/-! ### Offers -/

/-- **No code action has the shape of a command.** -/
theorem Command.ofJson?_codeAction (f : Double → Double) (a : CodeAction) :
    Command.ofJson? (a.toJson.mapReals f) = none := by
  rw [CodeAction.toJson, Json.mapReals_ofFields, ofJson?, Json.record?_ofFields (by simp)]
  cases a.command <;> rfl

/-- **An offer is read as it was encoded**, and as of the same kind. -/
theorem Action.faithful : Faithful f 8 ofJson? toJson (mapReals f) where
  holds {n j action} hn hfits h := by
    unfold ofJson? at h
    split at h
    · obtain h | ⟨-, h⟩ := Option.or_eq_some_iff.1 h
      · obtain ⟨c, hc, rfl⟩ := Option.map_eq_some_iff.1 h
        have hholds := Command.faithful (f := f) |>.holds (by omega) hfits hc
        refine ⟨hholds.written, ?_⟩
        rw [toJson, ofJson?, if_pos (Json.isComplete_mapReals hholds.written.complete),
          hholds.decoded]
        rfl
      · obtain ⟨a, ha, rfl⟩ := Option.map_eq_some_iff.1 h
        have hholds := CodeAction.faithful (f := f) |>.holds hn hfits ha
        refine ⟨hholds.written, ?_⟩
        rw [toJson, ofJson?, if_pos (Json.isComplete_mapReals hholds.written.complete),
          Command.ofJson?_codeAction, hholds.decoded]
        rfl
    · cases h
  present {_ action} _ h := by cases action <;> cases h

end AnnotationBridge.Lsp
