import AnnotationBridge.Lsp.Diagnostic
import AnnotationBridge.Proofs.JsonCodec

/-!
# Reading encoded diagnostics

Each type is decoded from its encoding as it was. Only the data of a diagnostic may hold
double-precision numbers.

* `Lsp.Position.faithful` to `Lsp.RelatedInformation.faithful`: the parts of a diagnostic.
* `Lsp.Diagnostic.faithful`: a diagnostic.
-/

namespace AnnotationBridge.Lsp

open Json (Faithful ThroughReals text_faithful int32_faithful uint32_faithful any_optional)

variable {f : Double → Double}

/-! ### Places -/

/-- Positions are kept. -/
theorem Position.faithful : Faithful f 1 ofJson? toJson id :=
  .pair (by decide) uint32_faithful uint32_faithful (fun _ => rfl) (fun _ => rfl)
    fun _ _ => ⟨rfl, rfl⟩

/-- Ranges are kept. -/
theorem Range.faithful : Faithful f 2 ofJson? toJson id :=
  .pair (by decide) Position.faithful Position.faithful (fun _ => rfl) (fun _ => rfl)
    fun _ _ => ⟨rfl, rfl⟩

/-- URIs are kept. -/
theorem uri_faithful : Faithful f 0 uri? uriJson id where
  holds {_ _ u} _ _ _ := ⟨.string u.text, u.ofString?_text⟩
  present _ h := nomatch h

/-- Locations are kept. -/
theorem Location.faithful : Faithful f 3 ofJson? toJson id :=
  .pair (by decide) (uri_faithful.mono (Nat.zero_le 2)) Range.faithful (fun _ => rfl)
    (fun _ => rfl) fun _ _ => ⟨rfl, rfl⟩

/-! ### Diagnostics -/

/-- Related information is kept. -/
theorem RelatedInformation.faithful : Faithful f 4 ofJson? toJson id := by
  refine Faithful.record
    (fun i => [("location", some i.location.toJson), ("message", some (.string i.message))])
    (fun _ => rfl) (fun _ => rfl) (fun _ => by simp) ?_
  intro n r i hn hr h
  simp only [Option.bind_eq_bind, Option.bind_eq_some_iff, Option.some.injEq] at h
  obtain ⟨location, hlocation, message, hmessage, rfl⟩ := h
  have hlocation := Location.faithful.required (f := f) hn hr hlocation
  have hmessage := text_faithful.required (f := f) (Nat.zero_le n) hr hmessage
  refine ⟨?_, fun r' hr' => ?_⟩
  · simp only [List.forall_mem_cons]
    exact ⟨hlocation.written, hmessage.written, nofun⟩
  · simp only [hlocation.read r' (hr' _), hmessage.read r' (hr' _)]
    rfl

/-- Codes are kept, as numbers or texts. -/
theorem DiagnosticCode.faithful : Faithful f 0 ofJson? toJson id where
  holds {_ _ code} _ _ _ := by
    cases code with
    | number k => exact ⟨Json.written_int32 k, congrArg (Option.map number) (Json.int32?_int k)⟩
    | text s => exact ⟨.string s, rfl⟩
  present {_ code} _ h := by cases code <;> cases h

/-- The link of a code is kept. -/
theorem codeDescription_faithful :
    Faithful f 1 codeDescription? (fun u => .object [("href", uriJson u)]) id := by
  refine Faithful.record (fun u => [("href", some (uriJson u))]) (fun _ => rfl) (fun _ => rfl)
    (fun _ => by simp) ?_
  intro n r u hn hr h
  have hhref := uri_faithful.required (f := f) hn hr h
  refine ⟨?_, fun r' hr' => hhref.read r' (hr' _)⟩
  simp only [List.forall_mem_cons]
  exact ⟨hhref.written, nofun⟩

/-- The diagnostic with the double-precision numbers of its data changed. -/
def Diagnostic.mapReals (f : Double → Double) (d : Diagnostic) : Diagnostic :=
  { d with data := d.data.map (Json.mapReals f) }

/-- The double-precision numbers that a diagnostic carries. -/
def Diagnostic.reals (d : Diagnostic) : List Double :=
  d.data.elim [] Json.reals

/-- Only the data of a diagnostic holds double-precision numbers. -/
theorem Diagnostic.throughReals (f : Double → Double) : ThroughReals f (mapReals f) reals := by
  intro d
  rw [reals, ← (Json.throughReals f).option d.data, mapReals]
  exact ⟨congrArg data, fun h => by rw [h]⟩

/-- **A diagnostic is read as it was encoded.** -/
theorem Diagnostic.faithful : Faithful f 6 ofJson? toJson (mapReals f) := by
  refine Faithful.record _ (fun _ => rfl) (fun _ => rfl) (fun _ => by simp) ?_
  intro n r d hn hr h
  simp only [Option.bind_eq_bind, Option.bind_eq_some_iff, Option.some.injEq] at h
  obtain ⟨range, hrange, severity, hseverity, code, hcode, description, hdescription, source, hsource,
    message, hmessage, related, hrelated, tags, htags, data, hdata, rfl⟩ := h
  have hrange := Range.faithful.required (f := f) (by omega) hr hrange
  have hseverity := int32_faithful.optional (f := f) (by omega) hr hseverity
  have hcode := DiagnosticCode.faithful.optional (f := f) (by omega) hr hcode
  have hdescription := codeDescription_faithful.optional (f := f) (by omega) hr hdescription
  have hsource := text_faithful.optional (f := f) (by omega) hr hsource
  have hmessage := text_faithful.required (f := f) (by omega) hr hmessage
  have hrelated := RelatedInformation.faithful.list.optional (f := f) (by omega) hr hrelated
  have htags := int32_faithful.list.optional (f := f) (by omega) hr htags
  have hdata := any_optional (f := f) hr hdata
  refine ⟨?_, fun r' hr' => ?_⟩
  · simp only [List.forall_mem_cons]
    exact ⟨hcode.written, hdescription.written, hdata.written, hmessage.written, hrange.written,
      hrelated.written, hseverity.written, hsource.written, htags.written, nofun⟩
  · simp only [hrange.read r' (hr' _), hseverity.read r' (hr' _), hcode.read r' (hr' _),
      hdescription.read r' (hr' _), hsource.read r' (hr' _), hmessage.read r' (hr' _),
      hrelated.read r' (hr' _), htags.read r' (hr' _), hdata.read r' (hr' _)]
    simp [mapReals]

end AnnotationBridge.Lsp
