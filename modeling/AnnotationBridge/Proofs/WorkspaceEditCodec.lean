import AnnotationBridge.Lsp.WorkspaceEdit
import AnnotationBridge.Proofs.DiagnosticCodec

/-!
# Reading encoded edits

A step of a list of changes may be a file operation or the edits of a document. Which of them it is
shows in its fields alone: no operation has the shape of edits, and no edits have the shape of an
operation.

* `Lsp.FileOperation.faithful`, `Lsp.DocumentChanges.faithful`: operations and steps.
* `Lsp.WorkspaceEdit.faithful`: all changes of a code action.
-/

namespace AnnotationBridge.Lsp

open Json (Decoder Faithful Record record? text_faithful flag_faithful int32_faithful)

variable {f : Double → Double} {n : Nat}

/-! ### Edits of a document -/

/-- Edits of a text are kept. -/
theorem TextEdit.faithful : Faithful f 3 ofJson? toJson id :=
  .pair (by decide) Range.faithful (text_faithful.mono (Nat.zero_le 2)) (fun _ => rfl)
    (fun _ => rfl) fun _ _ => ⟨rfl, rfl⟩

/-- Decodes which version of which document is meant. -/
def versionedDocument? : Decoder (Uri × Option Int32) := fun j => do
  let r ← record? ["uri", "version"] 2 j
  some (← r.required "uri" uri?, ← r.optional "version" Json.int32?)

/-- Encodes which version of which document is meant. -/
def versionedDocumentJson (d : Uri × Option Int32) : Json :=
  .object [("uri", uriJson d.1), ("version", (d.2.map fun n => Json.int n.toInt).getD .null)]

/-- A document with a version, which may be absent, is kept. -/
theorem versionedDocument_faithful : Faithful f 1 versionedDocument? versionedDocumentJson id := by
  refine Faithful.record
    (fun d => [("uri", some (uriJson d.1)),
      ("version", some ((d.2.map fun n => Json.int n.toInt).getD .null))])
    (fun _ => rfl) (fun _ => rfl) (fun _ => by simp) ?_
  intro n r d hn hr h
  simp only [Option.bind_eq_bind, Option.bind_eq_some_iff, Option.some.injEq] at h
  obtain ⟨uri, huri, version, hversion, rfl⟩ := h
  have huri := uri_faithful.required (f := f) hn hr huri
  have hversion := int32_faithful.nullable (f := f) hn hr hversion
  refine ⟨?_, fun r' hr' => ?_⟩
  · simp only [List.forall_mem_cons]
    exact ⟨huri.written, hversion.written, nofun⟩
  · simp only [huri.read r' (hr' _), hversion.read r' (hr' _)]
    simp

/-- How the edits of a document are decoded, field by field. -/
theorem TextDocumentEdit.ofJson?_eq (j : Json) : ofJson? j =
    (record? ["textDocument", "edits"] 2 j).bind fun r =>
      (r.required "textDocument" versionedDocument?).bind fun d =>
        (r.required "edits" (Json.list? TextEdit.ofJson?)).bind fun edits =>
          some ⟨d.1, d.2, edits⟩ := by
  unfold ofJson? versionedDocument? Record.required
  simp only [Option.bind_eq_bind, Option.bind_assoc, Option.bind_some]

/-- The edits of a document are kept. -/
theorem TextDocumentEdit.faithful : Faithful f 5 ofJson? toJson id := by
  refine Faithful.record
    (fun e => [("edits", some (.array (e.edits.map TextEdit.toJson))),
      ("textDocument", some (versionedDocumentJson (e.uri, e.version)))])
    ofJson?_eq (fun _ => rfl) (fun _ => by simp) ?_
  intro n r e hn hr h
  simp only [Option.bind_eq_some_iff, Option.some.injEq] at h
  obtain ⟨document, hdocument, edits, hedits, rfl⟩ := h
  have hdocument := versionedDocument_faithful.required (f := f) (by omega) hr hdocument
  have hedits := TextEdit.faithful.list.required (f := f) (by omega) hr hedits
  refine ⟨?_, fun r' hr' => ?_⟩
  · simp only [List.forall_mem_cons]
    exact ⟨hedits.written, hdocument.written, nofun⟩
  · simp only [hdocument.read r' (hr' _), hedits.read r' (hr' _)]
    simp

/-! ### File operations -/

/-- The options of an operation that makes a file are kept. -/
theorem PlacementOptions.faithful : Faithful f 1 ofJson? toJson id := by
  refine Faithful.record _ (fun _ => rfl) (fun _ => rfl) (fun _ => by simp) ?_
  intro n r o hn hr h
  simp only [Option.bind_eq_bind, Option.bind_eq_some_iff, Option.some.injEq] at h
  obtain ⟨overwrite, hoverwrite, ignore, hignore, rfl⟩ := h
  have hoverwrite := flag_faithful.optional (f := f) hn hr hoverwrite
  have hignore := flag_faithful.optional (f := f) hn hr hignore
  refine ⟨?_, fun r' hr' => ?_⟩
  · simp only [List.forall_mem_cons]
    exact ⟨hignore.written, hoverwrite.written, nofun⟩
  · simp only [hoverwrite.read r' (hr' _), hignore.read r' (hr' _)]
    simp

/-- The options of a deletion are kept. -/
theorem DeletionOptions.faithful : Faithful f 1 ofJson? toJson id := by
  refine Faithful.record _ (fun _ => rfl) (fun _ => rfl) (fun _ => by simp) ?_
  intro n r o hn hr h
  simp only [Option.bind_eq_bind, Option.bind_eq_some_iff, Option.some.injEq] at h
  obtain ⟨recursive, hrecursive, ignore, hignore, label, hlabel, rfl⟩ := h
  have hrecursive := flag_faithful.optional (f := f) hn hr hrecursive
  have hignore := flag_faithful.optional (f := f) hn hr hignore
  have hlabel := text_faithful.optional (f := f) hn hr hlabel
  refine ⟨?_, fun r' hr' => ?_⟩
  · simp only [List.forall_mem_cons]
    exact ⟨hlabel.written, hignore.written, hrecursive.written, nofun⟩
  · simp only [hrecursive.read r' (hr' _), hignore.read r' (hr' _), hlabel.read r' (hr' _)]
    simp

namespace FileOperation

/-- Decodes what is left of an operation of a kind without its tag. -/
def body? : FileOperationKind → Decoder FileOperation
  | .create => fun j => do
    let r ← record? ["uri", "options", "annotationId"] 3 j
    some (.create (← r.required "uri" uri?)
      (← r.optional "options" PlacementOptions.ofJson?)
      (← r.optional "annotationId" Json.text?))
  | .rename => fun j => do
    let r ← record? ["oldUri", "newUri", "options", "annotationId"] 4 j
    some (.rename (← r.required "oldUri" uri?) (← r.required "newUri" uri?)
      (← r.optional "options" PlacementOptions.ofJson?)
      (← r.optional "annotationId" Json.text?))
  | .delete => fun j => do
    let r ← record? ["uri", "options"] 2 j
    some (.delete (← r.required "uri" uri?)
      (← r.optional "options" DeletionOptions.ofJson?))

/-- An operation is decoded by its kind, and then by the fields of that kind. -/
theorem ofJson?_eq (j : Json) : ofJson? j = (Json.tagged? "kind" j).bind fun parts =>
    (FileOperationKind.ofJson? parts.1).bind fun kind => body? kind parts.2 := by
  unfold ofJson?
  refine congrArg (Option.bind _) (funext fun parts => ?_)
  refine congrArg (Option.bind _) (funext fun kind => ?_)
  cases kind <;> rfl

/-- The fields of an operation apart from its tag. -/
def bodyFields : FileOperation → List (String × Option Json)
  | create uri options label =>
    [("annotationId", label.map .string), ("options", options.map PlacementOptions.toJson),
      ("uri", some (uriJson uri))]
  | rename old new options label =>
    [("annotationId", label.map .string), ("newUri", some (uriJson new)),
      ("oldUri", some (uriJson old)), ("options", options.map PlacementOptions.toJson)]
  | delete uri options =>
    [("options", options.map DeletionOptions.toJson), ("uri", some (uriJson uri))]

/-- The fields of an operation have different names. -/
theorem nodup_bodyFields (op : FileOperation) : (op.bodyFields.map Prod.fst).Nodup := by
  cases op <;> simp [bodyFields]

/-- The fields of an operation of a given kind are kept. -/
theorem body_faithful (kind : FileOperationKind) :
    Faithful f 2 (body? kind) (fun op => .ofFields op.bodyFields) id := by
  cases kind with
  | create =>
    refine Faithful.record _ (fun _ => rfl) (fun _ => rfl) nodup_bodyFields ?_
    intro n r op hn hr h
    simp only [Option.bind_eq_bind, Option.bind_eq_some_iff, Option.some.injEq] at h
    obtain ⟨uri, huri, options, hoptions, label, hlabel, rfl⟩ := h
    have huri := uri_faithful.required (f := f) (by omega) hr huri
    have hoptions := PlacementOptions.faithful.optional (f := f) (by omega) hr hoptions
    have hlabel := text_faithful.optional (f := f) (by omega) hr hlabel
    refine ⟨?_, fun r' hr' => ?_⟩
    · simp only [bodyFields, List.forall_mem_cons]
      exact ⟨hlabel.written, hoptions.written, huri.written, nofun⟩
    · simp only [huri.read r' (hr' _), hoptions.read r' (hr' _), hlabel.read r' (hr' _)]
      simp
  | rename =>
    refine Faithful.record _ (fun _ => rfl) (fun _ => rfl) nodup_bodyFields ?_
    intro n r op hn hr h
    simp only [Option.bind_eq_bind, Option.bind_eq_some_iff, Option.some.injEq] at h
    obtain ⟨old, hold, new, hnew, options, hoptions, label, hlabel, rfl⟩ := h
    have hold := uri_faithful.required (f := f) (by omega) hr hold
    have hnew := uri_faithful.required (f := f) (by omega) hr hnew
    have hoptions := PlacementOptions.faithful.optional (f := f) (by omega) hr hoptions
    have hlabel := text_faithful.optional (f := f) (by omega) hr hlabel
    refine ⟨?_, fun r' hr' => ?_⟩
    · simp only [bodyFields, List.forall_mem_cons]
      exact ⟨hlabel.written, hnew.written, hold.written, hoptions.written, nofun⟩
    · simp only [hold.read r' (hr' _), hnew.read r' (hr' _), hoptions.read r' (hr' _),
        hlabel.read r' (hr' _)]
      simp
  | delete =>
    refine Faithful.record _ (fun _ => rfl) (fun _ => rfl) nodup_bodyFields ?_
    intro n r op hn hr h
    simp only [Option.bind_eq_bind, Option.bind_eq_some_iff, Option.some.injEq] at h
    obtain ⟨uri, huri, options, hoptions, rfl⟩ := h
    have huri := uri_faithful.required (f := f) (by omega) hr huri
    have hoptions := DeletionOptions.faithful.optional (f := f) (by omega) hr hoptions
    refine ⟨?_, fun r' hr' => ?_⟩
    · simp only [bodyFields, List.forall_mem_cons]
      exact ⟨hoptions.written, huri.written, nofun⟩
    · simp only [huri.read r' (hr' _), hoptions.read r' (hr' _)]
      simp

/-- What is decoded from them is an operation of that kind. -/
theorem kind_of_body? {kind : FileOperationKind} {j : Json} {op : FileOperation}
    (h : body? kind j = some op) : op.kind = kind := by
  cases kind with
  | create =>
    simp only [body?, Option.bind_eq_bind, Option.bind_eq_some_iff, Option.some.injEq] at h
    obtain ⟨-, -, -, -, -, -, -, -, rfl⟩ := h
    rfl
  | rename =>
    simp only [body?, Option.bind_eq_bind, Option.bind_eq_some_iff, Option.some.injEq] at h
    obtain ⟨-, -, -, -, -, -, -, -, -, -, rfl⟩ := h
    rfl
  | delete =>
    simp only [body?, Option.bind_eq_bind, Option.bind_eq_some_iff, Option.some.injEq] at h
    obtain ⟨-, -, -, -, -, -, rfl⟩ := h
    rfl

/-- A kind is read from its name. -/
theorem ofJson?_name (kind : FileOperationKind) :
    FileOperationKind.ofJson? (.string kind.name) = some kind := by
  cases kind <;> decide

/-- The fields of an operation, the tag among them. -/
def fields (op : FileOperation) : List (String × Option Json) :=
  let kind := some (Json.string op.kind.name)
  match op with
  | create uri options label =>
    [("annotationId", label.map .string), ("kind", kind),
      ("options", options.map PlacementOptions.toJson), ("uri", some (uriJson uri))]
  | rename old new options label =>
    [("annotationId", label.map .string), ("kind", kind), ("newUri", some (uriJson new)),
      ("oldUri", some (uriJson old)), ("options", options.map PlacementOptions.toJson)]
  | delete uri options =>
    [("kind", kind), ("options", options.map DeletionOptions.toJson),
      ("uri", some (uriJson uri))]

/-- An operation is encoded as a record of its kind and its other fields. -/
theorem toJson_eq (op : FileOperation) : op.toJson = .ofFields op.fields := by
  cases op <;> rfl

/-- Changing the numbers does not make two names equal. -/
theorem nodup_mapReals_fields (f : Double → Double) (op : FileOperation) :
    ((op.fields.map fun e => (e.1, e.2.map (Json.mapReals f))).map Prod.fst).Nodup := by
  cases op <;> simp [fields]

/-- The kind is taken off an encoded operation, and its other fields are left. -/
theorem tagged?_toJson (f : Double → Double) (op : FileOperation) :
    Json.tagged? "kind" (op.toJson.mapReals f) =
      some (.string op.kind.name, (Json.ofFields op.bodyFields).mapReals f) := by
  rw [toJson_eq, Json.mapReals_ofFields, Json.mapReals_ofFields]
  rw [Json.tagged?_ofFields (op.nodup_mapReals_fields f)
    (by cases op <;> rfl : _ = some (some (.string op.kind.name)))]
  cases op <;> rfl

/-- A field of an operation is its kind or one of the others. -/
theorem mem_fields {op : FileOperation} {e : String × Option Json} (h : e ∈ op.fields) :
    e = ("kind", some (.string op.kind.name)) ∨ e ∈ op.bodyFields := by
  cases op <;> simp only [fields, bodyFields, List.mem_cons, List.not_mem_nil, or_false] at h ⊢ <;>
    tauto

/-- **File operations are kept.** -/
theorem faithful : Faithful f 2 ofJson? toJson id where
  holds {n j op} hn hfits h := by
    obtain ⟨n, rfl⟩ := Nat.exists_eq_add_of_le' (Nat.le_trans (by decide : 1 ≤ 2) hn)
    rw [ofJson?_eq] at h
    obtain ⟨⟨tag, body⟩, htagged, h⟩ := Option.bind_eq_some_iff.1 h
    obtain ⟨kind, -, hbody⟩ := Option.bind_eq_some_iff.1 h
    obtain rfl := kind_of_body? hbody
    have hholds := (body_faithful (f := f) op.kind).holds hn (hfits.of_tagged? htagged) hbody
    refine ⟨?_, ?_⟩
    · rw [toJson_eq, Json.written_ofFields_iff]
      intro e he v hv
      obtain rfl | he := mem_fields he
      · cases hv
        exact .string _
      · exact Json.written_ofFields_iff.1 hholds.written e he v hv
    · rw [ofJson?_eq, tagged?_toJson, Option.bind_some, ofJson?_name, Option.bind_some]
      exact hholds.decoded
  present {_ op} _ h := by cases op <;> cases h

end FileOperation

/-! ### Steps -/

/-- No operation has the shape of edits. -/
theorem TextDocumentEdit.ofJson?_operation (f : Double → Double) (op : FileOperation) :
    TextDocumentEdit.ofJson? (op.toJson.mapReals f) = none := by
  have hdistinct := op.nodup_mapReals_fields f
  rw [op.toJson_eq, Json.mapReals_ofFields, ofJson?_eq, Json.record?_ofFields hdistinct]
  cases op <;> rfl

/-- No edits have the shape of an operation. -/
theorem FileOperation.ofJson?_edit (f : Double → Double) (e : TextDocumentEdit) :
    FileOperation.ofJson? (e.toJson.mapReals f) = none := by
  have hfields : e.toJson.mapReals f =
      .ofFields [("edits", some _), ("textDocument", some _)] := rfl
  rw [ofJson?_eq, hfields, Json.tagged?_eq_none rfl]
  rfl

/-- A step of a list of changes is kept, and stays what it is. -/
theorem DocumentChange.faithful : Faithful f 5 ofJson? toJson id where
  holds {n j change} hn hfits h := by
    obtain h | ⟨-, h⟩ := Option.or_eq_some_iff.1 h
    · obtain ⟨op, hop, rfl⟩ := Option.map_eq_some_iff.1 h
      have hholds := FileOperation.faithful (f := f) |>.holds (by omega) hfits hop
      refine ⟨hholds.written, ?_⟩
      rw [ofJson?, toJson, hholds.decoded]
      rfl
    · obtain ⟨e, hedit, rfl⟩ := Option.map_eq_some_iff.1 h
      have hholds := TextDocumentEdit.faithful (f := f) |>.holds (by omega) hfits hedit
      refine ⟨hholds.written, ?_⟩
      rw [ofJson?, toJson, FileOperation.ofJson?_edit, hholds.decoded]
      rfl
  present {_ change} _ h := by
    cases change with
    | operation op => cases op <;> cases h
    | edit e => cases h

/-- Steps that are not edits alone hold an operation. -/
theorem exists_operation {j : Json} {steps : List DocumentChange}
    (hedits : Json.list? TextDocumentEdit.ofJson? j = none)
    (hsteps : Json.list? DocumentChange.ofJson? j = some steps) :
    ∃ op, DocumentChange.operation op ∈ steps := by
  cases j with
  | array items =>
    obtain ⟨item, hitem, hnone⟩ := mapM_eq_none_iff.1 hedits
    obtain ⟨step, hstep, hdecode⟩ := exists_result_of_mapM hsteps hitem
    rw [DocumentChange.ofJson?, hnone, Option.map_none, Option.or_none] at hdecode
    obtain ⟨op, -, rfl⟩ := Option.map_eq_some_iff.1 hdecode
    exact ⟨op, hstep⟩
  | _ => cases hsteps

/-- A list of changes is kept, whether it has operations or not. -/
theorem DocumentChanges.faithful : Faithful f 6 ofJson? toJson id where
  holds {n j changes} hn hfits h := by
    obtain h | ⟨hedits, h⟩ := Option.or_eq_some_iff.1 h
    · obtain ⟨edits, hedits, rfl⟩ := Option.map_eq_some_iff.1 h
      have hholds := TextDocumentEdit.faithful (f := f).list.holds (by omega) hfits hedits
      refine ⟨hholds.written, ?_⟩
      rw [ofJson?, toJson, hholds.decoded, List.map_id]
      rfl
    · obtain ⟨steps, hsteps, rfl⟩ := Option.map_eq_some_iff.1 h
      have hholds := DocumentChange.faithful (f := f).list.holds hn hfits hsteps
      obtain ⟨op, hop⟩ := exists_operation (Option.map_eq_none_iff.1 hedits) hsteps
      have hother : Json.list? TextDocumentEdit.ofJson? ((toJson (.steps steps)).mapReals f) = none := by
        rw [toJson, Json.mapReals_array, Json.list?, mapM_eq_none_iff]
        refine ⟨op.toJson.mapReals f, ?_, TextDocumentEdit.ofJson?_operation f op⟩
        exact List.mem_map_of_mem (List.mem_map_of_mem hop)
      refine ⟨hholds.written, ?_⟩
      rw [ofJson?, hother, toJson, hholds.decoded, List.map_id]
      rfl
  present {_ changes} _ h := by cases changes <;> cases h

/-- A note on a change is kept. -/
theorem ChangeAnnotation.faithful : Faithful f 1 ofJson? toJson id := by
  refine Faithful.record _ (fun _ => rfl) (fun _ => rfl) (fun _ => by simp) ?_
  intro n r a hn hr h
  simp only [Option.bind_eq_bind, Option.bind_eq_some_iff, Option.some.injEq] at h
  obtain ⟨label, hlabel, confirmed, hconfirmed, description, hdescription, rfl⟩ := h
  have hlabel := text_faithful.required (f := f) hn hr hlabel
  have hconfirmed := flag_faithful.optional (f := f) hn hr hconfirmed
  have hdescription := text_faithful.optional (f := f) hn hr hdescription
  refine ⟨?_, fun r' hr' => ?_⟩
  · simp only [List.forall_mem_cons]
    exact ⟨hdescription.written, hlabel.written, hconfirmed.written, nofun⟩
  · simp only [hlabel.read r' (hr' _), hconfirmed.read r' (hr' _), hdescription.read r' (hr' _)]
    simp

/-- **The changes of a code action are read as they were encoded.** -/
theorem WorkspaceEdit.faithful : Faithful f 7 ofJson? toJson id := by
  refine Faithful.record _ (fun _ => rfl) (fun _ => rfl) (fun _ => by simp) ?_
  intro n r e hn hr h
  simp only [Option.bind_eq_bind, Option.bind_eq_some_iff, Option.some.injEq] at h
  obtain ⟨changes, hchanges, steps, hsteps, annotations, hannotations, rfl⟩ := h
  have hedits := TextEdit.faithful (f := f) |>.list.map Uri.ofString?_eq_some_iff
  have hlabels := ChangeAnnotation.faithful (f := f) |>.map (Option.some_inj.trans eq_comm)
  have hchanges := hedits.optional (by omega) hr hchanges
  have hsteps := DocumentChanges.faithful.optional (f := f) (by omega) hr hsteps
  have hannotations := hlabels.optional (by omega) hr hannotations
  refine ⟨?_, fun r' hr' => ?_⟩
  · simp only [List.forall_mem_cons]
    exact ⟨hannotations.written, hchanges.written, hsteps.written, nofun⟩
  · simp only [hchanges.read r' (hr' _), hsteps.read r' (hr' _), hannotations.read r' (hr' _)]
    simp

end AnnotationBridge.Lsp
