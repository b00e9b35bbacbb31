import AnnotationBridge.Json.Decode
import AnnotationBridge.Uri.Reference

/-!
# Diagnostics

What language servers say about a document. Each type has a decoder `ofJson?` and an encoder
`toJson`, which leaves out the fields that are absent.

* `Lsp.Position`, `Lsp.Range`: places, in lines and UTF-16 columns.
* `Lsp.Diagnostic`: a finding at a range.
* `Lsp.PublishParams`: all findings of a server for a document.
-/

namespace AnnotationBridge.Lsp

open Json (Decoder Record record?)

/-! ### Places -/

/-- A line and a UTF-16 column, both counted from zero. -/
structure Position where
  line : UInt32
  character : UInt32
  deriving DecidableEq, Repr, Inhabited

/-- Decodes a position. -/
def Position.ofJson? : Decoder Position := fun j => do
  let r ← record? ["line", "character"] 2 j
  some ⟨← r.required "line" Json.uint32?, ← r.required "character" Json.uint32?⟩

/-- Encodes a position. -/
def Position.toJson (p : Position) : Json :=
  .object [("character", .nat p.character.toNat), ("line", .nat p.line.toNat)]

/-- A range, the end excluded. -/
structure Range where
  start : Position
  stop : Position
  deriving DecidableEq, Repr, Inhabited

/-- Decodes a range. -/
def Range.ofJson? : Decoder Range := fun j => do
  let r ← record? ["start", "end"] 2 j
  some ⟨← r.required "start" Position.ofJson?, ← r.required "end" Position.ofJson?⟩

/-- Encodes a range. -/
def Range.toJson (r : Range) : Json :=
  .object [("end", r.stop.toJson), ("start", r.start.toJson)]

/-- Decodes a URI. -/
def uri? : Decoder Uri := fun j =>
  (Json.text? j).bind Uri.ofString?

/-- Encodes a URI. -/
def uriJson (u : Uri) : Json :=
  .string u.text

/-- A range of a document. -/
structure Location where
  uri : Uri
  range : Range
  deriving DecidableEq

/-- Decodes a location. -/
def Location.ofJson? : Decoder Location := fun j => do
  let r ← record? ["uri", "range"] 2 j
  some ⟨← r.required "uri" uri?, ← r.required "range" Range.ofJson?⟩

/-- Encodes a location. -/
def Location.toJson (l : Location) : Json :=
  .object [("range", l.range.toJson), ("uri", uriJson l.uri)]

/-! ### Diagnostics -/

/-- A place elsewhere that has to do with a diagnostic. -/
structure RelatedInformation where
  location : Location
  message : String
  deriving DecidableEq

/-- Decodes related information. -/
def RelatedInformation.ofJson? : Decoder RelatedInformation := fun j => do
  let r ← record? ["location", "message"] 2 j
  some ⟨← r.required "location" Location.ofJson?, ← r.required "message" Json.text?⟩

/-- Encodes related information. -/
def RelatedInformation.toJson (i : RelatedInformation) : Json :=
  .object [("location", i.location.toJson), ("message", .string i.message)]

/-- The code of a diagnostic. -/
inductive DiagnosticCode where
  | number (value : Int32)
  | text (value : String)
  deriving DecidableEq, Repr

/-- Decodes a code. -/
def DiagnosticCode.ofJson? : Decoder DiagnosticCode
  | .string s => some (.text s)
  | j => (Json.int32? j).map .number

/-- Encodes a code. -/
def DiagnosticCode.toJson : DiagnosticCode → Json
  | .number n => .int n.toInt
  | .text s => .string s

/-- The text of a code. -/
def DiagnosticCode.shown : DiagnosticCode → String
  | .number n => toString n.toInt
  | .text s => s

/-- The severity that stands for an error. -/
def errorSeverity : Int32 := 1

/-- The severity that stands for a warning. -/
def warningSeverity : Int32 := 2

/-- A finding at a range of a document. -/
structure Diagnostic where
  range : Range
  severity : Option Int32 := none
  code : Option DiagnosticCode := none
  /-- Where the code is explained. -/
  codeDescription : Option Uri := none
  source : Option String := none
  message : String
  relatedInformation : Option (List RelatedInformation) := none
  tags : Option (List Int32) := none
  data : Option Json := none

/-- Decodes the description of a code. -/
def codeDescription? : Decoder Uri := fun j => do
  (← record? ["href"] 1 j).required "href" uri?

/-- Decodes a diagnostic. -/
def Diagnostic.ofJson? : Decoder Diagnostic := fun j => do
  let r ← record? ["range", "severity", "code", "codeDescription", "source", "message",
    "relatedInformation", "tags", "data"] 9 j
  some
    { range := ← r.required "range" Range.ofJson?
      severity := ← r.optional "severity" Json.int32?
      code := ← r.optional "code" DiagnosticCode.ofJson?
      codeDescription := ← r.optional "codeDescription" codeDescription?
      source := ← r.optional "source" Json.text?
      message := ← r.required "message" Json.text?
      relatedInformation :=
        ← r.optional "relatedInformation" (Json.list? RelatedInformation.ofJson?)
      tags := ← r.optional "tags" (Json.list? Json.int32?)
      data := ← r.optional "data" Json.any? }

/-- Encodes a diagnostic. -/
def Diagnostic.toJson (d : Diagnostic) : Json :=
  .ofFields
    [("code", d.code.map DiagnosticCode.toJson),
      ("codeDescription", d.codeDescription.map fun u => .object [("href", uriJson u)]),
      ("data", d.data),
      ("message", some (.string d.message)),
      ("range", some d.range.toJson),
      ("relatedInformation",
        d.relatedInformation.map fun is => .array (is.map RelatedInformation.toJson)),
      ("severity", d.severity.map fun n => .int n.toInt),
      ("source", d.source.map .string),
      ("tags", d.tags.map fun ts => .array (ts.map fun n => .int n.toInt))]

/-- All findings of a server for a document. -/
structure PublishParams where
  uri : Uri
  diagnostics : List Diagnostic
  version : Option Int32 := none

/-- Decodes a publish. -/
def PublishParams.ofJson? : Decoder PublishParams := fun j => do
  let r ← record? ["uri", "diagnostics", "version"] 3 j
  some
    { uri := ← r.required "uri" uri?
      diagnostics := ← r.required "diagnostics" (Json.list? Diagnostic.ofJson?)
      version := ← r.optional "version" Json.int32? }

end AnnotationBridge.Lsp
