import AnnotationBridge.Proofs.FileUri
import AnnotationBridge.Workbench
import Mathlib.Data.Fintype.Basic
import Mathlib.Data.List.TakeWhile

/-!
# Which paths have a URI

The text of the URL of a path is made by one standard and read by another one. Each byte that the
first leaves as it is is allowed by the second, but for four: brackets, `^` and `|`. So an absolute
path has a URI exactly if none of these is in it, and a text file at such a path, and no other, can
be opened.

* `Reference.skip_escape`, `Reference.skip_cons`, `Reference.allowed_of_isRun`: runs of characters
  and escapes.
* `FileUrl.isStray`: the four bytes. `FileUrl.isPathChar_of_isPlain`: no other byte is in the way.
* `Path.mem_bytes_iff`: each byte but separators and dots is part of a component.
* `Path.Addressable`, `FileUrl.accepts_ofPath_iff`, `exists_fileUri_iff`: which paths have a URI.
* `Document.exists_ofFile_iff`, `Workbench.exists_openFile_iff`: which text files can be opened.
* `fileUri_domain`: all of this about a path. `bracketed_path_has_no_uri`: a text file that cannot
  be opened.
-/

namespace AnnotationBridge

/-! ### Runs of characters and escapes -/

namespace Reference

variable {allowed : Char → Bool} {c : Char} {cs rest : List Char}

/-- An escape is passed over. -/
theorem skip_escape (allowed : Char → Bool) (b : UInt8) (rest : List Char) :
    skip allowed (Percent.escape b ++ rest) = skip allowed rest := by
  have hb := b.toNat_lt
  show skip allowed ('%' :: Percent.hexDigit (b.toNat / 16) ::
    Percent.hexDigit (b.toNat % 16) :: rest) = _
  rw [skip, Percent.hexValue?_hexDigit (by omega), Percent.hexValue?_hexDigit (by omega)]
  rfl

/-- A character other than a percent sign is passed over if it is allowed. -/
theorem skip_cons (hc : c ≠ '%') (rest : List Char) :
    skip allowed (c :: rest) = if allowed c then skip allowed rest else some (c :: rest) := by
  rw [skip]
  · simp [hc]
  · rintro h l tail heq -
    exact hc heq

/-- A run passes over the escaped form of bytes if the bytes that are not escaped are allowed. -/
theorem skip_encode {plain : UInt8 → Bool} {bytes : List UInt8} (hpercent : plain 0x25 = false)
    (h : ∀ b ∈ bytes, plain b = true → allowed (Char.ofNat b.toNat) = true) (rest : List Char) :
    skip allowed (Percent.encode plain bytes ++ rest) = skip allowed rest := by
  induction bytes with
  | nil => rfl
  | cons b bytes ih =>
    obtain ⟨hfirst, hrest⟩ := List.forall_mem_cons.1 h
    rw [Percent.encode_cons, List.append_assoc]
    unfold Percent.encodeByte
    split
    · rename_i hplain
      rw [List.singleton_append, skip_cons (Percent.ne_percent_of_plain hpercent hplain),
        if_pos (hfirst hplain), ih hrest]
    · rw [skip_escape, ih hrest]

/-- A character of a run is allowed, or part of an escape. -/
theorem allowed_of_isRun (h : isRun allowed cs = true) (hc : c ∈ cs) :
    allowed c = true ∨ c = '%' ∨ (Percent.hexValue? c).isSome = true := by
  have hskip : skip allowed cs = some [] := beq_iff_eq.1 h
  clear h
  fun_induction skip allowed cs with
  | case1 => cases hc
  | case2 high low cs hescape ih =>
    obtain ⟨hhigh, hlow⟩ := Bool.and_eq_true_iff.1 hescape
    simp only [List.mem_cons] at hc
    rcases hc with rfl | rfl | rfl | hc
    · exact .inr (.inl rfl)
    · exact .inr (.inr hhigh)
    · exact .inr (.inr hlow)
    · exact ih hc hskip
  | case3 | case4 => cases hskip
  | case5 first cs _ _ hfirst ih =>
    rcases List.mem_cons.1 hc with rfl | hc
    · exact .inl hfirst
    · exact ih hc hskip
  | case6 => cases hskip

/-- A URL without a host, a query and a fragment is a URI if its path is one run. -/
theorem accepts_of_path (hrest : ∀ c ∈ rest, c ≠ '?' ∧ c ≠ '#') :
    accepts ("file:///".toList ++ rest) = isRun isPathChar ('/' :: rest) := by
  have hcut : cutAt (fun c => c == '?' || c == '#') ('/' :: rest) = ('/' :: rest, []) := by
    have hstop : ∀ c ∈ '/' :: rest, (!(c == '?' || c == '#')) = true := by
      intro c hc
      rcases List.mem_cons.1 hc with rfl | hc
      · rfl
      · simp [hrest c hc]
    rw [cutAt, List.takeWhile_eq_self_iff.2 hstop, List.dropWhile_eq_nil_iff.2 hstop]
  have hpath : isPathAndTail ('/' :: rest) = isRun isPathChar ('/' :: rest) := by
    rw [isPathAndTail, hcut]
    exact Bool.and_true _
  rw [← hpath]
  rfl

end Reference

/-! ### Bytes of components -/

namespace Path

variable {p : Path} {part : Component} {b sep : UInt8} {bytes piece : List UInt8}

/-- A byte that is no separator is part of a piece. -/
theorem mem_piece_iff (hb : b ≠ sep) : (∃ piece ∈ splitAtByte sep bytes, b ∈ piece) ↔ b ∈ bytes := by
  induction bytes with
  | nil => simp [splitAtByte]
  | cons first bytes ih =>
    rw [splitAtByte, List.mem_cons, ← ih]
    split
    · rename_i hsep
      rw [hsep]
      simp [hb]
    · cases hsplit : splitAtByte sep bytes with
      | nil => exact absurd hsplit (splitAtByte_ne_nil sep bytes)
      | cons piece pieces => simp [or_assoc]

/-- A component has the bytes of its piece. -/
theorem Component.bytes_of_ofPiece (h : ofPiece piece = some part) : part.bytes = piece := by
  unfold ofPiece at h
  split at h
  · cases h
  · split at h
    · rename_i hdots
      obtain rfl := Option.some.inj h
      exact hdots.symm
    · obtain rfl := Option.some.inj h
      rfl

/-- The bytes of an absolute path that are no separators and no dots are those of its components. -/
theorem mem_bytes_iff (habs : p.isAbsolute = true) (hsep : b ≠ slash) (hdot : b ≠ dot) :
    b ∈ p.bytes ↔ ∃ part ∈ p.components.drop 1, b ∈ part.bytes := by
  rw [components_of_absolute habs, List.drop_one, List.tail_cons, ← mem_piece_iff hsep]
  constructor
  · rintro ⟨piece, hpiece, hb⟩
    have hsome : Component.ofPiece piece ≠ none := by
      unfold Component.ofPiece
      rw [if_neg]
      · split <;> exact Option.some_ne_none _
      · rintro (rfl | rfl)
        · cases hb
        · exact hdot (List.mem_singleton.1 hb)
    obtain ⟨part, hpart⟩ := Option.ne_none_iff_exists'.1 hsome
    refine ⟨part, List.mem_filterMap.2 ⟨piece, hpiece, hpart⟩, ?_⟩
    rwa [Component.bytes_of_ofPiece hpart]
  · rintro ⟨part, hpart, hb⟩
    obtain ⟨piece, hpiece, hof⟩ := List.mem_filterMap.1 hpart
    rw [Component.bytes_of_ofPiece hof] at hb
    exact ⟨piece, hpiece, hb⟩

end Path

/-- A statement about bytes holds of all bytes if it holds of all codes. -/
theorem forall_byte {P : UInt8 → Prop} (h : ∀ n : Fin 256, P (UInt8.ofNat n)) (b : UInt8) : P b := by
  have hb := h ⟨b.toNat, b.toNat_lt⟩
  rwa [UInt8.ofNat_toNat] at hb

namespace FileUrl

open Reference

variable {b : UInt8} {p : Path} {u : Uri} {parts : List Path.Component}

/-! ### Bytes without a place -/

/-- The bytes that a URL has as they are and that have no place in the path of a URI. -/
def isStray (b : UInt8) : Bool :=
  "[]^|".toList.any fun c => c.toNat == b.toNat

/-- **The other bytes that a URL has as they are have a place in the path of a URI.** -/
theorem isPathChar_of_isPlain :
    ∀ b, isPlain b = true → isStray b = false → isPathChar (Char.ofNat b.toNat) = true :=
  forall_byte (by decide +kernel)

/-- A stray byte is not escaped, and is no character of a path or an escape. -/
theorem stray :
    ∀ b, isStray b = true → isPlain b = true ∧ isPathChar (Char.ofNat b.toNat) = false ∧
      Char.ofNat b.toNat ≠ '%' ∧ Percent.hexValue? (Char.ofNat b.toNat) = none :=
  forall_byte (by decide +kernel)

/-- Segments make a run exactly if there are no stray bytes in them. -/
theorem isRun_segments_iff :
    isRun isPathChar (parts.flatMap fun part => '/' :: Percent.encode isPlain part.bytes) = true ↔
      ∀ part ∈ parts, ∀ b ∈ part.bytes, isStray b = false := by
  constructor
  · intro h part hpart b hb
    rw [Bool.eq_false_iff]
    intro hstray
    obtain ⟨hplain, hnot, hpercent, hdigit⟩ := stray b hstray
    have hmem : Char.ofNat b.toNat ∈
        parts.flatMap fun part => '/' :: Percent.encode isPlain part.bytes := by
      refine List.mem_flatMap.2 ⟨part, hpart, List.mem_cons_of_mem _ ?_⟩
      refine List.mem_flatMap.2 ⟨b, hb, ?_⟩
      rw [Percent.encodeByte, if_pos hplain]
      exact List.mem_singleton_self _
    rcases allowed_of_isRun h hmem with hallowed | heq | hescape
    · rw [hnot] at hallowed
      cases hallowed
    · exact hpercent heq
    · rw [hdigit] at hescape
      cases hescape
  · intro h
    rw [isRun, beq_iff_eq]
    induction parts with
    | nil => rfl
    | cons part parts ih =>
      obtain ⟨hfirst, hrest⟩ := List.forall_mem_cons.1 h
      rw [List.flatMap_cons, List.cons_append, skip_cons (by decide), if_pos (by rfl)]
      rw [skip_encode isPlain_percent fun b hb hplain => isPathChar_of_isPlain b hplain (hfirst b hb)]
      exact ih hrest

/-- The text of the URL of a path is a URI exactly if there are no stray bytes in its components. -/
theorem accepts_ofPath_iff :
    accepts (ofPath p) = true ↔ ∀ part ∈ p.components.drop 1, ∀ b ∈ part.bytes, isStray b = false := by
  obtain ⟨rest, htext, hrest, -⟩ := ofPath_eq p
  rw [htext, accepts_of_path hrest, ← isRun_segments_iff]
  have hpath : '/' :: rest = if (p.components.drop 1).isEmpty then ['/']
      else (p.components.drop 1).flatMap fun part => '/' :: Percent.encode isPlain part.bytes :=
    (List.append_right_inj "file://".toList).1 htext.symm
  rw [hpath]
  split
  · rename_i hnone
    rw [List.isEmpty_iff.1 hnone]
    rfl
  · rfl

end FileUrl

/-! ### Paths with a URI -/

/-- An absolute path in which no byte is without a place in a URI. -/
structure Path.Addressable (p : Path) : Prop where
  absolute : p.isAbsolute = true
  plain : ∀ b ∈ p.bytes, FileUrl.isStray b = false

/-- A path is addressable if it is absolute and none of its bytes is stray. -/
theorem Path.addressable_iff {p : Path} :
    p.Addressable ↔ p.isAbsolute = true ∧ ∀ b ∈ p.bytes, FileUrl.isStray b = false :=
  ⟨fun h => ⟨h.absolute, h.plain⟩, fun h => ⟨h.1, h.2⟩⟩

/-- It can be decided whether a path is addressable. -/
instance (p : Path) : Decidable p.Addressable :=
  decidable_of_iff ((p.isAbsolute && p.bytes.all (!FileUrl.isStray ·)) = true)
    (by simp [Path.addressable_iff])

/-- The text of the URL of an absolute path is a URI exactly if there are no stray bytes in the
path. -/
theorem accepts_ofPath_iff_addressable {p : Path} (habs : p.isAbsolute = true) :
    Reference.accepts (FileUrl.ofPath p) = true ↔ p.Addressable := by
  rw [FileUrl.accepts_ofPath_iff]
  constructor
  · refine fun h => ⟨habs, fun b hb => Bool.eq_false_iff.2 fun hstray => ?_⟩
    have hsep : b ≠ slash := by rintro rfl; revert hstray; decide
    have hdot : b ≠ dot := by rintro rfl; revert hstray; decide
    obtain ⟨part, hpart, hmem⟩ := (Path.mem_bytes_iff habs hsep hdot).1 hb
    rw [h part hpart b hmem] at hstray
    cases hstray
  · refine fun h part hpart b hmem => Bool.eq_false_iff.2 fun hstray => ?_
    have hsep : b ≠ slash := by rintro rfl; revert hstray; decide
    have hdot : b ≠ dot := by rintro rfl; revert hstray; decide
    have hb := (Path.mem_bytes_iff habs hsep hdot).2 ⟨part, hpart, hmem⟩
    rw [h.plain b hb] at hstray
    cases hstray

/-- What becomes of a path with a URI. -/
theorem Path.Addressable.exists_fileUri {p : Path} (h : p.Addressable) :
    ∃ u, fileUri p = .ok u ∧ u.text.toList = FileUrl.ofPath p := by
  have haccepts : Reference.accepts (String.ofList (FileUrl.ofPath p)).toList = true := by
    rw [String.toList_ofList]
    exact (accepts_ofPath_iff_addressable h.absolute).2 h
  refine ⟨⟨_, haccepts⟩, ?_, String.toList_ofList⟩
  rw [fileUri, if_pos h.absolute, Uri.ofString?, dif_pos haccepts]

/-- A relative path has no URI. -/
theorem fileUri_of_relative {p : Path} (h : p.isAbsolute = false) :
    fileUri p = .error (.relative p) := by
  rw [fileUri, h]
  rfl

/-- A path with a stray byte has no URI. -/
theorem fileUri_of_stray {p : Path} (habs : p.isAbsolute = true) (h : ¬ p.Addressable) :
    fileUri p = .error (.illFormed (String.ofList (FileUrl.ofPath p))) := by
  have hrefused : ¬ Reference.accepts (String.ofList (FileUrl.ofPath p)).toList = true := by
    rw [String.toList_ofList]
    exact fun haccepts => h ((accepts_ofPath_iff_addressable habs).1 haccepts)
  rw [fileUri, if_pos habs, Uri.ofString?, dif_neg hrefused]

/-- **Which paths have a URI.** -/
theorem exists_fileUri_iff {p : Path} : (∃ u, fileUri p = .ok u) ↔ p.Addressable := by
  constructor
  · rintro ⟨u, hu⟩
    by_contra h
    cases habs : p.isAbsolute with
    | false => rw [fileUri_of_relative habs] at hu; cases hu
    | true => rw [fileUri_of_stray habs h] at hu; cases hu
  · intro h
    obtain ⟨u, hu, -⟩ := h.exists_fileUri
    exact ⟨u, hu⟩

/-! ### Files that can be opened -/

/-- **Which text files can be opened.** -/
theorem Document.exists_ofFile_iff {files : Files} {p : Path} {text : String}
    (hread : files.readText p = .ok text) (id : DocumentId) :
    (∃ d, Document.ofFile files id p = .ok d) ↔ p.Addressable := by
  rw [← exists_fileUri_iff, Document.ofFile, hread]
  cases fileUri p <;> simp

/-- **Which text files can be opened in an editor.** -/
theorem Workbench.exists_openFile_iff {w : Workbench} {files : Files} {path : Path} {text : String}
    (hread : files.readText (w.workspace.resolve path) = .ok text) (editor : EditorId)
    (id : DocumentId) :
    (∃ w', w.openFile files editor id path = .ok w') ↔ (w.workspace.resolve path).Addressable := by
  rw [← Document.exists_ofFile_iff hread id, Workbench.openFile]
  cases Document.ofFile files id (w.workspace.resolve path) <;> simp [Except.map]

/-- **Which paths have a URI, and which files can be opened.** A path has a URI exactly if it is
absolute and has no bracket, `^` or `|`; the URI is well-formed, and is the text of the URL of the
path. A relative path is refused as such, and any other path with the text of its URL. A text file
can be opened, as a document or in an editor, exactly if its path has a URI. -/
theorem fileUri_domain (p : Path) :
    ((∃ u, fileUri p = .ok u) ↔
      p.isAbsolute = true ∧ ∀ b ∈ p.bytes, b ≠ 0x5B ∧ b ≠ 0x5D ∧ b ≠ 0x5E ∧ b ≠ 0x7C) ∧
    (∀ u, fileUri p = .ok u → Reference.accepts u.text.toList = true ∧
      u.text.toList = FileUrl.ofPath p ∧ "file:///".toList <+: u.text.toList) ∧
    (p.isAbsolute = false → fileUri p = .error (.relative p)) ∧
    (∀ e, p.isAbsolute = true → fileUri p = .error e →
      e = .illFormed (String.ofList (FileUrl.ofPath p))) ∧
    (∀ files : Files, ∀ text, files.readText p = .ok text →
      ∀ id, (∃ d, Document.ofFile files id p = .ok d) ↔ ∃ u, fileUri p = .ok u) ∧
    ∀ (w : Workbench) (files : Files) (path : Path), w.workspace.resolve path = p →
      ∀ text, files.readText p = .ok text →
      ∀ editor id, (∃ w', w.openFile files editor id path = .ok w') ↔ ∃ u, fileUri p = .ok u := by
  have hstray : ∀ b, FileUrl.isStray b = false ↔ b ≠ 0x5B ∧ b ≠ 0x5D ∧ b ≠ 0x5E ∧ b ≠ 0x7C :=
    forall_byte (by decide +kernel)
  refine ⟨?_, fun u hu => ⟨u.valid, FileUrl.text_of_fileUri hu, ?_⟩, fileUri_of_relative,
    fun e habs he => ?_, fun files text hread id => ?_, ?_⟩
  · simp only [exists_fileUri_iff, Path.addressable_iff, hstray]
  · obtain ⟨rest, htext, -⟩ := FileUrl.ofPath_eq p
    rw [FileUrl.text_of_fileUri hu, htext]
    exact List.prefix_append _ rest
  · have hnot : ¬ p.Addressable := fun h => by
      obtain ⟨u, hu, -⟩ := h.exists_fileUri
      rw [hu] at he
      cases he
    rw [fileUri_of_stray habs hnot] at he
    exact (Except.error.inj he).symm
  · rw [exists_fileUri_iff]
    exact Document.exists_ofFile_iff hread id
  · rintro w files path rfl text hread editor id
    rw [exists_fileUri_iff]
    exact Workbench.exists_openFile_iff hread editor id

namespace Path.Sample

/-- A path with blanks, marks of URIs, an accent and a byte that is no text. -/
def odd : Path :=
  ⟨(Path.ofString "/w/a b#%?é~").bytes ++ [0xFF]⟩

/-- A path with brackets. -/
def bracketed : Path :=
  .ofString "/w/[draft]/A.java"

/-- A file system with both files. -/
def files : Files :=
  ((FileTree.empty.write odd (.file (Text.Utf8.encode "a"))).write
    bracketed (.file (Text.Utf8.encode "class A"))).files (.ofString "/w")

/-- A workbench. -/
def workbench : Workbench :=
  .empty ⟨.ofString "/w"⟩

end Path.Sample

/-- A file with an odd name has a URI and can be opened, and the relative path of a file has
none. -/
theorem fileUri_domain_odd_name :
    (∃ u, fileUri Path.Sample.odd = .ok u ∧ Reference.accepts u.text.toList = true) ∧
      (∃ d, Document.ofFile Path.Sample.files ⟨1⟩ Path.Sample.odd = .ok d) ∧
      (∃ w, Path.Sample.workbench.openFile Path.Sample.files ⟨1⟩ ⟨1⟩ Path.Sample.odd = .ok w) ∧
      fileUri (.ofString "A.java") = .error (.relative (.ofString "A.java")) ∧
      ∀ e, fileUri Path.Sample.bracketed = .error e → e = .illFormed "file:///w/[draft]/A.java" := by
  have hread : Path.Sample.files.readText Path.Sample.odd = .ok "a" := by decide +kernel
  obtain ⟨total, valid, -, -, document, editor⟩ := fileUri_domain Path.Sample.odd
  obtain ⟨-, -, relative, -⟩ := fileUri_domain (.ofString "A.java")
  obtain ⟨-, -, -, refused, -⟩ := fileUri_domain Path.Sample.bracketed
  obtain ⟨u, hu⟩ := total.2 ⟨rfl, by decide +kernel⟩
  refine ⟨⟨u, hu, (valid u hu).1⟩, ?_, ?_, relative rfl, fun e he => ?_⟩
  · exact (document _ "a" hread ⟨1⟩).2 ⟨u, hu⟩
  · exact (editor Path.Sample.workbench _ _ rfl "a" hread ⟨1⟩ ⟨1⟩).2 ⟨u, hu⟩
  · rw [refused e rfl he]
    rfl

/-- A text file at an absolute path that has no URI and cannot be opened. -/
theorem bracketed_path_has_no_uri :
    Path.Sample.bracketed.isAbsolute = true ∧
      Path.Sample.files.readText Path.Sample.bracketed = .ok "class A" ∧
      fileUri Path.Sample.bracketed = .error (.illFormed "file:///w/[draft]/A.java") ∧
      Document.ofFile Path.Sample.files ⟨1⟩ Path.Sample.bracketed =
        .error (.invalidUri "file:///w/[draft]/A.java") ∧
      (Path.Sample.workbench.openFile Path.Sample.files ⟨1⟩ ⟨1⟩ Path.Sample.bracketed).isOk = false := by
  have hread : Path.Sample.files.readText Path.Sample.bracketed = .ok "class A" := by decide +kernel
  have huri : fileUri Path.Sample.bracketed = .error (.illFormed "file:///w/[draft]/A.java") := by
    rw [fileUri_of_stray rfl (by decide)]
    rfl
  have hfile : Document.ofFile Path.Sample.files ⟨1⟩ Path.Sample.bracketed =
      .error (.invalidUri "file:///w/[draft]/A.java") := by
    rw [Document.ofFile, hread, huri]
    rfl
  refine ⟨rfl, hread, huri, hfile, ?_⟩
  rw [Workbench.openFile, show Path.Sample.workbench.workspace.resolve Path.Sample.bracketed =
    Path.Sample.bracketed from rfl, hfile]
  rfl

end AnnotationBridge
