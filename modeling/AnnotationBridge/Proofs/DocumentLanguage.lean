import AnnotationBridge.Proofs.Addressable
import AnnotationBridge.Proofs.EscapedName
import AnnotationBridge.Proofs.Registry

/-!
# The language of a document

A document of a text has the language of the last piece of its URI, as it is spelled there. The
document of a file has the language of the last component of its path. So the two can differ where
the piece spells the component with escapes, and where a query or a fragment is part of it.

* `Uri.EndsIn`: a URI that ends in a piece that can be the name of a file, and a query or a
  fragment.
* `Uri.EndsIn.bytes_eq`: the piece spells the last component of the path of the URI.
* `Document.PlainExtension`: a name whose extension is not escaped in a URI.
* `ConnectionPool.forall_resolve_eq_iff`: documents that are looked at by the same servers.
* `Document.language_iff`: when the languages are the same.
* `Document.escaped_letter_hides_language`: a URI and a file for which they are not.
-/

namespace AnnotationBridge

open Reference Text

/-! ### The last component of a path -/

namespace Path

variable {p : Path} {bytes : List UInt8}

/-- The name of a path is its last component, if that is a name. -/
theorem fileName_eq_some_iff :
    p.fileName = some bytes ↔ p.components.getLast? = some (.name bytes) := by
  unfold fileName
  split
  · rename_i hlast
    rw [hlast, Option.some_inj, Option.some_inj, Component.name.injEq]
  · rename_i hnot
    exact ⟨fun h => absurd h (by simp), fun h => absurd h (hnot bytes)⟩

/-- The last component of a path, if it is a name, is not empty, has no separators and is no
dots. -/
theorem name_of_fileName (h : p.fileName = some bytes) :
    slash ∉ bytes ∧ bytes ≠ [] ∧ bytes ≠ [dot] ∧ bytes ≠ [dot, dot] :=
  name_of_mem_components (List.mem_of_getLast? (fileName_eq_some_iff.1 h))

end Path

namespace FileUrl

variable {cs front back segment : List Char} {segments : List (List Char)} {path : Path}
  {uri : Uri}

/-- What is decoded to a dot is a dot segment. -/
theorem isSingleDot_of_decode (hascii : Ascii cs) (h : Percent.decode cs = [dot]) :
    isSingleDot cs = true := by
  obtain ⟨rest, hdot, hend, -⟩ := dotThen?_of_decode hascii h
  rw [isSingleDot, hdot, eq_nil_of_decode hend]
  rfl

/-- A last segment that is no dots stays the last one. -/
theorem exists_resolveDots_append (hsingle : isSingleDot segment = false)
    (hdouble : isDoubleDot segment = false) (done front : List (List Char)) :
    ∃ kept, resolveDots done (front ++ [segment]) = kept ++ [segment] := by
  induction front generalizing done with
  | nil =>
    rw [List.nil_append, resolveDots, hsingle, hdouble]
    exact ⟨done.reverse, List.reverse_cons⟩
  | cons first front ih =>
    rw [List.cons_append, resolveDots]
    split
    · exact ih _
    · split
      · exact ih _
      · exact ih _

/-- A last segment that is neither empty nor made of dots is kept. -/
theorem exists_normalSegments_append (hne : segment ≠ []) (hsingle : isSingleDot segment = false)
    (hdouble : isDoubleDot segment = false) (front : List (List Char)) :
    ∃ kept, normalSegments (front ++ [segment]) = kept ++ [segment] := by
  obtain ⟨kept, hkept⟩ := exists_resolveDots_append hsingle hdouble [] front
  have hlast : [segment].dropWhile (· == []) = [segment] :=
    List.dropWhile_cons_of_neg (by simpa using hne)
  obtain ⟨kept', hdrop⟩ : ∃ kept', (kept ++ [segment]).dropWhile (· == []) = kept' ++ [segment] := by
    rw [List.dropWhile_append, hlast]
    split
    · exact ⟨[], rfl⟩
    · exact ⟨_, rfl⟩
  refine ⟨kept', ?_⟩
  unfold normalSegments
  rw [hkept, hdrop]
  split
  · rename_i hnil
    exact absurd hnil (List.append_ne_nil_of_right_ne_nil _ (List.cons_ne_nil _ _))
  · rfl

/-- **The last component of the path of segments**, if the last segment is one name. -/
theorem fileName_pathOfSegments (hascii : Ascii segment) (hsep : '/' ∉ segment)
    (hescape : ¬ EscapesSeparator segment) (hne : segment ≠ []) (hsingle : isSingleDot segment = false)
    (hdouble : isDoubleDot segment = false) (front : List (List Char)) :
    (pathOfSegments (front ++ [segment])).fileName = some (Percent.decode segment) := by
  obtain ⟨kept, hkept⟩ := exists_normalSegments_append hne hsingle hdouble front
  have hname : (splitAtByte slash (Percent.decode segment)).filterMap Path.Component.ofPiece =
      [.name (Percent.decode segment)] := by
    refine Path.ofPiece_splitAtByte_name (slash_not_mem_decode hascii hsep hescape) ?_ ?_ ?_
    · exact fun h => hne (eq_nil_of_decode h)
    · exact fun h => Bool.eq_false_iff.1 hsingle (isSingleDot_of_decode hascii h)
    · exact fun h => Bool.eq_false_iff.1 hdouble (isDoubleDot_of_decode hascii h)
  have hcomponents : (pathOfSegments (front ++ [segment])).components.getLast? =
      some (.name (Percent.decode segment)) := by
    rw [pathOfSegments, hkept, components_pathBytes (by simp), List.flatMap_append,
      List.filterMap_append, List.flatMap_singleton, hname, ← List.cons_append,
      List.getLast?_concat]
  rw [Path.fileName, hcomponents]

/-! ### The last piece of a URI -/

/-- The last piece is that of the part behind a separator. -/
theorem getLast?_splitAtChar_append (sep : Char) (front back : List Char) :
    (splitAtChar sep (front ++ sep :: back)).getLast? = (splitAtChar sep back).getLast? := by
  rw [splitAtChar_append, List.getLast?_append_of_ne_nil _ (splitAtChar_ne_nil sep back)]

/-- The last segment of a URL is its last piece, unless it has no path. -/
theorem exists_segments_getLast? (h : pathAfterScheme? cs = some path) :
    ∃ segments, path = pathOfSegments segments ∧
      (segments = [[]] ∨ segments.getLast? = (splitAtChar '/' cs).getLast?) := by
  unfold pathAfterScheme? at h
  split at h
  · rename_i rest
    have hrest : (splitAtChar '/' ('/' :: '/' :: rest)).getLast? = (splitAtChar '/' rest).getLast? :=
      getLast?_splitAtChar_append '/' ['/'] rest
    rw [hrest]
    have hpath : splitAtChar '/' (cutAt (· == '/') rest).2.tail = [[]] ∨
        (splitAtChar '/' (cutAt (· == '/') rest).2.tail).getLast? = (splitAtChar '/' rest).getLast? := by
      cases hback : (cutAt (· == '/') rest).2 with
      | nil => exact .inl rfl
      | cons c back =>
        right
        have hc : c = '/' := beq_iff_eq.1 (stop_of_cutAt (· == '/') hback)
        rw [← cutAt_append (· == '/') rest, hback, hc, getLast?_splitAtChar_append, List.tail_cons]
    dsimp only at h
    split at h
    · exact ⟨_, (Option.some.inj h).symm, .inr rfl⟩
    · split at h
      · exact ⟨_, (Option.some.inj h).symm, hpath⟩
      · cases h
      · split at h
        · exact ⟨_, (Option.some.inj h).symm, hpath⟩
        · cases h
  · rename_i rest _
    refine ⟨_, (Option.some.inj h).symm, .inr ?_⟩
    exact (getLast?_splitAtChar_append '/' [] rest).symm
  · exact ⟨_, (Option.some.inj h).symm, .inr rfl⟩

end FileUrl

/-- A URI ends in a piece that can be the name of a file, and a query or a fragment or neither of
them. The piece follows a separator, is not empty, stands for no directory and has no escaped
separator; there is no separator behind it. -/
structure Uri.EndsIn (uri : Uri) (piece tail : List Char) : Prop where
  text : ∃ front, uri.text.toList = front ++ '/' :: (piece ++ tail) ∧
    ∀ c ∈ front ++ piece, c ≠ '?' ∧ c ≠ '#'
  mark : ∀ c, tail.head? = some c → c = '?' ∨ c = '#'
  separated : '/' ∉ piece ++ tail
  nonempty : piece ≠ []
  noDot : FileUrl.isSingleDot piece = false
  noDots : FileUrl.isDoubleDot piece = false
  whole : ¬ FileUrl.EscapesSeparator piece

namespace Uri.EndsIn

variable {uri : Uri} {piece tail : List Char} {path : Path} {bytes : List UInt8}

/-- The end of a URI is in ASCII. -/
theorem ascii (h : uri.EndsIn piece tail) : Ascii (piece ++ tail) := by
  obtain ⟨front, htext, -⟩ := h.text
  refine fun c hc => ascii_of_accepts uri.valid c ?_
  rw [htext]
  exact List.mem_append_right front (List.mem_cons_of_mem _ hc)

/-- The name that is taken from the URI. -/
theorem nameOfUri (h : uri.EndsIn piece tail) :
    Document.nameOfUri uri = String.ofList (piece ++ tail) := by
  obtain ⟨front, htext, -⟩ := h.text
  rw [Document.nameOfUri, htext, FileUrl.getLast?_splitAtChar_append,
    FileUrl.splitAtChar_eq_singleton h.separated]
  rfl

/-- What follows the scheme, up to the query, ends in the piece. -/
theorem exists_cutAt (h : uri.EndsIn piece tail) {scheme rest : List Char}
    (hscheme : scheme? uri.text.toList = some (scheme, rest)) :
    ∃ before, (cutAt (fun c => c == '?' || c == '#') rest).1 = before ++ '/' :: piece := by
  obtain ⟨front, htext, hplain⟩ := h.text
  obtain ⟨hparts, hchars⟩ := text_of_scheme? hscheme
  obtain ⟨before, hrest, hbefore⟩ : ∃ before, rest = before ++ '/' :: (piece ++ tail) ∧
      ∀ c ∈ before, c ∈ front := by
    rw [htext, ← List.singleton_append (x := ':'), ← List.append_assoc] at hparts
    rcases List.append_eq_append_iff.1 hparts with ⟨middle, hfront, hback⟩ | ⟨middle, hfront, hback⟩
    · cases middle with
      | nil => exact ⟨[], hback.symm, fun _ hc => absurd hc List.not_mem_nil⟩
      | cons c middle =>
        obtain ⟨rfl, -⟩ := List.cons.inj hback
        have hmem : '/' ∈ scheme ++ [':'] := hfront ▸ List.mem_append_right front List.mem_cons_self
        rcases List.mem_append.1 hmem with hmem | hmem
        · exact absurd (hchars '/' hmem) (by decide)
        · exact absurd hmem (by decide)
    · exact ⟨middle, hback, fun c hc => hfront ▸ List.mem_append_right _ hc⟩
  have hpass : ∀ c ∈ before ++ '/' :: piece, (!(c == '?' || c == '#')) = true := by
    have hof : ∀ c ∈ before ++ '/' :: piece, c ≠ '?' ∧ c ≠ '#' := by
      intro c hc
      simp only [List.mem_append, List.mem_cons] at hc
      rcases hc with hc | rfl | hc
      · exact hplain c (List.mem_append_left _ (hbefore c hc))
      · decide
      · exact hplain c (List.mem_append_right _ hc)
    intro c hc
    simp [hof c hc]
  have hstop : tail.takeWhile (fun c => !(c == '?' || c == '#')) = [] := by
    cases tail with
    | nil => rfl
    | cons c tail =>
      rcases h.mark c rfl with rfl | rfl <;> rfl
  refine ⟨before, ?_⟩
  show rest.takeWhile (fun c => !(c == '?' || c == '#')) = _
  rw [hrest, ← List.cons_append, ← List.append_assoc, List.takeWhile_append_of_pos hpass, hstop,
    List.append_nil]

end Uri.EndsIn

/-- **The last component of the path of a URI that ends in a name.** -/
theorem Uri.EndsIn.bytes_eq {uri : Uri} {piece tail : List Char} {path : Path} {bytes : List UInt8}
    (h : uri.EndsIn piece tail) (hpath : FileUrl.path? uri = some path)
    (hname : path.fileName = some bytes) : bytes = Percent.decode piece := by
  unfold FileUrl.path? at hpath
  split at hpath
  · cases hpath
  · rename_i scheme rest hscheme
    split at hpath
    · obtain ⟨before, hcut⟩ := h.exists_cutAt hscheme
      rw [hcut] at hpath
      obtain ⟨segments, rfl, hsegments⟩ := FileUrl.exists_segments_getLast? hpath
      have hsep : '/' ∉ piece := fun hmem => h.separated (List.mem_append_left tail hmem)
      have hascii : Ascii piece := fun c hc => h.ascii c (List.mem_append_left tail hc)
      rcases hsegments with rfl | hsegments
      · cases hname
      · rw [FileUrl.getLast?_splitAtChar_append, FileUrl.splitAtChar_eq_singleton hsep,
          List.getLast?_singleton] at hsegments
        obtain ⟨earlier, rfl⟩ := List.getLast?_eq_some_iff.1 hsegments
        rw [FileUrl.fileName_pathOfSegments hascii hsep h.whole h.nonempty h.noDot h.noDots] at hname
        exact (Option.some.inj hname).symm
    · cases hpath

/-! ### The name of a file in its URI -/

namespace FileUrl

variable {p : Path} {u : Uri} {bytes : List UInt8}

/-- The name in the URI of a path. -/
theorem nameOfUri_of_fileUri (h : fileUri p = .ok u) :
    Document.nameOfUri u = String.ofList ((segmentsOf p).getLast?.getD []) := by
  obtain ⟨rest, htext, -, hsplit⟩ := ofPath_eq p
  have hpieces : (splitAtChar '/' u.text.toList).getLast? = (splitAtChar '/' rest).getLast? := by
    rw [text_of_fileUri h, htext]
    exact getLast?_splitAtChar_append '/' "file://".toList rest
  rw [Document.nameOfUri, hpieces, hsplit]
  split
  · rename_i hnil
    rw [hnil]
    rfl
  · rfl

/-- A path with a URI is absolute. -/
theorem isAbsolute_of_fileUri (h : fileUri p = .ok u) : p.isAbsolute = true := by
  by_contra hnot
  rw [fileUri, if_neg hnot] at h
  cases h

/-- The name in the URI of a path is the last component, escaped. -/
theorem nameOfUri_of_getLast? {part : Path.Component} (h : fileUri p = .ok u)
    (hlast : p.components.getLast? = some part) :
    Document.nameOfUri u = String.ofList (Percent.encode isPlain part.bytes) := by
  have hroot := Path.components_of_absolute (isAbsolute_of_fileUri h)
  rw [nameOfUri_of_fileUri h, segmentsOf]
  rw [hroot] at hlast ⊢
  rcases List.eq_nil_or_concat ((splitAtByte slash p.bytes).filterMap Path.Component.ofPiece) with
    hnil | ⟨before, last, hparts⟩
  · rw [hnil] at hlast ⊢
    obtain rfl := Option.some.inj hlast
    rfl
  · rw [List.concat_eq_append] at hparts
    rw [hparts, ← List.cons_append, List.getLast?_concat] at hlast
    obtain rfl := Option.some.inj hlast
    rw [hparts, List.drop_one, List.tail_cons, List.map_append, List.map_singleton,
      List.getLast?_concat, Option.getD_some]

/-- A path without a last component has no language, and neither has its URI. -/
theorem languageOf_of_fileName_eq_none (h : fileUri p = .ok u) (hname : p.fileName = none) :
    languageOf (Document.nameOfUri u) = none := by
  have hroot := Path.components_of_absolute (isAbsolute_of_fileUri h)
  obtain ⟨part, hlast⟩ : ∃ part, p.components.getLast? = some part := by
    rw [hroot]
    exact ⟨_, List.getLast?_eq_some_getLast (List.cons_ne_nil _ _)⟩
  rw [nameOfUri_of_getLast? h hlast]
  cases part with
  | name bytes =>
    rw [Path.fileName_eq_some_iff.2 hlast] at hname
    cases hname
  | root | current | parent => rfl

end FileUrl

/-! ### Servers for a language -/

namespace ConnectionPool

variable {w : Workspace} {d d' : Document} {path : Path} {language : String}

/-- A connection to a server. -/
def watcher : Connection :=
  ⟨⟨1⟩, "watcher", {}, .silent⟩

/-- A pool with that connection only, whose server looks at documents of one language. -/
def watching (w : Workspace) (language : String) : ConnectionPool :=
  ⟨w, [("watcher", { languages := [language] })], [watcher]⟩

/-- A server that watches one language is asked about the documents of that language. -/
theorem mem_resolve_watching (hin : w.resourceFor d.uri = .ok path) :
    watcher ∈ (watching w language).resolve d (fun _ => true) ↔ d.language = some language := by
  have hlookup : (watching w language).definitions.lookup watcher.server =
      some { languages := [language] } := rfl
  rw [mem_resolve_iff, LooksAt, hlookup]
  constructor
  · rintro ⟨-, -, hnone | ⟨definition, hdefinition, hlanguages⟩, -⟩
    · cases hnone
    · obtain rfl := Option.some.inj hdefinition
      rcases hlanguages with hnil | ⟨l, hl, hmem⟩
      · cases hnil
      · rw [hl, List.mem_singleton.1 hmem]
  · intro hlanguage
    refine ⟨⟨path, hin⟩, List.mem_singleton_self _, .inr ⟨_, rfl, .inr ⟨language, hlanguage, ?_⟩⟩, rfl⟩
    exact List.mem_singleton_self _

/-- **Documents of one URI are looked at by the same servers exactly if they have the same
language.** -/
theorem forall_resolve_eq_iff (huri : d.uri = d'.uri) (hin : w.resourceFor d.uri = .ok path) :
    (∀ p : ConnectionPool, p.workspace = w → ∀ accepts, p.resolve d accepts = p.resolve d' accepts) ↔
      d.language = d'.language := by
  constructor
  · intro h
    refine Option.ext fun language => ?_
    rw [← mem_resolve_watching hin, ← mem_resolve_watching (huri ▸ hin),
      h (watching w language) rfl fun _ => true]
  · intro hlanguage p _ accepts
    simp only [resolve, appliesTo, huri, hlanguage]

end ConnectionPool

/-! ### The language of a document -/

namespace Document

/-- The extension of a name needs no escape in a URI. A name that is no text has no extension, and
its spelling has none either if it has no full stop after its first byte. -/
structure PlainExtension (bytes : List UInt8) : Prop where
  text : ∀ name, Utf8.decode? bytes = some name → ∀ ext, extension name.toList = some ext →
    ∀ b ∈ Utf8.encode (String.ofList ext), FileUrl.isPlain b = true
  noText : Utf8.decode? bytes = none → dot ∉ bytes.tail

variable {uri : Uri} {path : Path} {bytes : List UInt8} {u : Uri}

/-- The name of a document is the last component of its path, if that is text. -/
theorem nameOfPath_of_fileName (h : path.fileName = some bytes) :
    nameOfPath path = (Utf8.decode? bytes).getD "Unknown" := by
  rw [nameOfPath, h, Option.bind_some]

/-- The spelling of a name has its extension exactly if that needs no escape. -/
theorem extension_eq_iff_plainExtension (hdots : bytes ≠ [dot, dot]) :
    extension (Percent.encode FileUrl.isPlain bytes) =
      extension ((Utf8.decode? bytes).getD "Unknown").toList ↔ PlainExtension bytes := by
  cases hdecode : Utf8.decode? bytes with
  | none =>
    have hunknown : extension "Unknown".toList = none := by decide
    rw [Option.getD_none, hunknown, extension_eq_none_iff (FileUrl.encode_ne_dots hdots),
      FileUrl.dot_mem_tail_encode_iff]
    refine ⟨fun h => ⟨fun name hname => ?_, fun _ => h⟩, fun h => h.noText hdecode⟩
    rw [hdecode] at hname
    cases hname
  | some name =>
    have hbytes := Utf8.decode?_eq_some_iff.1 hdecode
    have hname : name ≠ ".." := by
      rintro rfl
      exact hdots (hbytes.symm.trans rfl)
    rw [Option.getD_some, ← hbytes, FileUrl.extension_encode_eq_iff hname]
    refine ⟨fun h => ⟨fun name' hname' => ?_, fun hnone => ?_⟩, fun h => h.text name (hbytes ▸ hdecode)⟩
    · rw [Utf8.decode?_encode] at hname'
      exact Option.some.inj hname' ▸ h
    · rw [Utf8.decode?_encode] at hnone
      cases hnone

/-- **The language of the URI of a path.** -/
theorem languageOf_nameOfUri_of_fileUri_iff (h : fileUri path = .ok u) :
    languageOf (nameOfUri u) = languageOf (nameOfPath path) ↔
      ∀ bytes, path.fileName = some bytes → PlainExtension bytes := by
  cases hname : path.fileName with
  | none =>
    have hunknown : languageOf (nameOfPath path) = none := by
      rw [nameOfPath, hname]
      rfl
    rw [FileUrl.languageOf_of_fileName_eq_none h hname, hunknown]
    simp
  | some bytes =>
    have hspelling : nameOfUri u = String.ofList (Percent.encode FileUrl.isPlain bytes) :=
      FileUrl.nameOfUri_of_getLast? h (Path.fileName_eq_some_iff.1 hname)
    obtain ⟨hslash, -, -, hdots⟩ := Path.name_of_fileName hname
    have hown : nameOfPath path ∈ ownLanguage → nameOfUri u = nameOfPath path := by
      intro hown
      rw [nameOfPath_of_fileName hname] at hown ⊢
      cases hdecode : Utf8.decode? bytes with
      | none =>
        rw [hdecode] at hown
        exact absurd hown (by decide)
      | some name =>
        rw [hdecode, Option.getD_some] at hown
        rw [hspelling, ← Utf8.decode?_eq_some_iff.1 hdecode]
        exact encode_of_mem_ownLanguage hown
    have hspelling_iff := languageOf_spelling_iff (FileUrl.ascii_encode bytes)
      (FileUrl.not_mem_encode_isPlain (by decide) (by decide) (by decide))
      (by rwa [FileUrl.decode_segment]) (by rwa [FileUrl.decode_segment]) rfl
    rw [FileUrl.decode_segment, ← nameOfPath_of_fileName hname] at hspelling_iff
    rw [hspelling] at hown ⊢
    rw [hspelling_iff, and_iff_left hown, nameOfPath_of_fileName hname,
      extension_eq_iff_plainExtension hdots]
    simp

/-- **The language of a URI that ends in a name.** -/
theorem languageOf_nameOfUri_of_endsIn {piece tail : List Char} (h : uri.EndsIn piece tail)
    (hname : path.fileName = some (Percent.decode piece)) :
    (tail = [] → (languageOf (nameOfUri uri) = languageOf (nameOfPath path) ↔
      extension piece = extension (nameOfPath path).toList ∧
        (nameOfPath path ∈ ownLanguage → String.ofList piece = nameOfPath path))) ∧
    ∀ mark rest, tail = mark :: rest →
      (∀ ext, afterLastDot rest = some ext → languageOf (nameOfUri uri) =
        some (languageOfExtension (String.ofList (lowercase ext)))) ∧
      ('.' ∉ rest → (languageOf (nameOfUri uri) = languageOf (nameOfPath path) ↔
        extension piece = none ∧ extension (nameOfPath path).toList = none)) := by
  obtain ⟨hslash, -, -, hdots⟩ := Path.name_of_fileName hname
  have hpath := nameOfPath_of_fileName hname
  rw [h.nameOfUri]
  refine ⟨?_, ?_⟩
  · rintro rfl
    have hascii := h.ascii
    have hsep := h.separated
    rw [List.append_nil] at hascii hsep ⊢
    exact languageOf_spelling_iff hascii hsep hslash hdots hpath
  · rintro mark rest rfl
    exact languageOf_spelling_append (h.mark mark rfl) h.ascii h.separated h.nonempty hslash hdots hpath

/-- **When the language of a document is that of its file.** A URI that ends in a name names a path
with that name as its last component. Without a query and a fragment, a document of the URI has the
language of the component exactly if the extension is spelled as it is, and so is the whole
component if that has a language of its own. With one of them, the language is what follows its last
full stop; if it has no full stop, the languages are the same exactly if there is no extension at
all.

For the file of a path, the document of its URI has the language of the document of the file exactly
if the extension of its name needs no escape, and exactly then they are looked at by the same
servers. -/
theorem language_iff (w : Workspace) (id : DocumentId) (text : String) :
    (∀ (uri : Uri) (piece tail : List Char) (path : Path) (bytes : List UInt8),
      uri.EndsIn piece tail → w.resourceFor uri = .ok path → path.fileName = some bytes →
      bytes = Percent.decode piece ∧
      (tail = [] → ((ofText id uri text).language = languageOf (nameOfPath path) ↔
        extension piece = extension (nameOfPath path).toList ∧
          (nameOfPath path ∈ ownLanguage → String.ofList piece = nameOfPath path))) ∧
      ∀ mark rest, tail = mark :: rest →
        (∀ ext, afterLastDot rest = some ext → (ofText id uri text).language =
          some (languageOfExtension (String.ofList (lowercase ext)))) ∧
        ('.' ∉ rest → ((ofText id uri text).language = languageOf (nameOfPath path) ↔
          extension piece = none ∧ extension (nameOfPath path).toList = none))) ∧
    ∀ (files : Files) (id' : DocumentId) (p : Path) (d : Document), ofFile files id' p = .ok d →
      ((ofText id d.uri text).language = d.language ↔
        ∀ bytes, p.fileName = some bytes → PlainExtension bytes) ∧
      ∀ path, w.resourceFor d.uri = .ok path →
        ((∀ pool : ConnectionPool, pool.workspace = w → ∀ accepts,
          pool.resolve (ofText id d.uri text) accepts = pool.resolve d accepts) ↔
            (ofText id d.uri text).language = d.language) := by
  refine ⟨fun uri piece tail path bytes h hpath hname => ?_, fun files id' p d hd => ?_⟩
  · obtain rfl := h.bytes_eq (Workspace.path?_of_resourceFor hpath) hname
    exact ⟨rfl, languageOf_nameOfUri_of_endsIn h hname⟩
  · have hfile : fileUri p = .ok d.uri ∧ d.language = languageOf (nameOfPath p) := by
      unfold ofFile at hd
      split at hd
      · cases hd
      · split at hd
        · cases hd
        · rename_i u hu
          obtain rfl := Except.ok.inj hd
          exact ⟨hu, rfl⟩
    refine ⟨?_, fun path hpath => ConnectionPool.forall_resolve_eq_iff rfl hpath⟩
    rw [hfile.2]
    exact languageOf_nameOfUri_of_fileUri_iff hfile.1

namespace Sample

/-- A file in a workspace. -/
def source : Path :=
  .ofString "/projects/demo/A.java"

/-- A URI of the file with an escape before the extension. -/
def escapedStem : Uri :=
  ⟨"file:///projects/demo/%41.java", by decide⟩

/-- A URI of the file with an escape in the extension. -/
def escapedExtension : Uri :=
  ⟨"file:///projects/demo/A.j%61va", by decide⟩

/-- A URI of the file with a query. -/
def queried : Uri :=
  ⟨"file:///projects/demo/A.java?v=2", by decide⟩

/-- A file whose name has a blank. -/
def spaced : Path :=
  .ofString "/projects/demo/a b.java"

/-- The URI of that file. -/
def escapedBlank : Uri :=
  ⟨"file:///projects/demo/a%20b.java", by decide⟩

/-- A file with an extension that a URI has in another spelling. -/
def sharp : Path :=
  .ofString "/projects/demo/a.c#"

/-- The URI of that file. -/
def escapedSharp : Uri :=
  ⟨"file:///projects/demo/a.c%23", by decide⟩

/-- A file system with both files. -/
def files : Files :=
  ((FileTree.empty.write spaced (.file [])).write sharp (.file [])).files (.ofString "/")

/-- A URI in the workspace ends in what follows the directory. -/
theorem endsIn {uri : Uri} {piece tail : List Char}
    (htext : uri.text.toList = "file:///projects/demo".toList ++ '/' :: (piece ++ tail))
    (hplain : ("file:///projects/demo".toList ++ piece).all (fun c => c != '?' && c != '#') = true)
    (hmark : ∀ c, tail.head? = some c → c = '?' ∨ c = '#') (hsep : (piece ++ tail).contains '/' = false)
    (hnonempty : piece ≠ []) (hdot : FileUrl.isSingleDot piece = false)
    (hdots : FileUrl.isDoubleDot piece = false) (hdigit : piece.contains '2' = false) :
    uri.EndsIn piece tail := by
  refine ⟨⟨_, htext, fun c hc => ?_⟩, hmark, ?_, hnonempty, hdot, hdots, ?_⟩
  · simpa using List.all_eq_true.1 hplain c hc
  · simpa using hsep
  · intro hescape
    have hmem : '2' ∈ piece := by
      rcases hescape with hinfix | hinfix <;> exact hinfix.subset (by decide)
    exact absurd hmem (by simpa using hdigit)

end Sample

/-- A URI with an escape before the extension has the language of its file; one with an escape in
the extension and one with a query have others. A file and its URI have the same language in spite
of a blank. -/
theorem language_iff_blank :
    (∀ id text, (ofText id Sample.escapedStem text).language = languageOf (nameOfPath Sample.source)) ∧
      (∀ id text,
        (ofText id Sample.escapedExtension text).language ≠ languageOf (nameOfPath Sample.source)) ∧
      (∀ id text, (ofText id Sample.queried text).language ≠ languageOf (nameOfPath Sample.source)) ∧
      ∃ d, ofFile Sample.files ⟨1⟩ Sample.spaced = .ok d ∧
        (∀ id text, (ofText id d.uri text).language = d.language) ∧
        ∀ pool : ConnectionPool, pool.workspace = Workspace.Sample.demo → ∀ accepts,
          pool.resolve (ofText ⟨2⟩ d.uri "") accepts = pool.resolve d accepts := by
  have hstem : Workspace.Sample.demo.resourceFor Sample.escapedStem = .ok Sample.source := rfl
  have hextension : Workspace.Sample.demo.resourceFor Sample.escapedExtension = .ok Sample.source :=
    rfl
  have hqueried : Workspace.Sample.demo.resourceFor Sample.queried = .ok Sample.source := rfl
  have hstemEnds : Sample.escapedStem.EndsIn "%41.java".toList [] :=
    Sample.endsIn rfl rfl (by simp) rfl (by simp) rfl rfl rfl
  have hextensionEnds : Sample.escapedExtension.EndsIn "A.j%61va".toList [] :=
    Sample.endsIn rfl rfl (by simp) rfl (by simp) rfl rfl rfl
  have hqueriedEnds : Sample.queried.EndsIn "A.java".toList "?v=2".toList :=
    Sample.endsIn rfl rfl (by simp) rfl (by simp) rfl rfl rfl
  have hread : Sample.files.readText Sample.spaced = .ok "" := by decide +kernel
  have huri : fileUri Sample.spaced = .ok Sample.escapedBlank := rfl
  have hfile : ofFile Sample.files ⟨1⟩ Sample.spaced = .ok
      { ofText ⟨1⟩ Sample.escapedBlank "" with
        path := some Sample.spaced
        name := nameOfPath Sample.spaced
        language := languageOf (nameOfPath Sample.spaced) } := by
    rw [ofFile, hread, huri]
    rfl
  have hresource : Workspace.Sample.demo.resourceFor Sample.escapedBlank = .ok Sample.spaced := rfl
  have hplain : ∀ bytes, Sample.spaced.fileName = some bytes → PlainExtension bytes := by
    intro bytes hname
    have hbytes : Sample.spaced.fileName = some (Utf8.encode "a b.java") := rfl
    obtain rfl := Option.some.inj (hbytes.symm.trans hname)
    exact (extension_eq_iff_plainExtension (by decide)).1 rfl
  have hsource : nameOfPath Sample.source = "A.java" := rfl
  have hall := language_iff Workspace.Sample.demo
  refine ⟨fun id text => ?_, fun id text => ?_, fun id text => ?_, _, hfile, fun id text => ?_, ?_⟩
  · refine (((hall id text).1 _ _ _ _ _ hstemEnds hstem rfl).2.1 rfl).2 ⟨rfl, fun hown => ?_⟩
    rw [hsource] at hown
    exact absurd hown (by decide)
  · rw [Ne, ((hall id text).1 _ _ _ _ _ hextensionEnds hextension rfl).2.1 rfl, hsource]
    exact fun h => absurd h.1 (by decide)
  · rw [Ne, (((hall id text).1 _ _ _ _ _ hqueriedEnds hqueried rfl).2.2 _ _ rfl).2 (by decide)]
    exact fun h => absurd h.1 (by decide)
  · exact ((hall id text).2 _ _ _ _ hfile).1.2 hplain
  · obtain ⟨hlanguage, hservers⟩ := (hall ⟨2⟩ "").2 _ _ _ _ hfile
    exact (hservers _ hresource).2 (hlanguage.2 hplain)

/-- A URI that names a file and has another language than the file, and a file whose URI has. -/
theorem escaped_letter_hides_language :
    Workspace.Sample.demo.resourceFor Sample.escapedExtension = .ok Sample.source ∧
      Sample.source.fileName = some (Utf8.encode "A.java") ∧
      (ofText ⟨1⟩ Sample.escapedExtension "").language = some "j%61va" ∧
      languageOf (nameOfPath Sample.source) = some "java" ∧
      ∃ d, ofFile Sample.files ⟨1⟩ Sample.sharp = .ok d ∧ d.language = some "c#" ∧
        (ofText ⟨2⟩ d.uri "").language = some "c%23" := by
  have hread : Sample.files.readText Sample.sharp = .ok "" := by decide +kernel
  have huri : fileUri Sample.sharp = .ok Sample.escapedSharp := rfl
  exact ⟨rfl, rfl, rfl, rfl, _, by rw [ofFile, hread, huri], rfl, rfl⟩

end Document

end AnnotationBridge
