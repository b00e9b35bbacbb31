import AnnotationBridge.Proofs.EscapedSeparators
import Mathlib.Data.List.TakeWhile

/-!
# The URI of a path and back

The URI of a path has one segment for each component, with escapes for all bytes that would be read
in another way. Reading it finds the components again: no escape is lost, no separator, query or
fragment arises, and no segment is taken for a dot segment. The bytes need not be found again: what
stands for no component is left out, and a drive letter at the end gets a separator.

* `Percent.decode_encode`: what is escaped can be read back. `Percent.not_mem_encode`: characters
  that escaped bytes do not have.
* `FileUrl.path?_of_text`: reading a URL without a host.
* `Path.Canonical`: absolute, and without `..`. `FileUrl.components_of_fileUri`: the URI of such a
  path names a path with the same components.
* `Workspace.isOk_resourceFor_fileUri`: whether a workspace has that URI.
* `Files.Canonicalizes`, `FileTree.canonicalizes`: file systems whose canonical paths are such.
-/

namespace AnnotationBridge

open Reference

/-! ### Escapes -/

namespace Percent

variable {c : Char} {plain : UInt8 → Bool} {bytes : List UInt8}

/-- A byte is the code point of its character. -/
theorem toNat_ofNat (b : UInt8) : (Char.ofNat b.toNat).toNat = b.toNat := by
  have hvalid : b.toNat.isValidChar := .inl (Nat.lt_trans b.toNat_lt (by decide))
  rw [Char.ofNat, dif_pos hvalid]
  rfl

/-- Different bytes have different characters. -/
theorem eq_of_ofNat_eq {a b : UInt8} (h : Char.ofNat a.toNat = Char.ofNat b.toNat) : a = b := by
  rw [← UInt8.toNat_inj, ← toNat_ofNat a, h, toNat_ofNat b]

/-- A byte that stands for itself is no percent sign, unless a percent sign may stand for itself. -/
theorem ne_percent_of_plain {b : UInt8} (hpercent : plain 0x25 = false) (hb : plain b = true) :
    Char.ofNat b.toNat ≠ '%' := by
  intro heq
  have hcode : b = 0x25 := eq_of_ofNat_eq heq
  rw [hcode, hpercent] at hb
  cases hb

/-- A character other than `%` is decoded by itself. -/
theorem decode_cons_of_ne (hc : c ≠ '%') (rest : List Char) :
    decode (c :: rest) = UInt8.ofNat c.toNat :: decode rest := by
  rw [decode]
  rintro high low rest heq -
  exact hc heq

/-- An escape is decoded to its byte. -/
theorem decode_escape (b : UInt8) (rest : List Char) :
    decode (escape b ++ rest) = b :: decode rest := by
  have hb := b.toNat_lt
  show decode ('%' :: hexDigit (b.toNat / 16) :: hexDigit (b.toNat % 16) :: rest) = _
  simp only [decode, hexValue?_hexDigit (show b.toNat / 16 < 16 by omega),
    hexValue?_hexDigit (show b.toNat % 16 < 16 by omega)]
  rw [show b.toNat / 16 * 16 + b.toNat % 16 = b.toNat by omega, UInt8.ofNat_toNat]

/-- A byte that is escaped if need be is decoded to itself, unless a percent sign may stand for
itself. -/
theorem decode_encodeByte (hpercent : plain 0x25 = false) (b : UInt8) (rest : List Char) :
    decode (encodeByte plain b ++ rest) = b :: decode rest := by
  unfold encodeByte
  split
  · rename_i hb
    rw [List.singleton_append, decode_cons_of_ne (ne_percent_of_plain hpercent hb), toNat_ofNat,
      UInt8.ofNat_toNat]
  · exact decode_escape b rest

/-- **What is escaped can be read back.** -/
theorem decode_encode (hpercent : plain 0x25 = false) (bytes : List UInt8) :
    decode (encode plain bytes) = bytes := by
  induction bytes with
  | nil => rfl
  | cons b bytes ih => rw [encode_cons, decode_encodeByte hpercent, ih]

/-- A character of an escaped text that is part of no escape stands for a byte. -/
theorem exists_of_mem_encode (hpercent : c ≠ '%') (hdigit : hexValue? c = none)
    (h : c ∈ encode plain bytes) : ∃ b ∈ bytes, plain b = true ∧ Char.ofNat b.toNat = c := by
  have hne : ∀ n, n < 16 → c ≠ hexDigit n := by
    rintro n hn rfl
    rw [hexValue?_hexDigit hn] at hdigit
    cases hdigit
  obtain ⟨b, hmem, hc⟩ := List.mem_flatMap.1 h
  have hb := b.toNat_lt
  unfold encodeByte at hc
  split at hc
  · rename_i hplain
    exact ⟨b, hmem, hplain, (List.mem_singleton.1 hc).symm⟩
  · simp only [escape, List.mem_cons, List.not_mem_nil, or_false] at hc
    rcases hc with hc | hc | hc
    · exact absurd hc hpercent
    · exact absurd hc (hne _ (by omega))
    · exact absurd hc (hne _ (by omega))

/-- A character that is part of no escape and stands for no byte is not in an escaped text. -/
theorem not_mem_encode (hpercent : c ≠ '%') (hdigit : hexValue? c = none)
    (hplain : ∀ b, plain b = true → Char.ofNat b.toNat ≠ c) : c ∉ encode plain bytes := by
  intro hmem
  obtain ⟨b, -, hb, hc⟩ := exists_of_mem_encode hpercent hdigit hmem
  exact hplain b hb hc

end Percent

/-! ### Components as segments -/

/-- A piece of a text has no separators. -/
theorem not_mem_of_mem_splitAtByte {sep : UInt8} {bytes piece : List UInt8}
    (h : piece ∈ splitAtByte sep bytes) : sep ∉ piece := by
  induction bytes generalizing piece with
  | nil =>
    obtain rfl := List.mem_singleton.1 h
    exact List.not_mem_nil
  | cons b bytes ih =>
    rw [splitAtByte] at h
    split at h
    · rcases List.mem_cons.1 h with rfl | h
      · exact List.not_mem_nil
      · exact ih h
    · rename_i hb
      cases hsplit : splitAtByte sep bytes with
      | nil => exact absurd hsplit (splitAtByte_ne_nil sep bytes)
      | cons first later =>
        rw [hsplit] at h ih
        rcases List.mem_cons.1 h with rfl | h
        · exact List.not_mem_cons_of_ne_of_not_mem (Ne.symm hb) (ih List.mem_cons_self)
        · exact ih (List.mem_cons_of_mem first h)

namespace Path

variable {p : Path} {part : Component} {piece : List UInt8}

/-- A path that starts at the root and has no `..`. -/
structure Canonical (p : Path) : Prop where
  absolute : p.isAbsolute = true
  direct : Component.parent ∉ p.components

/-- The components of an absolute path are the root and its pieces. -/
theorem components_of_absolute (h : p.isAbsolute = true) :
    p.components = .root :: (splitAtByte slash p.bytes).filterMap Component.ofPiece := by
  rw [components, leadComponent, if_pos h]
  rfl

/-- What a piece without separators that is a component looks like. -/
theorem Component.ofPiece_eq_name (h : Component.ofPiece piece = some part)
    (hup : part ≠ .parent) :
    part = .name piece ∧ piece ≠ [] ∧ piece ≠ [dot] ∧ piece ≠ [dot, dot] := by
  unfold Component.ofPiece at h
  split at h
  · cases h
  · rename_i hnone
    split at h
    · exact absurd (Option.some.inj h).symm hup
    · rename_i hdots
      rw [not_or] at hnone
      exact ⟨(Option.some.inj h).symm, hnone.1, hnone.2, hdots⟩

/-- What a name among the components of a path looks like. -/
theorem name_of_mem_components (h : .name piece ∈ p.components) :
    slash ∉ piece ∧ piece ≠ [] ∧ piece ≠ [dot] ∧ piece ≠ [dot, dot] := by
  rcases List.mem_append.1 h with hlead | hpart
  · unfold leadComponent at hlead
    split at hlead
    · cases List.mem_singleton.1 hlead
    · split at hlead
      · cases List.mem_singleton.1 hlead
      · cases hlead
  · obtain ⟨found, hfound, hof⟩ := List.mem_filterMap.1 hpart
    obtain ⟨heq, hshape⟩ := Component.ofPiece_eq_name hof Component.noConfusion
    obtain rfl := Component.name.inj heq
    exact ⟨not_mem_of_mem_splitAtByte hfound, hshape⟩

/-- The components of a canonical path after the root are names: they are not empty, have no
separators and are no dots. -/
theorem Canonical.name_of_mem (h : p.Canonical) (hpart : part ∈ p.components.drop 1) :
    ∃ name, part = .name name ∧ slash ∉ name ∧ name ≠ [] ∧ name ≠ [dot] ∧ name ≠ [dot, dot] := by
  have hup : part ≠ .parent := fun heq => h.direct (List.mem_of_mem_drop (heq ▸ hpart))
  rw [components_of_absolute h.absolute] at hpart
  obtain ⟨piece, hpiece, hof⟩ := List.mem_filterMap.1 hpart
  obtain ⟨rfl, hshape⟩ := Component.ofPiece_eq_name hof hup
  exact ⟨piece, rfl, not_mem_of_mem_splitAtByte hpiece, hshape⟩

/-- The one piece of such a name is the name again. -/
theorem ofPiece_splitAtByte_name (hsep : slash ∉ piece) (hnil : piece ≠ [])
    (hdot : piece ≠ [dot]) (hdots : piece ≠ [dot, dot]) :
    (splitAtByte slash piece).filterMap Component.ofPiece = [.name piece] := by
  have hof : Component.ofPiece piece = some (.name piece) := by
    rw [Component.ofPiece, if_neg (not_or.2 ⟨hnil, hdot⟩), if_neg hdots]
  rw [FileUrl.splitAtByte_eq_singleton hsep, List.filterMap_cons, hof]
  rfl

/-- Pieces that were put together can be found again. -/
theorem splitAtByte_joinPieces {pieces : List (List UInt8)} (hne : pieces ≠ [])
    (h : ∀ piece ∈ pieces, slash ∉ piece) : splitAtByte slash (joinPieces pieces) = pieces := by
  fun_induction joinPieces pieces with
  | case1 => exact absurd rfl hne
  | case2 only => exact FileUrl.splitAtByte_eq_singleton (h only List.mem_cons_self)
  | case3 first next rest ih =>
    obtain ⟨hfirst, hrest⟩ := List.forall_mem_cons.1 h
    rw [splitAtByte_append, FileUrl.splitAtByte_eq_singleton hfirst,
      ih (List.cons_ne_nil next rest) hrest, List.singleton_append]

end Path

namespace FileUrl

variable {c : Char} {cs rest : List Char} {segments : List (List Char)} {p : Path} {u : Uri}

/-! ### Reading segments -/

/-- A percent sign is always escaped. -/
theorem isPlain_percent : isPlain 0x25 = false := by decide

/-- The characters that end a segment or a path, or start an escape, are escaped themselves. -/
theorem not_mem_encode_isPlain {bytes : List UInt8}
    (hc : c ∈ "\"#<>`?\x7b\x7d/%\\".toList) (hpercent : c ≠ '%')
    (hdigit : Percent.hexValue? c = none) :
    c ∉ Percent.encode isPlain bytes := by
  refine Percent.not_mem_encode hpercent hdigit ?_
  rintro b hb rfl
  unfold isPlain at hb
  rw [Bool.and_eq_true, Bool.not_eq_true', List.any_eq_false] at hb
  exact hb.2 _ hc (beq_iff_eq.2 (Percent.toNat_ofNat b))

/-- A dot at the start of a segment is decoded to a dot. -/
theorem decode_of_dotThen? (h : dotThen? cs = some rest) :
    Percent.decode cs = dot :: Percent.decode rest := by
  unfold dotThen? at h
  split at h
  · obtain rfl := Option.some.inj h
    exact Percent.decode_cons_of_ne (by decide) _
  · obtain rfl := Option.some.inj h
    rfl
  · obtain rfl := Option.some.inj h
    rfl
  · cases h

/-- However it is spelled, a single dot is decoded as one. -/
theorem decode_of_isSingleDot (h : isSingleDot cs = true) : Percent.decode cs = [dot] := by
  rw [decode_of_dotThen? (beq_iff_eq.1 h)]
  rfl

/-- However it is spelled, a double dot is decoded as one. -/
theorem decode_of_isDoubleDot (h : isDoubleDot cs = true) : Percent.decode cs = [dot, dot] := by
  obtain ⟨rest, hfirst, hsecond⟩ := Option.bind_eq_some_iff.1 (beq_iff_eq.1 h)
  rw [decode_of_dotThen? hfirst, decode_of_dotThen? hsecond]
  rfl

/-- Segments that are no dots stay as they are. -/
theorem resolveDots_eq_append {done : List (List Char)}
    (h : ∀ segment ∈ segments, isDoubleDot segment = false ∧ isSingleDot segment = false) :
    resolveDots done segments = done.reverse ++ segments := by
  induction segments generalizing done with
  | nil => exact (List.append_nil _).symm
  | cons segment segments ih =>
    obtain ⟨⟨hdouble, hsingle⟩, hrest⟩ := List.forall_mem_cons.1 h
    rw [resolveDots, hdouble, hsingle]
    refine (ih hrest).trans ?_
    rw [List.reverse_cons, List.append_assoc, List.singleton_append]

/-- A text without separators is one piece. -/
theorem splitAtChar_eq_singleton {sep : Char} (h : sep ∉ cs) : splitAtChar sep cs = [cs] := by
  induction cs with
  | nil => rfl
  | cons c cs ih =>
    obtain ⟨hne, hrest⟩ := List.ne_and_not_mem_of_not_mem_cons h
    rw [splitAtChar, if_neg hne.symm, ih hrest]

/-- The pieces of a text and of segments that each follow a separator. -/
theorem splitAtChar_append_flatMap {sep : Char} {front : List Char} (hfront : sep ∉ front)
    (h : ∀ segment ∈ segments, sep ∉ segment) :
    splitAtChar sep (front ++ segments.flatMap (sep :: ·)) = front :: segments := by
  induction segments generalizing front with
  | nil => rw [List.flatMap_nil, List.append_nil, splitAtChar_eq_singleton hfront]
  | cons segment segments ih =>
    obtain ⟨hfirst, hrest⟩ := List.forall_mem_cons.1 h
    rw [List.flatMap_cons, List.cons_append, splitAtChar_append, splitAtChar_eq_singleton hfront,
      ih hfirst hrest, List.singleton_append]

/-- The components of the path of some segments are those of the pieces of the segments. -/
theorem components_pathBytes (hne : segments ≠ []) :
    (Path.mk (pathBytes segments)).components =
      .root :: (segments.flatMap fun segment =>
        splitAtByte slash (Percent.decode segment)).filterMap Path.Component.ofPiece := by
  obtain ⟨first, later, rfl⟩ := List.exists_cons_of_ne_nil hne
  have hpieces := splitAtByte_append_flatMap slash [] (first :: later) Percent.decode
  rw [List.nil_append] at hpieces
  rcases pathBytes_cases (first :: later) with heq | heq <;> rw [heq]
  · rw [Path.components_of_absolute (by rfl), hpieces]
    rfl
  · rw [Path.components_of_absolute (by rfl), splitAtByte_append, hpieces, List.filterMap_append]
    exact congrArg (_ :: ·) (List.append_nil _)

/-! ### Reading a URL without a host -/

/-- A `file` URL without a host, a query and a fragment names the path of its segments. -/
theorem path?_of_text (htext : u.text.toList = "file:///".toList ++ rest)
    (hrest : ∀ c ∈ rest, c ≠ '?' ∧ c ≠ '#') :
    path? u = some (pathOfSegments (splitAtChar '/' rest)) := by
  have hscheme : scheme? u.text.toList = some ("file".toList, '/' :: '/' :: '/' :: rest) := by
    rw [htext]
    rfl
  have hcut : (cutAt (fun c => c == '?' || c == '#') ('/' :: '/' :: '/' :: rest)).1 =
      '/' :: '/' :: '/' :: rest := by
    refine List.takeWhile_eq_self_iff.2 fun c hc => ?_
    simp only [List.mem_cons] at hc
    rcases hc with rfl | rfl | rfl | hc
    · rfl
    · rfl
    · rfl
    · simp [hrest c hc]
  unfold path?
  rw [hscheme]
  dsimp only
  rw [if_pos (by rfl), hcut]
  rfl

/-! ### The URI of a path -/

/-- The segments of the URL of a path. -/
def segmentsOf (p : Path) : List (List Char) :=
  (p.components.drop 1).map fun part => Percent.encode isPlain part.bytes

/-- The segment of a component is decoded as its bytes. -/
theorem decode_segment (bytes : List UInt8) :
    Percent.decode (Percent.encode isPlain bytes) = bytes :=
  Percent.decode_encode isPlain_percent bytes

/-- The segments of a canonical path are not empty, are no dots, and stay as they are. -/
theorem normalSegments_segmentsOf (h : p.Canonical) (hne : segmentsOf p ≠ []) :
    normalSegments (segmentsOf p) = segmentsOf p := by
  have hname : ∀ segment ∈ segmentsOf p, Percent.decode segment ≠ [] ∧
      Percent.decode segment ≠ [dot] ∧ Percent.decode segment ≠ [dot, dot] := by
    intro segment hmem
    obtain ⟨part, hpart, rfl⟩ := List.mem_map.1 hmem
    obtain ⟨name, rfl, -, hshape⟩ := h.name_of_mem hpart
    rw [decode_segment]
    exact hshape
  have hresolve : resolveDots [] (segmentsOf p) = segmentsOf p := by
    refine resolveDots_eq_append fun segment hmem => ?_
    obtain ⟨-, hdot, hdots⟩ := hname segment hmem
    exact ⟨Bool.eq_false_iff.2 fun hdouble => hdots (decode_of_isDoubleDot hdouble),
      Bool.eq_false_iff.2 fun hsingle => hdot (decode_of_isSingleDot hsingle)⟩
  obtain ⟨first, later, heq⟩ := List.exists_cons_of_ne_nil hne
  have hfirst : first ≠ [] := by
    rintro rfl
    exact (hname [] (heq ▸ List.mem_cons_self)).1 rfl
  rw [normalSegments, hresolve, heq, List.dropWhile_cons_of_neg (by simpa using hfirst)]

/-- The components that are read from the segments of a canonical path are those of the path. -/
theorem components_pathOfSegments_segmentsOf (h : p.Canonical) (hne : segmentsOf p ≠ []) :
    (pathOfSegments (segmentsOf p)).components = p.components := by
  have hparts : ∀ parts : List Path.Component, (∀ part ∈ parts, part ∈ p.components.drop 1) →
      ((parts.map fun part => Percent.encode isPlain part.bytes).flatMap
        fun segment => splitAtByte slash (Percent.decode segment)).filterMap
          Path.Component.ofPiece = parts := by
    intro parts hsub
    induction parts with
    | nil => rfl
    | cons part parts ih =>
      obtain ⟨hpart, hrest⟩ := List.forall_mem_cons.1 hsub
      obtain ⟨name, rfl, hsep, hnil, hdot, hdots⟩ := h.name_of_mem hpart
      rw [List.map_cons, List.flatMap_cons, List.filterMap_append, ih hrest, decode_segment]
      exact congrArg (· ++ parts) (Path.ofPiece_splitAtByte_name hsep hnil hdot hdots)
  have hroot : .root :: p.components.drop 1 = p.components := by
    rw [Path.components_of_absolute h.absolute]
    rfl
  rw [pathOfSegments, normalSegments_segmentsOf h hne, components_pathBytes hne]
  exact (congrArg (_ :: ·) (hparts _ fun _ hpart => hpart)).trans hroot

/-- The text of the URL of a path: nothing in its segments ends them, the path or the URL. -/
theorem ofPath_eq (p : Path) :
    ∃ rest, ofPath p = "file:///".toList ++ rest ∧ (∀ c ∈ rest, c ≠ '?' ∧ c ≠ '#') ∧
      splitAtChar '/' rest = if segmentsOf p = [] then [[]] else segmentsOf p := by
  have hnot : ∀ segment ∈ segmentsOf p, '/' ∉ segment ∧ '?' ∉ segment ∧ '#' ∉ segment := by
    intro segment hmem
    obtain ⟨part, -, rfl⟩ := List.mem_map.1 hmem
    refine ⟨?_, ?_, ?_⟩ <;> exact not_mem_encode_isPlain (by decide) (by decide) (by decide)
  have htext : ofPath p = "file://".toList ++
      if segmentsOf p = [] then ['/'] else (segmentsOf p).flatMap ('/' :: ·) := by
    unfold ofPath segmentsOf
    simp only [List.isEmpty_iff, List.map_eq_nil_iff, List.flatMap_map]
  by_cases hne : segmentsOf p = []
  · refine ⟨[], ?_, List.forall_mem_nil _, ?_⟩
    · rw [htext, if_pos hne]
      rfl
    · rw [if_pos hne]
      rfl
  · obtain ⟨first, later, heq⟩ := List.exists_cons_of_ne_nil hne
    rw [heq] at hnot
    obtain ⟨hfirst, hlater⟩ := List.forall_mem_cons.1 hnot
    refine ⟨first ++ later.flatMap ('/' :: ·), ?_, fun c hc => ?_, ?_⟩
    · rw [htext, if_neg hne, heq, List.flatMap_cons]
      rfl
    · have hof : c = '/' ∨ ∃ segment ∈ first :: later, c ∈ segment := by
        simp only [List.mem_append, List.mem_flatMap, List.mem_cons] at hc ⊢
        rcases hc with hc | ⟨segment, hsegment, rfl | hc⟩
        · exact .inr ⟨first, .inl rfl, hc⟩
        · exact .inl rfl
        · exact .inr ⟨segment, .inr hsegment, hc⟩
      rcases hof with rfl | ⟨segment, hsegment, hc⟩
      · decide
      · obtain ⟨-, hquery, hfragment⟩ := hnot segment hsegment
        exact ⟨fun heq => hquery (heq ▸ hc), fun heq => hfragment (heq ▸ hc)⟩
    · rw [if_neg hne, heq]
      exact splitAtChar_append_flatMap hfirst.1 fun segment hmem => (hlater segment hmem).1

/-- The text of the URI of a path is made from the path alone. -/
theorem text_of_fileUri (h : fileUri p = .ok u) : u.text.toList = ofPath p := by
  unfold fileUri at h
  split at h
  · split at h
    · rename_i hof
      obtain rfl := Except.ok.inj h
      rw [Uri.ofString?_eq_some_iff.1 hof, String.toList_ofList]
    · cases h
  · cases h

/-- **The URI of a canonical path names a path with the same components.** -/
theorem components_of_fileUri (hp : p.Canonical) (h : fileUri p = .ok u) :
    ∃ q, path? u = some q ∧ q.components = p.components := by
  obtain ⟨rest, htext, hrest, hsplit⟩ := ofPath_eq p
  refine ⟨_, path?_of_text ((text_of_fileUri h).trans htext) hrest, ?_⟩
  rw [hsplit]
  split
  · rename_i hnone
    -- The path is the root, and its URL has an empty segment.
    rw [Path.components_of_absolute hp.absolute]
    rw [segmentsOf, List.map_eq_nil_iff, Path.components_of_absolute hp.absolute] at hnone
    exact congrArg (_ :: ·) hnone.symm
  · rename_i hne
    exact components_pathOfSegments_segmentsOf hp hne

end FileUrl

/-- **A workspace has the URI of a canonical path exactly if the path is under its root.** -/
theorem Workspace.isOk_resourceFor_fileUri (w : Workspace) {p : Path} {u : Uri} (hp : p.Canonical)
    (h : fileUri p = .ok u) : (w.resourceFor u).isOk = w.root.isUnder p := by
  obtain ⟨q, hpath, hcomponents⟩ := FileUrl.components_of_fileUri hp h
  have hunder : w.root.isUnder q = w.root.isUnder p := by
    rw [Path.isUnder, Path.isUnder, hcomponents]
  rw [w.resourceFor_of_path? hpath, hunder]
  cases w.root.isUnder p <;> rfl

/-! ### Canonical paths of file systems -/

/-- The canonical form of a path is absolute and has no `..`. -/
def Files.Canonicalizes (files : Files) : Prop :=
  ∀ path canonical, files.canonicalize path = .ok canonical → canonical.Canonical

namespace FileTree

variable {t : FileTree} {place : List (List UInt8)} {pieces : List (List UInt8)}

/-- A place whose names have no separators and are not `..`. -/
def Plain (place : List (List UInt8)) : Prop :=
  ∀ name ∈ place, slash ∉ name ∧ name ≠ [dot, dot]

/-- Following pieces leads from plain places to plain places. -/
theorem Plain.follow (hplace : Plain place) (hpieces : ∀ piece ∈ pieces, slash ∉ piece)
    {last : List (List UInt8)} (h : t.follow place pieces = .ok last) : Plain last := by
  fun_induction FileTree.follow t place pieces with
  | case1 =>
    obtain rfl := Except.ok.inj h
    exact hplace
  | case2 | case3 | case6 | case8 => cases h
  | case4 place piece rest _ _ ih => exact ih hplace (List.forall_mem_cons.1 hpieces).2 h
  | case5 place rest _ _ ih =>
    exact ih (fun name hname => hplace name (List.dropLast_subset place hname))
      (List.forall_mem_cons.1 hpieces).2 h
  | case7 place piece rest _ _ hdots _ _ ih =>
    obtain ⟨hpiece, hrest⟩ := List.forall_mem_cons.1 hpieces
    refine ih (fun name hname => ?_) hrest h
    rcases List.mem_append.1 hname with hname | hname
    · exact hplace name hname
    · obtain rfl := List.mem_singleton.1 hname
      exact ⟨hpiece, hdots⟩

/-- The names in the spelling of a place are plain. -/
theorem plain_placeOf (path : Path) : Plain (placeOf path) := by
  intro name hname
  obtain ⟨part, hpart, hname⟩ := List.mem_filterMap.1 hname
  cases part with
  | name bytes =>
    obtain rfl := Option.some.inj hname
    obtain ⟨hslash, -, -, hdots⟩ := Path.name_of_mem_components hpart
    exact ⟨hslash, hdots⟩
  | root | current | parent => cases hname

/-- No piece of plain pieces that were put together consists of two dots. -/
theorem mem_splitAtByte_joinPieces {piece : List UInt8}
    (h : piece ∈ splitAtByte slash (Path.joinPieces pieces)) (hpieces : Plain pieces) :
    piece ≠ [dot, dot] := by
  by_cases hne : pieces = []
  · subst hne
    rw [List.mem_singleton.1 h]
    decide
  · rw [Path.splitAtByte_joinPieces hne fun name hname => (hpieces name hname).1] at h
    exact (hpieces piece h).2

/-- **The canonical paths of a file tree are canonical.** -/
theorem canonicalizes (t : FileTree) (here : Path) : (t.files here).Canonicalizes := by
  intro path canonical h
  obtain ⟨place, hfind, heq⟩ : ∃ place, t.find here path = .ok place ∧
      canonical = ⟨slash :: Path.joinPieces place⟩ := by
    cases hfind : t.find here path with
    | error e => simp [files, hfind, bind, Except.bind] at h
    | ok place =>
      simp only [files, hfind, bind, Except.bind, Except.ok.injEq] at h
      exact ⟨place, rfl, h.symm⟩
  have hplace : Plain place := by
    unfold find at hfind
    split at hfind
    · cases hfind
    · split at hfind
      · cases hfind
      · split at hfind
        · cases hfind
        · refine Plain.follow ?_ (fun _ => not_mem_of_mem_splitAtByte) hfind
          split
          · exact fun _ hname => absurd hname List.not_mem_nil
          · exact plain_placeOf here
  subst heq
  refine ⟨rfl, fun hmem => ?_⟩
  refine (Path.components_of_isAbsolute (by rfl) (fun hdots => ?_) hmem).2 rfl
  rw [splitAtByte_sep] at hdots
  rcases List.mem_cons.1 hdots with hnil | hdots
  · cases hnil
  · exact mem_splitAtByte_joinPieces hdots hplace rfl

end FileTree

end AnnotationBridge
