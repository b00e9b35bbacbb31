import AnnotationBridge.Language
import AnnotationBridge.Proofs.FileUri
import AnnotationBridge.Proofs.Utf8

/-!
# Extensions and languages

The extension of a name is what follows its last full stop, if something comes before it. A name
without separators has a language exactly if it has an extension. The language is that of the
extension in lower case, but for two names of properties files that have a language of their own.

* `extension_eq_some_iff`, `extension_eq_none_iff`: what an extension is. `extension_append`: the
  extension of a name with more text behind it.
* `Text.length_lowercase_le`, `Text.length_lowercase_of_ascii`, `Text.mem_lowercase`: what lower
  case does to the length of a text, and to characters without case.
* `languageOf_eq`, `languageOf_eq_none_iff`: the language of a name without separators.
* `languageOf_eq_of_not_mem`: names that are not special have the language of their extension.
* `languageOfExtension_of_mark`: a language with a mark of a URI is the extension.
-/

namespace AnnotationBridge

open Reference (Ascii)
open Text

variable {name ext cs : List Char}

/-! ### Extensions -/

/-- There is nothing after the last dot exactly if there is no dot. -/
theorem afterLastDot_eq_none_iff : afterLastDot cs = none ↔ '.' ∉ cs := by
  induction cs with
  | nil => simp [afterLastDot]
  | cons c cs ih =>
    rw [afterLastDot, Option.or_eq_none_iff, ih, List.mem_cons, not_or]
    by_cases hc : c = '.'
    · simp [hc]
    · simp [hc, Ne.symm hc]

/-- What follows the last full stop. -/
theorem afterLastDot_eq_some_iff :
    afterLastDot cs = some ext ↔ ∃ stem, cs = stem ++ '.' :: ext ∧ '.' ∉ ext := by
  induction cs with
  | nil => simp [afterLastDot]
  | cons c cs ih =>
    rw [afterLastDot, Option.or_eq_some_iff, ih, afterLastDot_eq_none_iff]
    constructor
    · rintro (⟨stem, rfl, hext⟩ | ⟨hnone, hc⟩)
      · exact ⟨c :: stem, rfl, hext⟩
      · by_cases hdot : c = '.'
        · rw [if_pos hdot] at hc
          obtain rfl := Option.some.inj hc
          exact ⟨[], by rw [hdot]; rfl, hnone⟩
        · rw [if_neg hdot] at hc
          cases hc
    · rintro ⟨stem, hcs, hext⟩
      cases stem with
      | nil =>
        obtain ⟨rfl, rfl⟩ := List.cons.inj hcs
        exact .inr ⟨hext, if_pos rfl⟩
      | cons first stem =>
        obtain ⟨rfl, rfl⟩ := List.cons.inj hcs
        exact .inl ⟨stem, rfl, hext⟩

/-- What follows the last full stop of two texts put together. -/
theorem afterLastDot_append (front back : List Char) :
    afterLastDot (front ++ back) = (afterLastDot back).or ((afterLastDot front).map (· ++ back)) := by
  induction front with
  | nil => exact (Option.or_none).symm
  | cons c front ih =>
    rw [List.cons_append, afterLastDot, afterLastDot, ih, Option.or_assoc, Option.map_or]
    split <;> rfl

/-- **What the extension of a name is.** Two full stops are no name. -/
theorem extension_eq_some_iff (hdots : name ≠ ['.', '.']) :
    extension name = some ext ↔ ∃ stem, stem ≠ [] ∧ name = stem ++ '.' :: ext ∧ '.' ∉ ext := by
  unfold extension
  cases name with
  | nil => simp
  | cons first rest =>
    have hnot : ¬ (first = '.' ∧ rest = ['.']) := fun ⟨hfirst, hrest⟩ => hdots (by rw [hfirst, hrest])
    dsimp only
    rw [if_neg hnot, afterLastDot_eq_some_iff]
    constructor
    · rintro ⟨stem, rfl, hext⟩
      exact ⟨first :: stem, List.cons_ne_nil _ _, rfl, hext⟩
    · rintro ⟨stem, hne, hname, hext⟩
      obtain ⟨c, stem, rfl⟩ := List.exists_cons_of_ne_nil hne
      exact ⟨stem, (List.cons.inj hname).2, hext⟩

/-- A name other than two dots has no extension exactly if it has no dot but perhaps at its start.
-/
theorem extension_eq_none_iff (hdots : name ≠ ['.', '.']) : extension name = none ↔ '.' ∉ name.tail := by
  unfold extension
  cases name with
  | nil => simp
  | cons first rest =>
    have hnot : ¬ (first = '.' ∧ rest = ['.']) := fun ⟨hfirst, hrest⟩ => hdots (by rw [hfirst, hrest])
    dsimp only
    rw [if_neg hnot, afterLastDot_eq_none_iff]
    rfl

/-- The extension of a name with more text behind it. -/
theorem extension_append {tail : List Char} (hnil : name ≠ []) (hdots : name ≠ ['.', '.'])
    (htail : tail ≠ ['.']) :
    extension (name ++ tail) = (afterLastDot tail).or ((extension name).map (· ++ tail)) := by
  obtain ⟨first, rest, rfl⟩ := List.exists_cons_of_ne_nil hnil
  have hname : ¬ (first = '.' ∧ rest = ['.']) := fun ⟨hfirst, hrest⟩ => hdots (by rw [hfirst, hrest])
  have hwhole : ¬ (first = '.' ∧ rest ++ tail = ['.']) := by
    rintro ⟨rfl, happend⟩
    rcases List.append_eq_singleton_iff.1 happend with ⟨-, h⟩ | ⟨h, -⟩
    · exact htail h
    · exact hname ⟨rfl, h⟩
  rw [List.cons_append]
  unfold extension
  dsimp only
  rw [if_neg hname, if_neg hwhole, afterLastDot_append]

/-- An extension is the end of the name. -/
theorem suffix_of_extension (h : extension name = some ext) : ext <:+ name := by
  unfold extension at h
  split at h
  · cases h
  · rename_i first rest
    split at h
    · cases h
    · obtain ⟨stem, rfl, -⟩ := afterLastDot_eq_some_iff.1 h
      exact ⟨first :: stem ++ ['.'], by simp⟩

/-! ### Lower case -/

namespace Text

variable {before : List Char} {c : Char}

/-- Lower case does not make a character longer than its bytes. -/
theorem length_lowerChar_le (c : Char) : (lowerChar c).length ≤ (String.utf8EncodeChar c).length := by
  have hpos : 0 < (String.utf8EncodeChar c).length :=
    List.length_pos_iff.2 String.utf8EncodeChar_ne_nil
  unfold lowerChar
  split
  · rename_i hc
    rw [hc]
    decide
  · split <;> exact hpos

/-- **A text in lower case has no more characters than the text has bytes.** -/
theorem length_lowercase_le (cs : List Char) :
    (lowercase cs).length ≤ (Utf8.encode (String.ofList cs)).length := by
  have hafter : ∀ before, (lowercaseAfter before cs).length ≤
      (cs.flatMap String.utf8EncodeChar).length := by
    induction cs with
    | nil => exact fun before => Nat.le_refl 0
    | cons c cs ih =>
      intro before
      have hpos : 0 < (String.utf8EncodeChar c).length :=
        List.length_pos_iff.2 String.utf8EncodeChar_ne_nil
      rw [lowercaseAfter, List.flatMap_cons, List.length_append, List.length_append]
      refine Nat.add_le_add ?_ (ih (c :: before))
      split
      · exact hpos
      · exact length_lowerChar_le c
  rw [Utf8.encode_eq_flatMap, String.toList_ofList]
  exact hafter []

/-- In ASCII lower case is what one expects. -/
theorem lowerChar_of_ascii (hc : c.toNat < 0x80) : c ≠ 'Σ' ∧ lowerChar c = [c.toLower] := by
  have hne : ∀ d : Char, 0x80 ≤ d.toNat → c ≠ d := by
    rintro d hd rfl
    omega
  refine ⟨hne 'Σ' (by decide), ?_⟩
  rw [lowerChar, if_neg (hne 'İ' (by decide)), if_pos hc]

/-- In ASCII, lower case keeps the length. -/
theorem length_lowercase_of_ascii (h : Ascii cs) : (lowercase cs).length = cs.length := by
  have hafter : ∀ before, (lowercaseAfter before cs).length = cs.length := by
    induction cs with
    | nil => exact fun before => rfl
    | cons c cs ih =>
      obtain ⟨hc, hcs⟩ := List.forall_mem_cons.1 h
      obtain ⟨hsigma, hlower⟩ := lowerChar_of_ascii hc
      intro before
      rw [lowercaseAfter, if_neg hsigma, hlower, List.singleton_append, List.length_cons,
        List.length_cons, ih hcs]
  exact hafter []

/-- A character of ASCII without case stays. -/
theorem mem_lowercase (hc : c.toNat < 0x80) (hlower : c.toLower = c) (h : c ∈ cs) :
    c ∈ lowercase cs := by
  have hafter : ∀ before, c ∈ lowercaseAfter before cs := by
    induction cs with
    | nil => cases h
    | cons d cs ih =>
      intro before
      rw [lowercaseAfter]
      rcases List.mem_cons.1 h with rfl | h
      · obtain ⟨hsigma, hchar⟩ := lowerChar_of_ascii hc
        rw [if_neg hsigma, hchar, hlower]
        exact List.mem_append_left _ (List.mem_singleton_self _)
      · exact List.mem_append_right _ (ih h (d :: before))
  exact hafter []

end Text

/-! ### Languages -/

variable {s : String}

/-- The last component of a name without separators is the name, unless it stands for a
directory. -/
theorem fileName_ofString (hsep : '/' ∉ s.toList) (hnil : s ≠ "") (hdot : s ≠ ".") (hdots : s ≠ "..") :
    (Path.ofString s).fileName = some (Utf8.encode s) := by
  have hslash : slash ∉ Utf8.encode s := fun hmem =>
    hsep ((Utf8.mem_encode_iff (c := '/') (by decide)).1 hmem)
  have hnot : Utf8.encode s ≠ [] ∧ Utf8.encode s ≠ [dot] ∧ Utf8.encode s ≠ [dot, dot] :=
    ⟨fun h => hnil (Utf8.encode_inj.1 h), fun h => hdot (Utf8.encode_inj.1 h),
      fun h => hdots (Utf8.encode_inj.1 h)⟩
  have hrelative : (Path.ofString s).isAbsolute = false := by
    rw [Path.isAbsolute, decide_eq_false_iff_not]
    exact fun hhead => hslash (List.mem_of_mem_head? hhead)
  have hpieces : splitAtByte slash (Path.ofString s).bytes = [Utf8.encode s] :=
    FileUrl.splitAtByte_eq_singleton hslash
  have hlead : (Path.ofString s).leadComponent = none := by
    rw [Path.leadComponent, hrelative, hpieces]
    exact if_neg fun h => hnot.2.1 (Option.some.inj h)
  have hcomponents : (Path.ofString s).components = [.name (Utf8.encode s)] := by
    rw [Path.components, hlead, ← Path.ofPiece_splitAtByte_name hslash hnot.1 hnot.2.1 hnot.2.2]
    rfl
  rw [Path.fileName, hcomponents]
  rfl

/-- **The language of a name without separators.** -/
theorem languageOf_eq (hsep : '/' ∉ s.toList) :
    languageOf s = (namedFiles.lookup s).or ((extension s.toList).map fun ext =>
      languageOfExtension (String.ofList (lowercase ext))) := by
  by_cases hshape : s = "" ∨ s = "." ∨ s = ".."
  · rcases hshape with rfl | rfl | rfl <;> rfl
  · rw [not_or, not_or] at hshape
    rw [languageOf, fileName_ofString hsep hshape.1 hshape.2.1 hshape.2.2]
    show (namedFiles.lookup s).or ((Utf8.decode? (Utf8.encode s)).bind _) = _
    rw [Utf8.decode?_encode, Option.map_eq_bind]
    rfl

/-- The names that are recognised as they are. -/
theorem lookup_namedFiles {language : String} (h : namedFiles.lookup s = some language) :
    s = "server.env" ∧ language = "serverenv" ∨
      s = "bootstrap.properties" ∧ language = "bootstrap" ∨
      s = "microprofile-config.properties" ∧ language = "microprofile-properties" := by
  obtain ⟨before, after, heq, -⟩ := List.lookup_eq_some_iff.1 h
  have hmem : (s, language) ∈ namedFiles := by
    rw [heq]
    exact List.mem_append_right before List.mem_cons_self
  simpa [namedFiles] using hmem

/-- **A name without separators has a language exactly if it has an extension.** -/
theorem languageOf_eq_none_iff (hsep : '/' ∉ s.toList) :
    languageOf s = none ↔ extension s.toList = none := by
  rw [languageOf_eq hsep, Option.or_eq_none_iff, Option.map_eq_none_iff, and_iff_right_iff_imp]
  intro hext
  rw [Option.eq_none_iff_forall_ne_some]
  intro language hlookup
  rcases lookup_namedFiles hlookup with ⟨rfl, -⟩ | ⟨rfl, -⟩ | ⟨rfl, -⟩ <;>
    exact absurd hext (Option.some_ne_none _)

/-- The files whose language is not that of their extension. -/
def ownLanguage : List String :=
  ["bootstrap.properties", "microprofile-config.properties"]

/-- **Any other name has the language of its extension.** -/
theorem languageOf_eq_of_not_mem (hsep : '/' ∉ s.toList) (h : s ∉ ownLanguage) :
    languageOf s = (extension s.toList).map fun ext =>
      languageOfExtension (String.ofList (lowercase ext)) := by
  rw [languageOf_eq hsep]
  cases hlookup : namedFiles.lookup s with
  | none => rfl
  | some language =>
    rcases lookup_namedFiles hlookup with ⟨rfl, rfl⟩ | ⟨rfl, -⟩ | ⟨rfl, -⟩
    · rfl
    · exact absurd h (by decide)
    · exact absurd h (by decide)

/-- Two extensions have a language of another name. -/
theorem languageOfExtension_cases (e : String) :
    languageOfExtension e = e ∨ e = "yml" ∧ languageOfExtension e = "yaml" ∨
      e = "env" ∧ languageOfExtension e = "serverenv" := by
  unfold languageOfExtension
  cases hlookup : namedExtensions.lookup e with
  | none => exact .inl rfl
  | some language =>
    obtain ⟨before, after, heq, -⟩ := List.lookup_eq_some_iff.1 hlookup
    have hmem : (e, language) ∈ namedExtensions := by
      rw [heq]
      exact List.mem_append_right before List.mem_cons_self
    right
    simpa [namedExtensions] using hmem

/-- Characters of a URI that no special name has, and no extension with a language of another
name. -/
def uriMarks : List Char :=
  ['%', '?', '#']

/-- An extension is its own language if one of them has such a character. -/
theorem languageOfExtension_of_mark {c : Char} {e : String} (hc : c ∈ uriMarks)
    (h : c ∈ e.toList ∨ c ∈ (languageOfExtension e).toList) : languageOfExtension e = e := by
  have hnot : ∀ c ∈ uriMarks, ¬ (c ∈ "yml".toList ∨ c ∈ "yaml".toList) ∧
      ¬ (c ∈ "env".toList ∨ c ∈ "serverenv".toList) := by simp [uriMarks]
  rcases languageOfExtension_cases e with heq | ⟨rfl, hlanguage⟩ | ⟨rfl, hlanguage⟩
  · exact heq
  · rw [hlanguage] at h
    exact absurd h (hnot c hc).1
  · rw [hlanguage] at h
    exact absurd h (hnot c hc).2

end AnnotationBridge
