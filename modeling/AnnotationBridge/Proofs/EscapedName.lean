import AnnotationBridge.Proofs.Extension

/-!
# Names with escapes

A name can be spelled with escapes in a URI. An escape makes the spelling longer than the name, and
lower case does not make it shorter, so an extension with an escape stands for another language than
the extension that it spells. The spelling has the language of the name exactly if it has the same
extension, and is the name itself if that is special. A query or a fragment behind the spelling
makes the extension longer in the same way, or has an extension of its own.

* `Percent.decode_append`, `Percent.decode_of_not_mem`, `Percent.decode_eq_or_length_lt`: parts of a
  spelling.
* `extension_of_decode`: the extension of a spelling and of the name.
* `languageOf_ne_of_mark`: a longer extension with a mark of a URI is another language.
* `languageOf_spelling_iff`, `languageOf_spelling_append`: when a spelling has the language of the
  name, alone and with a query or a fragment.
* `extension_encode`, `extension_encode_eq_iff`: the extension of a name that is escaped.
-/

namespace AnnotationBridge

open Reference (Ascii)
open Text

/-! ### Parts of a spelling -/

namespace Percent

variable {c : Char} {cs : List Char}

/-- A percent sign without two digits after it stands for itself. -/
theorem decode_percent
    (h : ∀ high low rest, cs = high :: low :: rest → hexValue? high = none ∨ hexValue? low = none) :
    decode ('%' :: cs) = 0x25 :: decode cs := by
  rcases cs with - | ⟨high, - | ⟨low, rest⟩⟩
  · rfl
  · rfl
  · rw [decode]
    split
    · rename_i hhi hlo
      rcases h high low rest rfl with hnone | hnone
      · rw [hnone] at hhi
        cases hhi
      · rw [hnone] at hlo
        cases hlo
    · rfl

/-- A text can be taken apart before a character that is part of no escape. -/
theorem decode_append (hdigit : hexValue? c = none) (front rest : List Char) :
    decode (front ++ c :: rest) = decode front ++ decode (c :: rest) := by
  fun_induction decode front with
  | case1 => rfl
  | case2 high low front hi lo hlo hhi ih =>
    rw [List.cons_append, List.cons_append, List.cons_append, decode]
    simp only [hhi, hlo]
    rw [ih, List.cons_append]
  | case3 high low front hnot ih =>
    rw [List.cons_append, List.cons_append]
    refine (decode_percent fun high' low' rest' heq => ?_).trans (congrArg (0x25 :: ·) ih)
    obtain ⟨hhigh, heq⟩ := List.cons.inj heq
    obtain ⟨hlow, -⟩ := List.cons.inj heq
    rw [← hhigh, ← hlow]
    cases hhi : hexValue? high with
    | none => exact .inl rfl
    | some hi => exact .inr (Option.eq_none_iff_forall_ne_some.2 fun lo hlo => hnot hi lo hhi hlo)
  | case4 d front hnot ih =>
    rw [List.cons_append, List.cons_append, ← ih]
    by_cases hd : d = '%'
    · -- At most one character stands between the percent sign and `c`, so `c` would be a digit.
      subst hd
      refine decode_percent fun high low later heq => ?_
      rcases front with - | ⟨first, - | ⟨second, front⟩⟩
      · obtain ⟨rfl, -⟩ := List.cons.inj heq
        exact .inl hdigit
      · obtain ⟨-, heq⟩ := List.cons.inj heq
        obtain ⟨rfl, -⟩ := List.cons.inj heq
        exact .inr hdigit
      · exact (hnot first second front rfl rfl).elim
    · exact decode_cons_of_ne hd _

/-- What is decoded is not longer than its spelling. -/
theorem length_decode_le (cs : List Char) : (decode cs).length ≤ cs.length := by
  fun_induction decode cs with
  | case1 => exact Nat.le_refl 0
  | case2 => simp only [List.length_cons]; omega
  | case3 => simp only [List.length_cons] at *; omega
  | case4 => simp only [List.length_cons] at *; omega

/-- A text without escapes is decoded character by character. -/
theorem decode_of_not_mem (h : '%' ∉ cs) : decode cs = cs.map fun c => UInt8.ofNat c.toNat := by
  induction cs with
  | nil => rfl
  | cons c cs ih =>
    obtain ⟨hc, hcs⟩ := List.ne_and_not_mem_of_not_mem_cons h
    rw [decode_cons_of_ne (Ne.symm hc), ih hcs, List.map_cons]

/-- An escape makes a text longer than its bytes. -/
theorem decode_eq_or_length_lt (cs : List Char) :
    decode cs = cs.map (fun c => UInt8.ofNat c.toNat) ∨ (decode cs).length < cs.length := by
  fun_induction decode cs with
  | case1 => exact .inl rfl
  | case2 high low rest =>
    have hle := length_decode_le rest
    refine .inr ?_
    simp only [List.length_cons]
    omega
  | case3 high low rest _ ih =>
    rcases ih with h | h
    · left
      rw [h]
      rfl
    · right
      simp only [List.length_cons] at *
      omega
  | case4 c rest _ ih =>
    rcases ih with h | h
    · left
      rw [h, List.map_cons]
    · right
      simp only [List.length_cons]
      omega

/-- A text in ASCII has as many bytes as characters exactly if it spells itself. -/
theorem decode_eq_encode_or_length_lt (h : Ascii cs) :
    decode cs = Utf8.encode (String.ofList cs) ∨ (decode cs).length < cs.length ∧ '%' ∈ cs := by
  by_cases hmem : '%' ∈ cs
  · rw [Utf8.encode_of_ascii h]
    exact (decode_eq_or_length_lt cs).imp id (⟨·, hmem⟩)
  · rw [Utf8.encode_of_ascii h]
    exact .inl (decode_of_not_mem hmem)

end Percent

/-! ### The extension of a spelling -/

variable {name : List Char} {s t : String} {bytes : List UInt8}

/-- Two ways to take a text apart at a separator, of which one is at the last. -/
theorem append_cons_eq_append_cons {α : Type} {sep : α} {front back front' back' : List α}
    (h : front ++ sep :: back = front' ++ sep :: back') (hback : sep ∉ back) :
    front = front' ∧ back = back' ∨
      ∃ middle, front = front' ++ sep :: middle ∧ back' = middle ++ sep :: back := by
  rcases List.append_eq_append_iff.1 h with ⟨middle, hfront, hrest⟩ | ⟨middle, hfront, hrest⟩
  · rcases List.cons_eq_append_iff.1 hrest with ⟨rfl, heq⟩ | ⟨middle, rfl, rfl⟩
    · refine .inl ⟨by rw [hfront, List.append_nil], (List.cons.inj heq).2.symm⟩
    · exact absurd (List.mem_append_right middle List.mem_cons_self) hback
  · rcases List.cons_eq_append_iff.1 hrest with ⟨rfl, heq⟩ | ⟨middle, rfl, heq⟩
    · exact .inl ⟨by rw [hfront, List.append_nil], (List.cons.inj heq).2⟩
    · exact .inr ⟨middle, hfront, heq⟩

/-- The bytes of a name with an extension. -/
theorem encode_append_dot (stem ext : List Char) :
    Utf8.encode (String.ofList (stem ++ '.' :: ext)) =
      Utf8.encode (String.ofList stem) ++ dot :: Utf8.encode (String.ofList ext) := by
  have hdot : Utf8.encode (String.ofList ['.']) = [dot] := rfl
  rw [← List.singleton_append, String.ofList_append, String.ofList_append, Utf8.encode_append,
    Utf8.encode_append, hdot, List.singleton_append]

/-- A text with a full stop in its bytes, before and after its last full stop. -/
theorem exists_lastDot (h : dot ∈ Utf8.encode t) :
    ∃ stem ext, t.toList = stem ++ '.' :: ext ∧ '.' ∉ ext ∧
      Utf8.encode t = Utf8.encode (String.ofList stem) ++ dot :: Utf8.encode (String.ofList ext) ∧
      dot ∉ Utf8.encode (String.ofList ext) := by
  have hmem : '.' ∈ t.toList := (Utf8.mem_encode_iff (c := '.') (by decide)).1 h
  obtain ⟨ext, hafter⟩ : ∃ ext, afterLastDot t.toList = some ext :=
    Option.ne_none_iff_exists'.1 fun hnone => afterLastDot_eq_none_iff.1 hnone hmem
  obtain ⟨stem, ht, hlast⟩ := afterLastDot_eq_some_iff.1 hafter
  refine ⟨stem, ext, ht, hlast, ?_, fun hdot => hlast ?_⟩
  · rw [← encode_append_dot, ← ht, String.ofList_toList]
  · rw [← String.toList_ofList (l := ext)]
    exact (Utf8.mem_encode_iff (c := '.') (by decide)).1 hdot

/-- **The extension of a spelling and of the name.** They are the same, or that of the spelling has
an escape and is longer. -/
theorem extension_of_decode (hascii : Ascii name) (hname : Percent.decode name = Utf8.encode t)
    (hdots : t ≠ "..") {ext : List Char} (hext : extension name = some ext) :
    ∃ ext', extension t.toList = some ext' ∧
      (ext' = ext ∨ (Utf8.encode (String.ofList ext')).length < ext.length ∧ '%' ∈ ext) := by
  have hspelling : name ≠ ['.', '.'] := by
    rintro rfl
    exact hdots (Utf8.encode_inj.1 (hname.symm.trans rfl))
  have hasciiExt : Ascii ext := fun c hc => hascii c ((suffix_of_extension hext).subset hc)
  obtain ⟨stem, hstem, rfl, hlast⟩ := (extension_eq_some_iff hspelling).1 hext
  rw [Percent.decode_append (by decide), Percent.decode_cons_of_ne (by decide)] at hname
  obtain ⟨stem', ext', ht, hlast', hbytes, hdot⟩ := exists_lastDot (t := t) (by
    rw [← hname]
    exact List.mem_append_right _ List.mem_cons_self)
  rw [← hname] at hbytes
  have hstemBytes : Percent.decode stem ≠ [] := fun h => hstem (FileUrl.eq_nil_of_decode h)
  have hext' (hne : Utf8.encode (String.ofList stem') ≠ []) : extension t.toList = some ext' := by
    refine (extension_eq_some_iff fun h => hdots ?_).2 ⟨stem', ?_, ht, hlast'⟩
    · rw [← String.ofList_toList (s := t), h]
    · rintro rfl
      exact hne rfl
  rcases append_cons_eq_append_cons hbytes.symm hdot with ⟨hfront, hback⟩ | ⟨middle, hfront, hback⟩
  · refine ⟨ext', hext' (hfront ▸ hstemBytes), ?_⟩
    rcases Percent.decode_eq_encode_or_length_lt hasciiExt with heq | ⟨hlt, hpercent⟩
    · left
      exact String.ofList_injective (Utf8.encode_inj.1 (hback.trans heq))
    · right
      exact ⟨hback ▸ hlt, hpercent⟩
  · refine ⟨ext', hext' ?_, .inr ?_⟩
    · rw [hfront]
      exact List.append_ne_nil_of_left_ne_nil hstemBytes _
    · -- A full stop of the name is spelled by an escape in the extension.
      have hpercent : '%' ∈ ext := by
        by_contra hnot
        have hplain : dot ∈ Utf8.encode (String.ofList ext) := by
          rw [Utf8.encode_of_ascii hasciiExt, ← Percent.decode_of_not_mem hnot, hback]
          exact List.mem_append_right middle List.mem_cons_self
        exact hlast (by simpa using (Utf8.mem_encode_iff (c := '.') (by decide)).1 hplain)
      refine ⟨?_, hpercent⟩
      have hle := Percent.length_decode_le ext
      rw [hback, List.length_append, List.length_cons] at hle
      omega

/-! ### The language of a spelling -/

/-- The special names spell themselves. -/
theorem decode_of_mem_ownLanguage (h : s ∈ ownLanguage) : Percent.decode s.toList = Utf8.encode s := by
  simp only [ownLanguage, List.mem_cons, List.not_mem_nil, or_false] at h
  rcases h with rfl | rfl <;> rfl

/-- Nothing in the special names is escaped. -/
theorem encode_of_mem_ownLanguage (h : s ∈ ownLanguage) :
    String.ofList (Percent.encode FileUrl.isPlain (Utf8.encode s)) = s := by
  simp only [ownLanguage, List.mem_cons, List.not_mem_nil, or_false] at h
  rcases h with rfl | rfl <;> rfl

/-- The extension and the language of a special name. -/
theorem languageOf_of_mem_ownLanguage (h : s ∈ ownLanguage) :
    extension s.toList = some "properties".toList ∧
      (languageOf s = some "bootstrap" ∨ languageOf s = some "microprofile-properties") := by
  simp only [ownLanguage, List.mem_cons, List.not_mem_nil, or_false] at h
  rcases h with rfl | rfl
  · exact ⟨rfl, .inl rfl⟩
  · exact ⟨rfl, .inr rfl⟩

/-- No extension that has a language of its own has a mark of a URI. -/
theorem not_mem_of_mem_ownLanguage {c : Char} (hc : c ∈ uriMarks) (h : s ∈ ownLanguage) :
    c ∉ s.toList := by
  have hnot : ∀ s ∈ ownLanguage, ∀ c ∈ uriMarks, c ∉ s.toList := by simp [ownLanguage, uriMarks]
  exact hnot s h c hc

/-- Lower case keeps the marks of a URI. -/
theorem mem_lowercase_of_mark {c : Char} {ext : List Char} (hc : c ∈ uriMarks) (h : c ∈ ext) :
    c ∈ (String.ofList (lowercase ext)).toList := by
  have hcase : ∀ c ∈ uriMarks, c.toNat < 0x80 ∧ c.toLower = c := by simp [uriMarks]
  rw [String.toList_ofList]
  exact mem_lowercase (hcase c hc).1 (hcase c hc).2 h

/-- An extension in lower case is the language if one of them has a mark of a URI. -/
theorem languageOf_of_mark {c : Char} {ext : List Char} (hc : c ∈ uriMarks) (hsep : '/' ∉ s.toList)
    (hext : extension s.toList = some ext)
    (h : c ∈ ext ∨ ∃ language, languageOf s = some language ∧ c ∈ language.toList) :
    languageOf s = some (String.ofList (lowercase ext)) := by
  have hlanguages : ∀ c ∈ uriMarks,
      c ∉ "bootstrap".toList ∧ c ∉ "microprofile-properties".toList := by simp [uriMarks]
  have hown : s ∉ ownLanguage := by
    intro hown
    rcases h with hmem | ⟨language, hs, hmem⟩
    · exact not_mem_of_mem_ownLanguage hc hown ((suffix_of_extension hext).subset hmem)
    · obtain ⟨-, hlanguage⟩ := languageOf_of_mem_ownLanguage hown
      rw [hs] at hlanguage
      rcases hlanguage with heq | heq <;> obtain rfl := Option.some.inj heq
      · exact (hlanguages c hc).1 hmem
      · exact (hlanguages c hc).2 hmem
  have hlanguage := languageOf_eq_of_not_mem hsep hown
  rw [hext, Option.map_some] at hlanguage
  rw [hlanguage, languageOfExtension_of_mark hc]
  rcases h with hmem | ⟨language, hs, hmem⟩
  · exact .inl (mem_lowercase_of_mark hc hmem)
  · right
    rwa [Option.some.inj (hlanguage.symm.trans hs)]

/-- **A text with a mark of a URI in its extension has another language than a text with a shorter
extension.** -/
theorem languageOf_ne_of_mark {c : Char} {ext ext' : List Char} (hc : c ∈ uriMarks)
    (hsep : '/' ∉ s.toList) (hsep' : '/' ∉ t.toList) (hext : extension s.toList = some ext)
    (hext' : extension t.toList = some ext') (hascii : Ascii ext) (hmem : c ∈ ext)
    (hlt : (Utf8.encode (String.ofList ext')).length < ext.length) : languageOf s ≠ languageOf t := by
  intro h
  have hs := languageOf_of_mark hc hsep hext (.inl hmem)
  have ht := languageOf_of_mark hc hsep' hext' (.inr ⟨_, h ▸ hs, mem_lowercase_of_mark hc hmem⟩)
  have heq : lowercase ext = lowercase ext' :=
    String.ofList_injective (Option.some.inj (hs.symm.trans (h.trans ht)))
  have hle := length_lowercase_le ext'
  rw [← heq, length_lowercase_of_ascii hascii] at hle
  omega

/-- A spelling with an extension has the language of a name that is text exactly if the name has the
same extension and is not special, or is spelled by itself. -/
theorem languageOf_spelling_iff_of_text (hascii : Ascii name) (hsep : '/' ∉ name)
    (hname : Percent.decode name = Utf8.encode t) (hsepName : '/' ∉ t.toList) (hdots : t ≠ "..")
    {ext : List Char} (hext : extension name = some ext) :
    languageOf (String.ofList name) = languageOf t ↔
      extension t.toList = some ext ∧ (t ∈ ownLanguage → String.ofList name = t) := by
  have hsepSpelling : '/' ∉ (String.ofList name).toList := by rwa [String.toList_ofList]
  have hself (hown : String.ofList name ∈ ownLanguage) : String.ofList name = t := by
    have hdecode := decode_of_mem_ownLanguage hown
    rw [String.toList_ofList, hname] at hdecode
    exact (Utf8.encode_inj.1 hdecode).symm
  obtain ⟨ext', hext', rfl | ⟨hlt, hpercent⟩⟩ := extension_of_decode hascii hname hdots hext
  · -- The extensions are the same, so all depends on the special names.
    rw [hext']
    refine ⟨fun h => ⟨rfl, fun hown => ?_⟩, fun h => ?_⟩
    · by_contra hne
      have hplain : String.ofList name ∉ ownLanguage := fun h => hne (hself h)
      obtain ⟨hproperties, hlanguage⟩ := languageOf_of_mem_ownLanguage hown
      rw [languageOf_eq_of_not_mem hsepSpelling hplain, String.toList_ofList, hext, ← hext',
        hproperties] at h
      have hspelling : some "properties" = languageOf t := h
      rw [← hspelling] at hlanguage
      exact absurd hlanguage (by decide)
    · by_cases hown : t ∈ ownLanguage
      · rw [h.2 hown]
      · have hplain : String.ofList name ∉ ownLanguage := fun hmem => hown (hself hmem ▸ hmem)
        rw [languageOf_eq_of_not_mem hsepSpelling hplain, languageOf_eq_of_not_mem hsepName hown,
          String.toList_ofList, hext, hext']
  · -- The extension of the spelling has an escape, so its language is longer than the other one.
    have hasciiExt : Ascii ext := fun c hc => hascii c ((suffix_of_extension hext).subset hc)
    refine iff_of_false ?_ fun h => ?_
    · exact languageOf_ne_of_mark (c := '%') (by decide) hsepSpelling hsepName
        (by rwa [String.toList_ofList]) hext' hasciiExt hpercent hlt
    · obtain rfl := Option.some.inj (hext'.symm.trans h.1)
      have hle := Utf8.length_le_length_encode (String.ofList ext')
      rw [String.toList_ofList] at hle
      omega

/-- A plain name stands for a name that is no text; it has no extension and no language. -/
theorem unknown_spec : languageOf "Unknown" = none ∧ extension "Unknown".toList = none ∧
    "Unknown" ∉ ownLanguage :=
  ⟨rfl, rfl, by decide⟩

/-- The text of a name that is no text, and of one that is. -/
theorem name_cases (hslash : slash ∉ bytes) (hdots : bytes ≠ [dot, dot])
    (ht : t = (Utf8.decode? bytes).getD "Unknown") :
    t = "Unknown" ∨ bytes = Utf8.encode t ∧ '/' ∉ t.toList ∧ t ≠ ".." := by
  cases hdecode : Utf8.decode? bytes with
  | none =>
    rw [hdecode] at ht
    exact .inl ht
  | some s =>
    rw [hdecode, Option.getD_some] at ht
    subst ht
    have hbytes := (Utf8.decode?_eq_some_iff.1 hdecode).symm
    refine .inr ⟨hbytes, fun hmem => hslash ?_, ?_⟩
    · rw [hbytes]
      exact (Utf8.mem_encode_iff (c := '/') (by decide)).2 hmem
    · rintro rfl
      exact hdots (hbytes.trans rfl)

/-- **When a spelling has the language of the name.** -/
theorem languageOf_spelling_iff (hascii : Ascii name) (hsep : '/' ∉ name)
    (hslash : slash ∉ Percent.decode name) (hdots : Percent.decode name ≠ [dot, dot])
    (ht : t = (Utf8.decode? (Percent.decode name)).getD "Unknown") :
    languageOf (String.ofList name) = languageOf t ↔
      extension name = extension t.toList ∧ (t ∈ ownLanguage → String.ofList name = t) := by
  have hnone : languageOf (String.ofList name) = none ↔ extension name = none := by
    rw [languageOf_eq_none_iff (by rwa [String.toList_ofList]), String.toList_ofList]
  rcases name_cases hslash hdots ht with rfl | ⟨hbytes, hsepName, hdotsName⟩
  · obtain ⟨hlanguage, hext, hown⟩ := unknown_spec
    rw [hlanguage, hext, hnone]
    exact ⟨fun h => ⟨h, fun hmem => absurd hmem hown⟩, And.left⟩
  · cases hext : extension name with
    | some ext =>
      rw [languageOf_spelling_iff_of_text hascii hsep hbytes hsepName hdotsName hext, eq_comm]
    | none =>
      rw [hnone.2 hext, eq_comm, languageOf_eq_none_iff hsepName, eq_comm (a := none)]
      refine ⟨fun h => ⟨h, fun hown => ?_⟩, And.left⟩
      rw [(languageOf_of_mem_ownLanguage hown).1] at h
      cases h

/-- With a query or a fragment behind it, an extension is longer than that of the name. -/
theorem languageOf_append_ne {mark : Char} {rest ext : List Char} (hmark : mark ∈ uriMarks)
    (hascii : Ascii (name ++ mark :: rest)) (hsep : '/' ∉ name ++ mark :: rest)
    (hname : Percent.decode name = Utf8.encode t) (hsepName : '/' ∉ t.toList) (hdots : t ≠ "..")
    (hext : extension name = some ext)
    (hwhole : extension (name ++ mark :: rest) = some (ext ++ mark :: rest)) :
    languageOf (String.ofList (name ++ mark :: rest)) ≠ languageOf t := by
  have hasciiName : Ascii name := fun c hc => hascii c (List.mem_append_left _ hc)
  have hasciiExt : Ascii ext := fun c hc => hasciiName c ((suffix_of_extension hext).subset hc)
  obtain ⟨ext', hext', hshort⟩ := extension_of_decode hasciiName hname hdots hext
  have hle : (Utf8.encode (String.ofList ext')).length ≤ ext.length := by
    rcases hshort with rfl | ⟨hlt, -⟩
    · rw [Utf8.encode_of_ascii hasciiExt, List.length_map]
    · exact Nat.le_of_lt hlt
  refine languageOf_ne_of_mark hmark (by rwa [String.toList_ofList]) hsepName
    (by rwa [String.toList_ofList]) hext' ?_ (List.mem_append_right ext List.mem_cons_self) ?_
  · exact fun c hc => hascii c ((suffix_of_extension hwhole).subset hc)
  · rw [List.length_append, List.length_cons]
    omega

/-- **When a spelling with a query or a fragment has the language of the name.** What follows the
last full stop of the query is the extension; without one, the query makes each extension longer. -/
theorem languageOf_spelling_append {mark : Char} {rest : List Char} (hmark : mark = '?' ∨ mark = '#')
    (hascii : Ascii (name ++ mark :: rest)) (hsep : '/' ∉ name ++ mark :: rest) (hnil : name ≠ [])
    (hslash : slash ∉ Percent.decode name) (hdots : Percent.decode name ≠ [dot, dot])
    (ht : t = (Utf8.decode? (Percent.decode name)).getD "Unknown") :
    (∀ ext, afterLastDot rest = some ext → languageOf (String.ofList (name ++ mark :: rest)) =
      some (languageOfExtension (String.ofList (lowercase ext)))) ∧
    ('.' ∉ rest → (languageOf (String.ofList (name ++ mark :: rest)) = languageOf t ↔
      extension name = none ∧ extension t.toList = none)) := by
  have hmem : mark ∈ uriMarks ∧ mark ≠ '.' := by rcases hmark with rfl | rfl <;> decide
  have hspelling : name ≠ ['.', '.'] := by
    rintro rfl
    exact hdots rfl
  have hsepWhole : '/' ∉ (String.ofList (name ++ mark :: rest)).toList := by
    rwa [String.toList_ofList]
  have hown : String.ofList (name ++ mark :: rest) ∉ ownLanguage := by
    intro hown
    refine not_mem_of_mem_ownLanguage hmem.1 hown ?_
    rw [String.toList_ofList]
    exact List.mem_append_right name List.mem_cons_self
  have hext : extension (name ++ mark :: rest) =
      (afterLastDot rest).or ((extension name).map (· ++ mark :: rest)) := by
    rw [extension_append hnil hspelling fun h => hmem.2 (List.cons.inj h).1, afterLastDot,
      if_neg hmem.2, Option.or_none]
  have hlanguage := languageOf_eq_of_not_mem hsepWhole hown
  rw [String.toList_ofList, hext] at hlanguage
  refine ⟨fun ext hafter => ?_, fun hdot => ?_⟩
  · rw [hlanguage, hafter]
    rfl
  · rw [afterLastDot_eq_none_iff.2 hdot, Option.none_or] at hext hlanguage
    cases hname : extension name with
    | none =>
      rw [hlanguage, hname]
      rcases name_cases hslash hdots ht with rfl | ⟨-, hsepName, -⟩
      · exact iff_of_true unknown_spec.1.symm ⟨rfl, unknown_spec.2.1⟩
      · rw [eq_comm, Option.map_none, Option.map_none, languageOf_eq_none_iff hsepName]
        exact ⟨fun h => ⟨rfl, h⟩, And.right⟩
    | some ext =>
      rw [hname, Option.map_some] at hext hlanguage
      refine iff_of_false ?_ fun h => Option.some_ne_none _ h.1
      rcases name_cases hslash hdots ht with rfl | ⟨hbytes, hsepName, hdotsName⟩
      · rw [hlanguage, unknown_spec.1]
        exact Option.some_ne_none _
      · exact languageOf_append_ne hmem.1 hascii hsep hbytes hsepName hdotsName hname hext

/-! ### The extension of an escaped name -/

namespace Percent

variable {plain : UInt8 → Bool} {bytes : List UInt8} {cs : List Char}

/-- A name is escaped byte by byte. -/
theorem encode_append (plain : UInt8 → Bool) (front back : List UInt8) :
    encode plain (front ++ back) = encode plain front ++ encode plain back :=
  List.flatMap_append

/-- Each escape adds two characters. -/
theorem length_encode (plain : UInt8 → Bool) (bytes : List UInt8) :
    (encode plain bytes).length = bytes.length + 2 * bytes.countP (!plain ·) := by
  induction bytes with
  | nil => rfl
  | cons b bytes ih =>
    rw [encode_cons, List.length_append, ih, encodeByte, List.countP_cons, List.length_cons]
    cases plain b <;> simp [escape] <;> omega

/-- **A text stands for itself exactly if all its bytes do.** -/
theorem encode_eq_self_iff (hplain : ∀ b, plain b = true → b.toNat < 0x80) :
    encode plain (Utf8.encode (String.ofList cs)) = cs ↔
      ∀ b ∈ Utf8.encode (String.ofList cs), plain b = true := by
  constructor
  · intro h
    have hlength := length_encode plain (Utf8.encode (String.ofList cs))
    have hle := Utf8.length_le_length_encode (String.ofList cs)
    rw [String.toList_ofList] at hle
    rw [h] at hlength
    have hnone : (Utf8.encode (String.ofList cs)).countP (!plain ·) = 0 := by omega
    simpa using List.countP_eq_zero.1 hnone
  · intro h
    have hascii : Ascii cs := by
      intro c hc
      by_contra hnot
      obtain ⟨b, hb⟩ := List.exists_mem_of_ne_nil _ (String.utf8EncodeChar_ne_nil (c := c))
      have hle := Utf8.le_of_mem_utf8EncodeChar (Nat.le_of_not_lt hnot) hb
      have hmem : b ∈ Utf8.encode (String.ofList cs) := by
        rw [Utf8.encode_eq_flatMap, String.toList_ofList]
        exact List.mem_flatMap.2 ⟨c, hc, hb⟩
      have hlt := hplain b (h b hmem)
      omega
    rw [Utf8.encode_of_ascii hascii] at h ⊢
    clear hplain
    induction cs with
    | nil => rfl
    | cons c cs ih =>
      obtain ⟨hc, hcs⟩ := List.forall_mem_cons.1 hascii
      obtain ⟨hbyte, hbytes⟩ := List.forall_mem_cons.1 h
      rw [List.map_cons, encode_cons, encodeByte, if_pos hbyte, Utf8.toNat_ofNat hc,
        Char.ofNat_toNat, ih hbytes hcs, List.singleton_append]

end Percent

namespace FileUrl

variable {bytes : List UInt8} {t : String}

/-- Bytes that are not escaped are in ASCII. -/
theorem lt_of_isPlain {b : UInt8} (h : isPlain b = true) : b.toNat < 0x80 := by
  unfold isPlain at h
  simp only [Bool.and_eq_true, decide_eq_true_eq] at h
  exact Nat.lt_trans h.1.2 (by decide)

/-- Escaped bytes are in ASCII. -/
theorem ascii_encode (bytes : List UInt8) : Ascii (Percent.encode isPlain bytes) := by
  intro c hc
  obtain ⟨b, -, hc⟩ := List.mem_flatMap.1 hc
  have hdigit : ∀ n, n < 16 → (Percent.hexDigit n).toNat < 0x80 := fun n hn =>
    Reference.ascii_of_hexValue? (by rw [Percent.hexValue?_hexDigit hn]; rfl)
  have hb := b.toNat_lt
  unfold Percent.encodeByte at hc
  split at hc
  · rename_i hplain
    rw [List.mem_singleton.1 hc, Percent.toNat_ofNat]
    exact lt_of_isPlain hplain
  · simp only [Percent.escape, List.mem_cons, List.not_mem_nil, or_false] at hc
    rcases hc with rfl | rfl | rfl
    · decide
    · exact hdigit _ (by omega)
    · exact hdigit _ (by omega)

/-- Full stops are not escaped, and stand in no escape. -/
theorem dot_mem_encode_iff : '.' ∈ Percent.encode isPlain bytes ↔ dot ∈ bytes := by
  constructor
  · intro h
    obtain ⟨b, hb, -, hc⟩ := Percent.exists_of_mem_encode (by decide) (by decide) h
    obtain rfl : b = dot := Percent.eq_of_ofNat_eq hc
    exact hb
  · exact fun h => List.mem_flatMap.2 ⟨dot, h, by decide⟩

/-- The same holds of what follows the first byte. -/
theorem dot_mem_tail_encode_iff :
    '.' ∈ (Percent.encode isPlain bytes).tail ↔ dot ∈ bytes.tail := by
  cases bytes with
  | nil => simp
  | cons b bytes =>
    have hfirst : '.' ∉ (Percent.encodeByte isPlain b).tail := by
      unfold Percent.encodeByte
      split
      · exact List.not_mem_nil
      · rename_i hb
        intro h
        have hmem : '.' ∈ Percent.encode isPlain [b] := by
          rw [Percent.encode_cons, Percent.encodeByte, if_neg hb]
          exact List.mem_append_left _ (List.mem_of_mem_tail h)
        obtain ⟨b', hb', hplain, -⟩ :=
          Percent.exists_of_mem_encode (by decide) (by decide) hmem
        exact hb (List.mem_singleton.1 hb' ▸ hplain)
    have hne : Percent.encodeByte isPlain b ≠ [] := by
      unfold Percent.encodeByte
      split <;> exact List.cons_ne_nil _ _
    rw [Percent.encode_cons, List.tail_append_of_ne_nil hne, List.mem_append, or_iff_right hfirst,
      dot_mem_encode_iff, List.tail_cons]

/-- A name that is escaped, before and after a full stop. -/
theorem encode_append_dot (front back : List UInt8) :
    Percent.encode isPlain (front ++ dot :: back) =
      Percent.encode isPlain front ++ '.' :: Percent.encode isPlain back := by
  rw [Percent.encode_append, Percent.encode_cons]
  rfl

/-- Only two dots are spelled as two dots. -/
theorem encode_ne_dots (h : bytes ≠ [dot, dot]) : Percent.encode isPlain bytes ≠ ['.', '.'] := by
  intro heq
  refine h ?_
  rw [← decode_segment bytes, heq]
  rfl

/-- **The extension of a name that is escaped.** -/
theorem extension_encode (hdots : t ≠ "..") :
    extension (Percent.encode isPlain (Utf8.encode t)) = (extension t.toList).map fun ext =>
      Percent.encode isPlain (Utf8.encode (String.ofList ext)) := by
  have hbytes : Utf8.encode t ≠ [dot, dot] := fun h =>
    hdots (Utf8.encode_inj.1 (h.trans rfl))
  have hlist : t.toList ≠ ['.', '.'] := fun h => hdots (by rw [← String.ofList_toList (s := t), h])
  have hnot {ext : List Char} (h : '.' ∉ ext) :
      '.' ∉ Percent.encode isPlain (Utf8.encode (String.ofList ext)) := by
    rw [dot_mem_encode_iff, show dot = UInt8.ofNat '.'.toNat from rfl,
      Utf8.mem_encode_iff (by decide), String.toList_ofList]
    exact h
  have hparts {stem ext : List Char} (h : t.toList = stem ++ '.' :: ext) :
      Percent.encode isPlain (Utf8.encode t) =
        Percent.encode isPlain (Utf8.encode (String.ofList stem)) ++
          '.' :: Percent.encode isPlain (Utf8.encode (String.ofList ext)) := by
    rw [← encode_append_dot, ← AnnotationBridge.encode_append_dot, ← h, String.ofList_toList]
  cases hext : extension t.toList with
  | some ext =>
    obtain ⟨stem, hne, ht, hlast⟩ := (extension_eq_some_iff hlist).1 hext
    refine (extension_eq_some_iff (encode_ne_dots hbytes)).2 ⟨_, fun h => hne ?_, hparts ht, hnot hlast⟩
    have hnil := congrArg Percent.decode h
    rw [decode_segment] at hnil
    exact String.ofList_injective (Utf8.encode_inj.1 hnil)
  | none =>
    rw [Option.map_none, extension_eq_none_iff (encode_ne_dots hbytes), dot_mem_tail_encode_iff,
      show dot = UInt8.ofNat '.'.toNat from rfl, Utf8.mem_tail_encode_iff (by decide)]
    exact (extension_eq_none_iff hlist).1 hext

/-- A name that is escaped has the same extension exactly if the extension needs no escape. -/
theorem extension_encode_eq_iff (hdots : t ≠ "..") :
    extension (Percent.encode isPlain (Utf8.encode t)) = extension t.toList ↔
      ∀ ext, extension t.toList = some ext →
        ∀ b ∈ Utf8.encode (String.ofList ext), isPlain b = true := by
  rw [extension_encode hdots]
  cases extension t.toList with
  | none => simp
  | some ext =>
    rw [Option.map_some, Option.some_inj, Percent.encode_eq_self_iff fun _ => lt_of_isPlain]
    simp

end FileUrl

end AnnotationBridge
