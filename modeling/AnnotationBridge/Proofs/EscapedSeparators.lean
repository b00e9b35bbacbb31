import AnnotationBridge.Proofs.Ascii
import AnnotationBridge.Proofs.Containment

/-!
# Only an escaped separator hides a step up

A dot of a path can be escaped in a URL, and so can a percent sign, but none of this keeps a dot
segment from being seen: what decodes to two dots is a dot segment, however it is spelled. So it is
enough to look for the escape of a separator in the text of a URI.

* `FileUrl.EscapesSeparator`: a text has the escape of a separator.
* `FileUrl.slash_not_mem_decode`: without it, a piece of a URI is decoded to one piece of a path.
* `FileUrl.isDoubleDot_of_decode`: what is decoded to two dots is a dot segment.
* `FileUrl.hidesStepUp_of_mem_pieces`: the pieces of a URI without escaped separators hide no step
  up.
* `Workspace.encloses_of_resourceFor`: a resource that such a URI names is in the workspace.
-/

namespace AnnotationBridge

open Reference

namespace Percent

variable {c high low : Char} {n hi lo : Nat}

/-- The code of a hexadecimal digit. -/
theorem toNat_of_hexValue? (h : hexValue? c = some n) :
    c.toNat = 0x30 + n ∧ n < 10 ∨ (c.toNat = 0x37 + n ∨ c.toNat = 0x57 + n) ∧ 10 ≤ n ∧ n < 16 := by
  have hle : ∀ c d : Char, c ≤ d → c.toNat ≤ d.toNat := fun _ _ hc => hc
  unfold hexValue? at h
  split at h
  · rename_i hc
    simp only [Bool.and_eq_true, decide_eq_true_eq] at hc
    have hlow : 0x30 ≤ c.toNat := hle '0' c hc.1
    have hhigh : c.toNat ≤ 0x39 := hle c '9' hc.2
    have hn := Option.some.inj h
    omega
  · split at h
    · rename_i hc
      simp only [Bool.and_eq_true, decide_eq_true_eq] at hc
      have hlow : 0x41 ≤ c.toNat := hle 'A' c hc.1
      have hhigh : c.toNat ≤ 0x46 := hle c 'F' hc.2
      have hn := Option.some.inj h
      omega
    · split at h
      · rename_i hc
        simp only [Bool.and_eq_true, decide_eq_true_eq] at hc
        have hlow : 0x61 ≤ c.toNat := hle 'a' c hc.1
        have hhigh : c.toNat ≤ 0x66 := hle c 'f' hc.2
        have hn := Option.some.inj h
        omega
      · cases h

/-- The escape of a byte from `*` to `/` is a two and a letter, in upper or in lower case. -/
theorem escape_cases {b : UInt8} (hb : b.toNat = 0x20 + n) (hn : 10 ≤ n ∧ n < 16)
    (hhi : hexValue? high = some hi) (hlo : hexValue? low = some lo)
    (hbyte : UInt8.ofNat (hi * 16 + lo) = b) :
    high = '2' ∧ (low = Char.ofNat (0x37 + n) ∨ low = Char.ofNat (0x57 + n)) := by
  have heq : ∀ {c : Char} {m : Nat}, c.toNat = m → c = Char.ofNat m := by
    rintro c m rfl
    exact (Char.ofNat_toNat c).symm
  have hhigh := toNat_of_hexValue? hhi
  have hlow := toNat_of_hexValue? hlo
  rw [← hbyte, UInt8.toNat_ofNat'] at hb
  obtain rfl : hi = 2 := by omega
  obtain rfl : lo = n := by omega
  have htwo : high.toNat = 0x32 := by omega
  refine ⟨heq htwo, ?_⟩
  rcases hlow with hlow | ⟨hlow | hlow, -⟩
  · omega
  · exact .inl (heq hlow)
  · exact .inr (heq hlow)

/-- A character of ASCII stands for the byte of its code. -/
theorem eq_of_ofNat_toNat {b : UInt8} (hc : c.toNat < 0x80) (h : UInt8.ofNat c.toNat = b) :
    c = Char.ofNat b.toNat := by
  have hcode : c.toNat = b.toNat := by
    rw [← h, UInt8.toNat_ofNat']
    omega
  rw [← hcode, Char.ofNat_toNat]

end Percent

namespace FileUrl

variable {c : Char} {cs piece : List Char} {bytes : List UInt8} {uri : Uri}

/-! ### Escapes of separators -/

/-- A text has the escape of a separator. -/
def EscapesSeparator (cs : List Char) : Prop :=
  ['%', '2', 'F'] <:+: cs ∨ ['%', '2', 'f'] <:+: cs

/-- It can be decided whether a text has the escape of a separator. -/
instance (cs : List Char) : Decidable (EscapesSeparator cs) :=
  inferInstanceAs (Decidable (_ ∨ _))

/-- What a part has the whole has. -/
theorem EscapesSeparator.of_part (hpart : piece <:+: cs) (h : EscapesSeparator piece) :
    EscapesSeparator cs :=
  h.imp (·.trans hpart) (·.trans hpart)

/-- A character in front does not matter. -/
theorem EscapesSeparator.cons (h : EscapesSeparator cs) : EscapesSeparator (c :: cs) :=
  h.of_part (List.suffix_cons c cs).isInfix

/-- Without escaped separators, the bytes of a piece of a URI have no separator. -/
theorem slash_not_mem_decode (hascii : Ascii cs) (hsep : '/' ∉ cs)
    (hescape : ¬ EscapesSeparator cs) : slash ∉ Percent.decode cs := by
  fun_induction Percent.decode cs with
  | case1 => exact List.not_mem_nil
  | case2 high low rest hi lo hlo hhi ih =>
    have hrest : rest <:+: '%' :: high :: low :: rest :=
      ((List.suffix_cons low rest).trans
        ((List.suffix_cons high _).trans (List.suffix_cons '%' _))).isInfix
    refine List.not_mem_cons_of_ne_of_not_mem (fun heq => hescape ?_) ?_
    · obtain ⟨rfl, rfl | rfl⟩ :=
        Percent.escape_cases (n := 15) rfl (by decide) hhi hlo heq.symm
      · exact .inl (List.prefix_append _ rest).isInfix
      · exact .inr (List.prefix_append _ rest).isInfix
    · exact ih (fun c hc => hascii c (hrest.subset hc)) (fun hmem => hsep (hrest.subset hmem))
        (fun h => hescape (h.of_part hrest))
  | case3 high low rest _ ih =>
    refine List.not_mem_cons_of_ne_of_not_mem (by decide) ?_
    exact ih (fun c hc => hascii c (List.mem_cons_of_mem _ hc))
      (fun hmem => hsep (List.mem_cons_of_mem _ hmem)) (fun h => hescape h.cons)
  | case4 c rest _ ih =>
    refine List.not_mem_cons_of_ne_of_not_mem (fun heq => hsep ?_) ?_
    · have hc := Percent.eq_of_ofNat_toNat (hascii c List.mem_cons_self) heq.symm
      exact List.mem_cons.2 (.inl hc.symm)
    · exact ih (fun c hc => hascii c (List.mem_cons_of_mem _ hc))
        (fun hmem => hsep (List.mem_cons_of_mem _ hmem)) (fun h => hescape h.cons)

/-! ### Escapes of dots -/

/-- What is decoded to a dot and more begins with a dot, plain or escaped. -/
theorem dotThen?_of_decode (hascii : Ascii cs) (h : Percent.decode cs = dot :: bytes) :
    ∃ rest, dotThen? cs = some rest ∧ Percent.decode rest = bytes ∧ Ascii rest := by
  revert h
  fun_cases Percent.decode cs with
  | case1 => exact fun h => absurd h (List.cons_ne_nil _ _).symm
  | case2 high low rest hi lo hlo hhi =>
    intro h
    obtain ⟨hbyte, hrest⟩ := List.cons.inj h
    obtain ⟨rfl, hlow⟩ := Percent.escape_cases (n := 14) rfl (by decide) hhi hlo hbyte
    refine ⟨rest, ?_, hrest, fun c hc => hascii c ?_⟩
    · rcases hlow with rfl | rfl <;> rfl
    · simp only [List.mem_cons, hc, or_true]
  | case3 high low rest _ =>
    intro h
    exact absurd (List.cons.inj h).1 (by decide)
  | case4 c rest _ =>
    intro h
    obtain ⟨hbyte, hrest⟩ := List.cons.inj h
    obtain rfl := Percent.eq_of_ofNat_toNat (hascii c List.mem_cons_self) hbyte
    exact ⟨rest, rfl, hrest, fun c hc => hascii c (List.mem_cons_of_mem _ hc)⟩

/-- Only the empty text is decoded as nothing. -/
theorem eq_nil_of_decode (h : Percent.decode cs = []) : cs = [] := by
  revert h
  fun_cases Percent.decode cs with
  | case1 => exact fun _ => rfl
  | case2 | case3 | case4 => exact fun h => absurd h (List.cons_ne_nil _ _)

/-- What is decoded to two dots is a dot segment. -/
theorem isDoubleDot_of_decode (hascii : Ascii cs) (h : Percent.decode cs = [dot, dot]) :
    isDoubleDot cs = true := by
  obtain ⟨afterFirst, hfirst, hdecode, hrest⟩ := dotThen?_of_decode hascii h
  obtain ⟨afterSecond, hsecond, hend, -⟩ := dotThen?_of_decode hrest hdecode
  obtain rfl := eq_nil_of_decode hend
  rw [isDoubleDot, hfirst, Option.bind_some, hsecond]
  rfl

/-! ### Pieces of a URI -/

/-- A text without separators is one piece. -/
theorem splitAtByte_eq_singleton {sep : UInt8} (h : sep ∉ bytes) :
    splitAtByte sep bytes = [bytes] := by
  induction bytes with
  | nil => rfl
  | cons b bytes ih =>
    obtain ⟨hne, hrest⟩ := List.ne_and_not_mem_of_not_mem_cons h
    rw [splitAtByte, if_neg hne.symm, ih hrest]

/-- A piece that has no separator, plain or escaped, hides no step up. -/
theorem hidesStepUp_eq_false (hascii : Ascii cs) (hsep : '/' ∉ cs)
    (hescape : ¬ EscapesSeparator cs) : hidesStepUp cs = false := by
  rw [hidesStepUp, splitAtByte_eq_singleton (slash_not_mem_decode hascii hsep hescape)]
  cases hdouble : isDoubleDot cs with
  | true => rfl
  | false =>
    rw [Bool.not_false, Bool.true_and, Bool.eq_false_iff, Ne, List.contains_iff_mem]
    intro hmem
    have hdecode := List.mem_singleton.1 hmem
    rw [isDoubleDot_of_decode hascii hdecode.symm] at hdouble
    cases hdouble

/-- The first piece of a text is at its start. -/
theorem prefix_of_splitAtChar {sep : Char} {rest : List (List Char)}
    (h : splitAtChar sep cs = piece :: rest) : piece <+: cs := by
  induction cs generalizing piece rest with
  | nil =>
    obtain ⟨rfl, -⟩ := List.cons.inj h
    exact List.prefix_rfl
  | cons c cs ih =>
    rw [splitAtChar] at h
    split at h
    · obtain ⟨rfl, -⟩ := List.cons.inj h
      exact List.nil_prefix
    · split at h
      · obtain ⟨rfl, -⟩ := List.cons.inj h
        exact (List.prefix_cons_inj c).2 List.nil_prefix
      · rename_i first later hcons
        obtain ⟨rfl, -⟩ := List.cons.inj h
        exact (List.prefix_cons_inj c).2 (ih hcons)

/-- A piece of a text is part of the text and has no separators. -/
theorem infix_of_mem_splitAtChar {sep : Char} (h : piece ∈ splitAtChar sep cs) :
    piece <:+: cs ∧ sep ∉ piece := by
  induction cs generalizing piece with
  | nil =>
    obtain rfl := List.mem_singleton.1 h
    exact ⟨List.infix_rfl, List.not_mem_nil⟩
  | cons c cs ih =>
    have hlater : piece ∈ splitAtChar sep cs → piece <:+: c :: cs ∧ sep ∉ piece := fun hmem =>
      ⟨(ih hmem).1.trans (List.suffix_cons c cs).isInfix, (ih hmem).2⟩
    rw [splitAtChar] at h
    split at h
    · rcases List.mem_cons.1 h with rfl | hmem
      · refine ⟨?_, List.not_mem_nil⟩
        exact List.nil_infix
      · exact hlater hmem
    · rename_i hc
      cases hsplit : splitAtChar sep cs with
      | nil => exact absurd hsplit (splitAtChar_ne_nil sep cs)
      | cons first rest =>
        rw [hsplit] at h
        rcases List.mem_cons.1 h with rfl | hmem
        · refine ⟨((List.prefix_cons_inj c).2 (prefix_of_splitAtChar hsplit)).isInfix, ?_⟩
          refine List.not_mem_cons_of_ne_of_not_mem (Ne.symm hc) ?_
          exact (ih (hsplit ▸ List.mem_cons_self)).2
        · exact hlater (hsplit ▸ List.mem_cons_of_mem _ hmem)

/-- What follows a scheme is at the end of the text. -/
theorem suffix_of_scheme? {scheme rest : List Char} (h : scheme? cs = some (scheme, rest)) :
    rest <:+ cs := by
  obtain ⟨htext, -⟩ := text_of_scheme? h
  exact ⟨scheme ++ [':'], by rw [htext, List.append_assoc, List.singleton_append]⟩

/-- The pieces of a URI are parts of its text and have no separators. -/
theorem infix_of_mem_pieces (h : piece ∈ pieces uri) :
    piece <:+: uri.text.toList ∧ '/' ∉ piece := by
  unfold pieces at h
  split at h
  · cases h
  · rename_i scheme rest hscheme
    obtain ⟨hpart, hsep⟩ := infix_of_mem_splitAtChar h
    have hfront : (cutAt (fun c => c == '?' || c == '#') rest).1 <+: rest := List.takeWhile_prefix _
    exact ⟨hpart.trans (hfront.isInfix.trans (suffix_of_scheme? hscheme).isInfix), hsep⟩

/-- **The pieces of a URI without escaped separators hide no step up.** -/
theorem hidesStepUp_of_mem_pieces (huri : ¬ EscapesSeparator uri.text.toList)
    (h : piece ∈ pieces uri) : hidesStepUp piece = false := by
  obtain ⟨hpart, hsep⟩ := infix_of_mem_pieces h
  have hascii : Ascii piece := fun c hc => ascii_of_accepts uri.valid c (hpart.subset hc)
  exact hidesStepUp_eq_false hascii hsep fun hescape => huri (hescape.of_part hpart)

/-- An escaped percent sign makes what follows it part of a name. -/
example : ¬ EscapesSeparator "file:///a/%2e%2E/..%252Fb".toList := by decide +kernel

end FileUrl

namespace Workspace

open FileUrl

variable {uri : Uri} {path : Path}

/-- **A resource that a URI without escaped separators names is in the workspace.** -/
theorem encloses_of_resourceFor {w : Workspace} (huri : ¬ EscapesSeparator uri.text.toList)
    (h : w.resourceFor uri = .ok path) : w.Encloses path := by
  have plain : ∀ piece ∈ pieces uri, hidesStepUp piece = false := fun piece hpiece =>
    hidesStepUp_of_mem_pieces huri hpiece
  exact (isUnder_iff_encloses (path?_of_resourceFor h) plain).1 (isUnder_of_resourceFor h)

end Workspace

end AnnotationBridge
