import AnnotationBridge.Uri.Reference

/-!
# References are in ASCII

Each part of the grammar of references is made of characters of ASCII, and so is every reference.

* `Reference.Ascii`: a text in ASCII.
* `Reference.ascii_of_isRun`: a run of allowed characters and escapes, if what is allowed is in
  ASCII.
* `Reference.ascii_of_isIpv6`, `Reference.ascii_of_isAuthority`, `Reference.ascii_of_isPathAndTail`:
  the parts of a reference.
* `Reference.ascii_of_accepts`: a reference as a whole.
-/

namespace AnnotationBridge

namespace Reference

variable {c : Char} {cs front back piece : List Char} {pieces : List (List Char)}
  {allowed : Char → Bool}

/-- A text is in ASCII if all its characters are. -/
def Ascii (cs : List Char) : Prop :=
  ∀ c ∈ cs, c.toNat < 0x80

/-- The empty text is in ASCII. -/
theorem ascii_nil : Ascii [] :=
  fun _ hc => absurd hc List.not_mem_nil

/-- Two texts in ASCII make up one. -/
theorem Ascii.append (hfront : Ascii front) (hback : Ascii back) : Ascii (front ++ back) := by
  intro c hc
  rcases List.mem_append.1 hc with hc | hc
  · exact hfront c hc
  · exact hback c hc

/-- A character of ASCII before a text in ASCII makes up one. -/
theorem Ascii.cons (hc : c.toNat < 0x80) (h : Ascii cs) : Ascii (c :: cs) :=
  List.forall_mem_cons.2 ⟨hc, h⟩

/-! ### Characters -/

/-- Letters and digits are in ASCII. -/
theorem ascii_of_isAlphanumeric (h : isAlphanumeric c = true) : c.toNat < 0x80 := by
  rcases Bool.or_eq_true_iff.1 h with hletter | hdigit
  · rcases Bool.or_eq_true_iff.1 hletter with hupper | hlower
    · have hle : c.val ≤ 'Z'.val := (of_decide_eq_true hupper).2
      exact Nat.lt_of_le_of_lt hle (by decide)
    · have hle : c.val ≤ 'z'.val := of_decide_eq_true (Bool.and_eq_true_iff.1 hlower).2
      exact Nat.lt_of_le_of_lt hle (by decide)
  · have hle : c.val ≤ '9'.val := of_decide_eq_true (Bool.and_eq_true_iff.1 hdigit).2
    exact Nat.lt_of_le_of_lt hle (by decide)

/-- Digits are in ASCII. -/
theorem ascii_of_isDigit (h : c.isDigit = true) : c.toNat < 0x80 := by
  apply ascii_of_isAlphanumeric
  rw [isAlphanumeric, h, Bool.or_true]

/-- Hexadecimal digits are in ASCII. -/
theorem ascii_of_hexValue? (h : (Percent.hexValue? c).isSome = true) : c.toNat < 0x80 := by
  have hle : ∀ top : Char, c ≤ top → c.toNat ≤ top.toNat := fun _ hc => hc
  unfold Percent.hexValue? at h
  split at h
  · rename_i hc
    exact Nat.lt_of_le_of_lt (hle '9' (of_decide_eq_true (Bool.and_eq_true_iff.1 hc).2)) (by decide)
  · split at h
    · rename_i hc
      exact Nat.lt_of_le_of_lt (hle 'F' (of_decide_eq_true (Bool.and_eq_true_iff.1 hc).2))
        (by decide)
    · split at h
      · rename_i hc
        exact Nat.lt_of_le_of_lt (hle 'f' (of_decide_eq_true (Bool.and_eq_true_iff.1 hc).2))
          (by decide)
      · cases h

/-- The characters of a query are all those that a part of a reference may have, less `#`, `%` and
brackets. -/
theorem ascii_of_isQueryChar (h : isQueryChar c = true) : c.toNat < 0x80 := by
  have hdelimiters : ∀ c ∈ "!$&'()*+,;=".toList, c.toNat < 0x80 := by simp
  simp only [isQueryChar, isPathChar, isUserChar, isHostChar, isUnreserved, isSubDelimiter,
    Bool.or_eq_true, beq_iff_eq] at h
  rcases h with ((((((((h | rfl) | rfl) | rfl) | rfl) | h) | rfl) | rfl) | rfl) | rfl
  · exact ascii_of_isAlphanumeric h
  · decide
  · decide
  · decide
  · decide
  · exact hdelimiters c (List.contains_iff_mem.1 h)
  · decide
  · decide
  · decide
  · decide

/-- Characters of a path are in ASCII. -/
theorem ascii_of_isPathChar (h : isPathChar c = true) : c.toNat < 0x80 := by
  apply ascii_of_isQueryChar
  rw [isQueryChar, h, Bool.true_or]

/-- Characters of a user are in ASCII. -/
theorem ascii_of_isUserChar (h : isUserChar c = true) : c.toNat < 0x80 := by
  apply ascii_of_isPathChar
  rw [isPathChar, h, Bool.true_or, Bool.true_or]

/-- Characters of a host are in ASCII. -/
theorem ascii_of_isHostChar (h : isHostChar c = true) : c.toNat < 0x80 := by
  apply ascii_of_isUserChar
  rw [isUserChar, h, Bool.true_or]

/-! ### Runs and pieces -/

/-- What a run passes over is an allowed character, a percent sign or a digit of an escape. -/
theorem ascii_of_skip {rest : List Char} (hallowed : ∀ c, allowed c = true → c.toNat < 0x80)
    (h : skip allowed cs = some rest) (hc : c ∈ cs) : c.toNat < 0x80 ∨ c ∈ rest := by
  fun_induction skip allowed cs with
  | case1 => cases hc
  | case2 high low cs hescape ih =>
    obtain ⟨hhigh, hlow⟩ := Bool.and_eq_true_iff.1 hescape
    simp only [List.mem_cons] at hc
    rcases hc with rfl | rfl | rfl | hc
    · exact .inl (by decide)
    · exact .inl (ascii_of_hexValue? hhigh)
    · exact .inl (ascii_of_hexValue? hlow)
    · exact ih h hc
  | case3 | case4 => cases h
  | case5 first cs _ _ hfirst ih =>
    rcases List.mem_cons.1 hc with rfl | hc
    · exact .inl (hallowed c hfirst)
    · exact ih h hc
  | case6 =>
    obtain rfl := Option.some.inj h
    exact .inr hc

/-- A run is in ASCII if the characters that it allows are. -/
theorem ascii_of_isRun (hallowed : ∀ c, allowed c = true → c.toNat < 0x80)
    (h : isRun allowed cs = true) : Ascii cs := by
  intro c hc
  rcases ascii_of_skip hallowed (beq_iff_eq.1 h) hc with hc | hc
  · exact hc
  · cases hc

/-- A text is in ASCII if both parts are into which it is cut. -/
theorem ascii_of_cutAt (stop : Char → Bool) (hfront : Ascii (cutAt stop cs).1)
    (hback : Ascii (cutAt stop cs).2) : Ascii cs := by
  rw [← cutAt_append stop cs]
  exact hfront.append hback

/-- A text is in ASCII if its pieces and the separator are. -/
theorem ascii_of_splitAtChar (sep : Char) (hsep : sep.toNat < 0x80)
    (h : ∀ piece ∈ splitAtChar sep cs, Ascii piece) : Ascii cs := by
  fun_induction splitAtChar sep cs with
  | case1 => exact ascii_nil
  | case2 cs ih =>
    exact (ih fun piece hpiece => h piece (List.mem_cons_of_mem _ hpiece)).cons hsep
  | case3 c cs _ hnil ih =>
    have hc := h [c] (List.mem_singleton_self _) c List.mem_cons_self
    apply Ascii.cons hc
    apply ih
    rw [hnil]
    exact fun _ hpiece => absurd hpiece List.not_mem_nil
  | case4 first cs _ piece pieces hcons ih =>
    obtain ⟨hpiece, hrest⟩ := List.forall_mem_cons.1 h
    obtain ⟨hfirst, hpiece⟩ := List.forall_mem_cons.1 hpiece
    apply Ascii.cons hfirst
    apply ih
    rw [hcons]
    exact List.forall_mem_cons.2 ⟨hpiece, hrest⟩

/-! ### Addresses -/

/-- A group of an address of 128 bits is in ASCII. -/
theorem ascii_of_isGroup (h : isGroup cs = true) : Ascii cs := by
  intro c hc
  have hdigits := (Bool.and_eq_true_iff.1 h).2
  exact ascii_of_hexValue? (List.all_eq_true.1 hdigits c hc)

/-- An octet of an address of 32 bits is in ASCII. -/
theorem ascii_of_isOctet (h : isOctet cs = true) : Ascii cs := by
  intro c hc
  simp only [isOctet, Bool.and_eq_true] at h
  exact ascii_of_isDigit (List.all_eq_true.1 h.1.1.1.2 c hc)

/-- An address of 32 bits is in ASCII. -/
theorem ascii_of_isIpv4 (h : isIpv4 cs = true) : Ascii cs := by
  apply ascii_of_splitAtChar '.' (by decide)
  intro piece hpiece
  exact ascii_of_isOctet (List.all_eq_true.1 (Bool.and_eq_true_iff.1 h).2 piece hpiece)

/-- Pieces that stand for groups are groups, except that the last may be an IPv4 address. -/
theorem ascii_of_groupCount (h : (groupCount pieces).isSome = true) (hpiece : piece ∈ pieces) :
    Ascii piece := by
  fun_induction groupCount pieces with
  | case1 => cases hpiece
  | case2 only hgroup =>
    obtain rfl := List.mem_singleton.1 hpiece
    exact ascii_of_isGroup hgroup
  | case3 only _ hv4 =>
    obtain rfl := List.mem_singleton.1 hpiece
    exact ascii_of_isIpv4 hv4
  | case4 => cases h
  | case5 first next pieces hgroup ih =>
    rw [Option.isSome_map] at h
    rcases List.mem_cons.1 hpiece with rfl | hpiece
    · exact ascii_of_isGroup hgroup
    · exact ih h hpiece
  | case6 => cases h

/-- Groups between colons are in ASCII. -/
theorem ascii_of_groups (h : (groupCount (splitAtChar ':' cs)).isSome = true) : Ascii cs := by
  apply ascii_of_splitAtChar ':' (by decide)
  intro piece hpiece
  exact ascii_of_groupCount h hpiece

/-- Either side of a double colon is in ASCII. -/
theorem ascii_of_sideCount (h : (sideCount cs).isSome = true) : Ascii cs := by
  unfold sideCount at h
  split at h
  · rename_i hnil
    rw [hnil]
    exact ascii_nil
  · exact ascii_of_groups h

/-- So are both sides together. -/
theorem ascii_of_cutAtDoubleColon (h : cutAtDoubleColon cs = some (front, back))
    (hfront : Ascii front) (hback : Ascii back) : Ascii cs := by
  fun_induction cutAtDoubleColon cs generalizing front back with
  | case1 cs =>
    obtain ⟨-, rfl⟩ := Prod.mk.inj (Option.some.inj h)
    exact (hback.cons (by decide)).cons (by decide)
  | case2 c cs _ ih =>
    obtain ⟨⟨before, after⟩, hcut, heq⟩ := Option.map_eq_some_iff.1 h
    obtain ⟨rfl, rfl⟩ := Prod.mk.inj heq
    obtain ⟨hc, hbefore⟩ := List.forall_mem_cons.1 hfront
    exact (ih hcut hbefore hback).cons hc
  | case3 => cases h

/-- An address of 128 bits is in ASCII. -/
theorem ascii_of_isIpv6 (h : isIpv6 cs = true) : Ascii cs := by
  unfold isIpv6 at h
  split at h
  · apply ascii_of_groups
    rw [beq_iff_eq.1 h]
    rfl
  · rename_i before after hcut
    split at h
    · rename_i m n hm hn
      apply ascii_of_cutAtDoubleColon hcut
      · exact ascii_of_sideCount (by rw [hm]; rfl)
      · exact ascii_of_sideCount (by rw [hn]; rfl)
    · cases h

/-! ### Parts of a reference -/

/-- A run of digits is in ASCII. -/
theorem ascii_of_digits (h : cs.all Char.isDigit = true) : Ascii cs :=
  fun c hc => ascii_of_isDigit (List.all_eq_true.1 h c hc)

/-- A host with a port is in ASCII. -/
theorem ascii_of_isHostWithNumber (h : isHostWithNumber cs = true) : Ascii cs := by
  unfold isHostWithNumber at h
  split at h
  · rename_i rest
    obtain ⟨haddress, hafter⟩ := Bool.and_eq_true_iff.1 h
    apply Ascii.cons (by decide)
    apply ascii_of_cutAt (· == ']') (ascii_of_isIpv6 haddress)
    split at hafter
    · rename_i heq
      rw [show (cutAt (· == ']') rest).2 = _ from heq]
      exact Ascii.cons (by decide) ascii_nil
    · rename_i number heq
      rw [show (cutAt (· == ']') rest).2 = _ from heq]
      exact ((ascii_of_digits hafter).cons (by decide)).cons (by decide)
    · cases hafter
  · apply ascii_of_cutAt (· == ':')
    · split at h
      · rename_i host heq
        rw [heq]
        exact ascii_of_isRun (fun _ => ascii_of_isHostChar) h
      · rename_i host c number heq
        rw [heq]
        exact ascii_of_isRun (fun _ => ascii_of_isHostChar) (Bool.and_eq_true_iff.1 h).1
    · split at h
      · rename_i host heq
        rw [heq]
        exact ascii_nil
      · rename_i host c number heq
        have hc : c = ':' := beq_iff_eq.1 (stop_of_cutAt (· == ':') (congrArg Prod.snd heq))
        rw [heq, hc]
        exact (ascii_of_digits (Bool.and_eq_true_iff.1 h).2).cons (by decide)

/-- An authority is in ASCII. -/
theorem ascii_of_isAuthority (h : isAuthority cs = true) : Ascii cs := by
  unfold isAuthority at h
  split at h
  · exact ascii_of_isHostWithNumber h
  · rename_i user c host heq
    obtain ⟨huser, hhost⟩ := Bool.and_eq_true_iff.1 h
    have hc : c = '@' := beq_iff_eq.1 (stop_of_cutAt (· == '@') (congrArg Prod.snd heq))
    apply ascii_of_cutAt (· == '@')
    · rw [heq]
      exact ascii_of_isRun (fun _ => ascii_of_isUserChar) huser
    · rw [heq, hc]
      exact (ascii_of_isHostWithNumber hhost).cons (by decide)

/-- A query and a fragment are in ASCII. -/
theorem ascii_of_isTail (h : isTail cs = true) : Ascii cs := by
  obtain ⟨hquery, hfragment⟩ := Bool.and_eq_true_iff.1 h
  apply ascii_of_cutAt (· == '#')
  · split at hquery
    · rename_i heq
      rw [show (cutAt (· == '#') cs).1 = _ from heq]
      exact ascii_nil
    · rename_i rest heq
      rw [show (cutAt (· == '#') cs).1 = _ from heq]
      exact (ascii_of_isRun (fun _ => ascii_of_isQueryChar) hquery).cons (by decide)
    · cases hquery
  · cases hback : (cutAt (· == '#') cs).2 with
    | nil => exact ascii_nil
    | cons c back =>
      have hc : c = '#' := beq_iff_eq.1 (stop_of_cutAt (· == '#') hback)
      rw [show cs.dropWhile (fun c => !(c == '#')) = c :: back from hback] at hfragment
      rw [hc]
      exact (ascii_of_isRun (fun _ => ascii_of_isQueryChar) hfragment).cons (by decide)

/-- A path with a query and a fragment is in ASCII. -/
theorem ascii_of_isPathAndTail (h : isPathAndTail cs = true) : Ascii cs := by
  obtain ⟨hpath, htail⟩ := Bool.and_eq_true_iff.1 h
  apply ascii_of_cutAt (fun c => c == '?' || c == '#')
  · exact ascii_of_isRun (fun _ => ascii_of_isPathChar) hpath
  · exact ascii_of_isTail htail

/-- All that follows a scheme is in ASCII. -/
theorem ascii_of_isHierarchy (h : isHierarchy cs = true) : Ascii cs := by
  unfold isHierarchy at h
  split at h
  · rename_i rest
    obtain ⟨hauthority, hafter⟩ := Bool.and_eq_true_iff.1 h
    have hrest : Ascii rest := by
      apply ascii_of_cutAt (fun c => c == '/' || c == '?' || c == '#')
      · exact ascii_of_isAuthority hauthority
      · exact ascii_of_isPathAndTail hafter
    exact (hrest.cons (by decide)).cons (by decide)
  · exact ascii_of_isPathAndTail h

/-- Characters of a scheme are in ASCII. -/
theorem ascii_of_isSchemeChar (h : isSchemeChar c = true) : c.toNat < 0x80 := by
  simp only [isSchemeChar, Bool.or_eq_true, beq_iff_eq] at h
  rcases h with ((h | rfl) | rfl) | rfl
  · exact ascii_of_isAlphanumeric h
  · decide
  · decide
  · decide

/-- A scheme is made of its characters and comes before a colon. -/
theorem text_of_scheme? {scheme rest : List Char} (h : scheme? cs = some (scheme, rest)) :
    cs = scheme ++ ':' :: rest ∧ ∀ c ∈ scheme, isSchemeChar c = true := by
  unfold scheme? at h
  split at h
  · rename_i before after hcut
    obtain ⟨rfl, rfl⟩ := Prod.mk.inj (Option.some.inj h)
    have hcs := cutAt_append (fun c => !isSchemeChar c) cs
    rw [hcut] at hcs
    refine ⟨hcs.symm, fun c hc => ?_⟩
    have hfirst : cs.takeWhile (fun c => !!isSchemeChar c) = before := congrArg Prod.fst hcut
    rw [← hfirst] at hc
    have hchar := List.all_eq_true.1 List.all_takeWhile c hc
    rwa [Bool.not_not] at hchar
  · cases h

/-- **References are in ASCII.** -/
theorem ascii_of_accepts (h : accepts cs = true) : Ascii cs := by
  unfold accepts at h
  split at h
  · rename_i scheme rest hscheme
    obtain ⟨rfl, hchars⟩ := text_of_scheme? hscheme
    have hscheme : Ascii scheme := fun c hc => ascii_of_isSchemeChar (hchars c hc)
    have hrest : Ascii rest := ascii_of_isHierarchy (Bool.and_eq_true_iff.1 h).2
    exact hscheme.append (hrest.cons (by decide))
  · exact ascii_of_isHierarchy (Bool.and_eq_true_iff.1 h).2

end Reference

end AnnotationBridge
