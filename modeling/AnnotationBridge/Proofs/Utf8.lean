import AnnotationBridge.Proofs.Ascii
import AnnotationBridge.Text.Utf8

/-!
# Bytes of a text

A text is found again from its bytes, a character of ASCII is one byte, and the bytes of all other
characters lie outside ASCII. So a text can be taken apart at characters of ASCII in its bytes as
well.

* `Text.Utf8.decode?_eq_some_iff`: the bytes of a text stand for it and for no other text.
* `Text.Utf8.encode_of_ascii`, `Text.Utf8.mem_encode_iff`: characters of ASCII in bytes.
* `Text.Utf8.length_le_length_encode`: a text has no more characters than bytes.
-/

namespace AnnotationBridge.Text.Utf8

open Reference (Ascii)

variable {c : Char} {cs : List Char} {s t : String} {bytes : List UInt8} {b : UInt8}

/-- The bytes of a text are those of its characters. -/
theorem encode_eq_flatMap (s : String) : encode s = s.toList.flatMap String.utf8EncodeChar := by
  obtain ⟨cs, rfl⟩ : ∃ cs, s = String.ofList cs := ⟨s.toList, (String.ofList_toList).symm⟩
  rw [String.toList_ofList]
  show (String.ofList cs).toByteArray.data.toList = _
  rw [String.toByteArray_ofList, List.utf8Encode]
  simp

/-- **The bytes of a text stand for it and for no other text.** -/
theorem decode?_eq_some_iff : decode? bytes = some s ↔ encode s = bytes := by
  unfold decode? String.fromUTF8?
  constructor
  · intro h
    split at h
    · obtain rfl := Option.some.inj h
      rfl
    · cases h
  · rintro rfl
    have hvalid : (ByteArray.mk (encode s).toArray).IsValidUTF8 := s.isValidUTF8
    rw [dif_pos hvalid]
    rfl

/-- A text is decoded from its bytes. -/
theorem decode?_encode (s : String) : decode? (encode s) = some s :=
  decode?_eq_some_iff.2 rfl

/-- Different texts have different bytes. -/
theorem encode_inj : encode s = encode t ↔ s = t := by
  refine ⟨fun h => ?_, congrArg encode⟩
  exact Option.some.inj ((decode?_encode s).symm.trans (h ▸ decode?_encode t))

/-- A text is encoded part by part. -/
theorem encode_append (s t : String) : encode (s ++ t) = encode s ++ encode t := by
  rw [encode_eq_flatMap, String.toList_append, List.flatMap_append, ← encode_eq_flatMap,
    ← encode_eq_flatMap]

/-! ### Characters of ASCII -/

/-- A character of ASCII is one byte. -/
theorem utf8EncodeChar_of_lt (hc : c.toNat < 0x80) :
    String.utf8EncodeChar c = [UInt8.ofNat c.toNat] := by
  have hle : c.val.toNat ≤ 0x7f := Nat.le_of_lt_succ hc
  unfold String.utf8EncodeChar
  simp only [hle, if_true]
  rfl

/-- The bytes of any other character lie outside ASCII. -/
theorem le_of_mem_utf8EncodeChar (hc : 0x80 ≤ c.toNat) (hb : b ∈ String.utf8EncodeChar c) :
    0x80 ≤ b.toNat := by
  have hlt : ¬ c.val.toNat ≤ 0x7f := Nat.not_le_of_lt hc
  -- each byte has a mark of at least `0x80` and bits below the mark
  have hmark : ∀ bits width mark : Nat, 0 < width → 0x80 ≤ mark → width + mark ≤ 0x100 →
      0x80 ≤ (UInt8.ofNat (bits % width + mark)).toNat := by
    intro bits width mark hwidth hle hfit
    have hbits := Nat.mod_lt bits hwidth
    rw [UInt8.toNat_ofNat', Nat.mod_eq_of_lt (by omega)]
    omega
  unfold String.utf8EncodeChar at hb
  simp only [hlt, if_false] at hb
  split at hb
  · simp only [List.mem_cons, List.not_mem_nil, or_false] at hb
    rcases hb with rfl | rfl <;> exact hmark _ _ _ (by decide) (by decide) (by decide)
  · split at hb
    · simp only [List.mem_cons, List.not_mem_nil, or_false] at hb
      rcases hb with rfl | rfl | rfl <;> exact hmark _ _ _ (by decide) (by decide) (by decide)
    · simp only [List.mem_cons, List.not_mem_nil, or_false] at hb
      rcases hb with rfl | rfl | rfl | rfl <;>
        exact hmark _ _ _ (by decide) (by decide) (by decide)

/-- Texts in ASCII have one byte for each character. -/
theorem encode_of_ascii (h : Ascii cs) :
    encode (String.ofList cs) = cs.map fun c => UInt8.ofNat c.toNat := by
  rw [encode_eq_flatMap, String.toList_ofList]
  induction cs with
  | nil => rfl
  | cons c cs ih =>
    obtain ⟨hc, hcs⟩ := List.forall_mem_cons.1 h
    rw [List.flatMap_cons, utf8EncodeChar_of_lt hc, ih hcs]
    rfl

/-- A character of ASCII is one byte. -/
theorem toNat_ofNat (hc : c.toNat < 0x80) : (UInt8.ofNat c.toNat).toNat = c.toNat := by
  rw [UInt8.toNat_ofNat', Nat.mod_eq_of_lt (by omega)]

/-- A character of ASCII occurs in a text exactly if it occurs in its bytes. -/
theorem mem_encode_iff (hc : c.toNat < 0x80) : UInt8.ofNat c.toNat ∈ encode s ↔ c ∈ s.toList := by
  rw [encode_eq_flatMap, List.mem_flatMap]
  constructor
  · rintro ⟨d, hd, hmem⟩
    have hcode := toNat_ofNat hc
    by_cases hlt : d.toNat < 0x80
    · rw [utf8EncodeChar_of_lt hlt, List.mem_singleton] at hmem
      have heq : c.toNat = d.toNat := by rw [← hcode, hmem, toNat_ofNat hlt]
      rwa [Char.toNat_inj.1 heq]
    · have hle := le_of_mem_utf8EncodeChar (Nat.le_of_not_lt hlt) hmem
      omega
  · intro hmem
    refine ⟨c, hmem, ?_⟩
    rw [utf8EncodeChar_of_lt hc]
    exact List.mem_singleton_self _

/-- The same holds of what follows the first of them. -/
theorem mem_tail_encode_iff (hc : c.toNat < 0x80) :
    UInt8.ofNat c.toNat ∈ (encode s).tail ↔ c ∈ s.toList.tail := by
  have hcode := toNat_ofNat hc
  have hrest := mem_encode_iff (s := String.ofList s.toList.tail) hc
  rw [encode_eq_flatMap, String.toList_ofList] at hrest
  rw [← hrest, encode_eq_flatMap]
  cases s.toList with
  | nil => rfl
  | cons d cs =>
    have hfirst : UInt8.ofNat c.toNat ∉ (String.utf8EncodeChar d).tail := by
      intro hmem
      by_cases hd : d.toNat < 0x80
      · rw [utf8EncodeChar_of_lt hd] at hmem
        cases hmem
      · have hle := le_of_mem_utf8EncodeChar (Nat.le_of_not_lt hd) (List.mem_of_mem_tail hmem)
        omega
    rw [List.flatMap_cons, List.tail_append_of_ne_nil String.utf8EncodeChar_ne_nil, List.mem_append,
      or_iff_right hfirst, List.tail_cons]

/-- A text has no more characters than bytes. -/
theorem length_le_length_encode (s : String) : s.toList.length ≤ (encode s).length := by
  rw [encode_eq_flatMap]
  induction s.toList with
  | nil => exact Nat.le_refl 0
  | cons c cs ih =>
    have hpos : 0 < (String.utf8EncodeChar c).length :=
      List.length_pos_iff.2 String.utf8EncodeChar_ne_nil
    rw [List.flatMap_cons, List.length_append, List.length_cons]
    omega

end AnnotationBridge.Text.Utf8
