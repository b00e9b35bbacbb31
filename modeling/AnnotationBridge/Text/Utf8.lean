/-!
# Bytes and text

* `Utf8.encode`: the bytes of a text.
* `Utf8.decode?`: the text of well-formed bytes.
* `Utf8.display`: a text for any bytes; each longest beginning of a character that is not completed,
  and each byte that begins none, is shown as the replacement character.
-/

namespace AnnotationBridge.Text.Utf8

/-- The bytes of a text. -/
def encode (s : String) : List UInt8 :=
  s.toUTF8.data.toList

/-- The text of well-formed bytes. -/
def decode? (bytes : List UInt8) : Option String :=
  String.fromUTF8? ⟨bytes.toArray⟩

/-- What a lead byte of a longer character announces: its own bits, the range of the byte after it,
and the number of bytes after that one. -/
structure Lead where
  bits : Nat
  low : Nat
  high : Nat
  more : Nat

/-- The announcement of a lead byte, if it begins a character of several bytes. -/
def Lead.ofByte (b : Nat) : Option Lead :=
  if 0xC2 ≤ b && b ≤ 0xDF then some ⟨b - 0xC0, 0x80, 0xBF, 0⟩
  else if b = 0xE0 then some ⟨0, 0xA0, 0xBF, 1⟩
  else if b = 0xED then some ⟨0xD, 0x80, 0x9F, 1⟩
  else if 0xE1 ≤ b && b ≤ 0xEF then some ⟨b - 0xE0, 0x80, 0xBF, 1⟩
  else if b = 0xF0 then some ⟨0, 0x90, 0xBF, 2⟩
  else if 0xF1 ≤ b && b ≤ 0xF3 then some ⟨b - 0xF0, 0x80, 0xBF, 2⟩
  else if b = 0xF4 then some ⟨4, 0x80, 0x8F, 2⟩
  else none

/-- Reads `more` continuation bytes after the bits `acc`: the code point, or `none` if they are not
all there, and the rest of the bytes. -/
def continuation (acc : Nat) : (more : Nat) → List UInt8 → Option Nat × List UInt8
  | 0, bytes => (some acc, bytes)
  | _ + 1, [] => (none, [])
  | more + 1, b :: bytes =>
    if 0x80 ≤ b.toNat && b.toNat ≤ 0xBF then continuation (acc * 64 + (b.toNat - 0x80)) more bytes
    else (none, b :: bytes)

/-- Continuation bytes are taken off the text. -/
theorem continuation_length_le (acc more : Nat) (bytes : List UInt8) :
    (continuation acc more bytes).2.length ≤ bytes.length := by
  induction more generalizing acc bytes with
  | zero => simp [continuation]
  | succ more ih =>
    cases bytes with
    | nil => simp [continuation]
    | cons b bytes =>
      unfold continuation
      split
      · exact Nat.le_trans (ih _ _) (by simp)
      · simp

/-- Reads the bytes after a lead byte. -/
def afterLead (lead : Lead) : List UInt8 → Option Nat × List UInt8
  | [] => (none, [])
  | b :: bytes =>
    if lead.low ≤ b.toNat && b.toNat ≤ lead.high then
      continuation (lead.bits * 64 + (b.toNat - 0x80)) lead.more bytes
    else (none, b :: bytes)

/-- What follows a lead byte is taken off the text. -/
theorem afterLead_length_le (lead : Lead) (bytes : List UInt8) :
    (afterLead lead bytes).2.length ≤ bytes.length := by
  cases bytes with
  | nil => simp [afterLead]
  | cons b bytes =>
    rw [afterLead]
    split
    · exact Nat.le_trans (continuation_length_le _ _ _) (by simp)
    · simp

/-- The character shown in place of bytes that form none. -/
def replacement : Char := '\uFFFD'

/-- The characters of any bytes, with replacements for what is ill-formed. -/
def displayChars : List UInt8 → List Char
  | [] => []
  | b :: bytes =>
    if b.toNat < 0x80 then Char.ofNat b.toNat :: displayChars bytes
    else match Lead.ofByte b.toNat with
      | none => replacement :: displayChars bytes
      | some lead =>
        ((afterLead lead bytes).1.map Char.ofNat).getD replacement ::
          displayChars (afterLead lead bytes).2
  termination_by bytes => bytes.length
  decreasing_by
    · simp
    · simp
    · have := afterLead_length_le lead bytes
      simp; omega

/-- A text for any bytes. -/
def display (bytes : List UInt8) : String :=
  (decode? bytes).getD (String.ofList (displayChars bytes))

end AnnotationBridge.Text.Utf8
