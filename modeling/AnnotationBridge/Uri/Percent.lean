import AnnotationBridge.Path

/-!
# Percent escapes

A byte is written as `%` and two hexadecimal digits.

* `Percent.encode`: bytes with escapes for all but the bytes that stand for themselves.
* `Percent.decode`: the bytes of a text with escapes; a `%` that starts none stands for itself.
-/

namespace AnnotationBridge.Percent

/-- The value of a hexadecimal digit. -/
def hexValue? (c : Char) : Option Nat :=
  if '0' ≤ c && c ≤ '9' then some (c.toNat - 0x30)
  else if 'A' ≤ c && c ≤ 'F' then some (c.toNat - 0x37)
  else if 'a' ≤ c && c ≤ 'f' then some (c.toNat - 0x57)
  else none

/-- The upper-case digit of a value below sixteen. -/
def hexDigit (n : Nat) : Char :=
  Char.ofNat (if n < 10 then 0x30 + n else 0x37 + n)

/-- The value of a hexadecimal digit is read back. -/
theorem hexValue?_hexDigit {n : Nat} (h : n < 16) : hexValue? (hexDigit n) = some n := by
  have : ∀ n : Fin 16, hexValue? (hexDigit n) = some n.1 := by decide
  exact this ⟨n, h⟩

/-- The escape of a byte. -/
def escape (b : UInt8) : List Char :=
  ['%', hexDigit (b.toNat / 16), hexDigit (b.toNat % 16)]

/-- One byte, escaped unless it stands for itself. -/
def encodeByte (plain : UInt8 → Bool) (b : UInt8) : List Char :=
  if plain b then [Char.ofNat b.toNat] else escape b

/-- Bytes with escapes for those that do not stand for themselves. -/
def encode (plain : UInt8 → Bool) (bytes : List UInt8) : List Char :=
  bytes.flatMap (encodeByte plain)

/-- Nothing is escaped as nothing. -/
@[simp] theorem encode_nil (plain : UInt8 → Bool) : encode plain [] = [] := rfl

/-- Bytes are escaped one by one. -/
@[simp] theorem encode_cons (plain : UInt8 → Bool) (b : UInt8) (bytes : List UInt8) :
    encode plain (b :: bytes) = encodeByte plain b ++ encode plain bytes := rfl

/-- The bytes of an ASCII text with escapes. -/
def decode : List Char → List UInt8
  | [] => []
  | '%' :: h :: l :: rest =>
    match hexValue? h, hexValue? l with
    | some hi, some lo => UInt8.ofNat (hi * 16 + lo) :: decode rest
    | _, _ => 0x25 :: decode (h :: l :: rest)
  | c :: rest => UInt8.ofNat c.toNat :: decode rest

end AnnotationBridge.Percent
