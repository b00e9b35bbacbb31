import AnnotationBridge.Domain.Label
import AnnotationBridge.Uri.Reference

/-!
# Domain names

A `Name` is the sequence of the labels of a domain name, each in the form that Unicode text has for
it. Names that differ only in letter case, in variants of letters or in the use of Punycode are the
same.

* `Name.ofText?`: the name that a text stands for.
* `Name.endsInNumber`, `Name.isAddress`: names that are IPv4 addresses.
-/

namespace AnnotationBridge.Domain

/-- A domain name. -/
abbrev Name := List Label

namespace Name

/-! ### Reading -/

/-- Whether a character is forbidden in the name of a host. -/
def isForbidden (c : Char) : Bool :=
  c.toNat ≤ 0x20 || c.toNat == 0x7F || "#/:<>?@[\\]^|%".toList.contains c

/-- Whether the labels of a name agree in direction: if one runs from right to left, each of them
keeps to its own direction. -/
def isDirected (n : Name) : Bool :=
  !n.any Label.runsRightToLeft || n.all Label.isDirected

/-- The name that a text stands for. An empty text stands for none. -/
def ofText? (cs : List Char) : Option Name := do
  let mapped ← Mapping.ofText? cs
  let name ← (Reference.splitAtChar '.' mapped).mapM Label.ofMapped?
  if mapped ≠ [] ∧ !mapped.any isForbidden ∧ !name.flatten.any isForbidden ∧ isDirected name then
    some name
  else none

/-! ### Addresses -/

/-- The value of digits in a number system, if they are such digits. -/
def natural? (base : Nat) (digits : List Char) : Option Nat :=
  digits.foldlM (fun n c => do
    let d ← Percent.hexValue? c
    if d < base then some (n * base + d) else none) 0

/-- The number that a label writes: a hexadecimal one after `0x`, an octal one after a zero, and a
decimal one otherwise. -/
def number? : Label → Option Nat
  | [] => none
  | '0' :: 'x' :: digits => natural? 16 digits
  | '0' :: d :: digits => natural? 8 (d :: digits)
  | digits => natural? 10 digits

/-- The labels of a name without an empty one at the end. -/
def withoutRoot (n : Name) : Name :=
  if n.getLast? = some [] then n.dropLast else n

/-- Whether the last label of a name is a number or at least made of digits. -/
def endsInNumber (n : Name) : Bool :=
  match n.withoutRoot.getLast? with
  | none | some [] => false
  | some l => l.all Char.isDigit || (number? l).isSome

/-- Whether the numbers are an address: the last one fills the bytes that the others, of one byte
each, leave of four. -/
def fitAddress : List Nat → Bool
  | [] => false
  | n :: ns => ns.length < 4 && ns.all (· < 256) && n < Nat.pow 256 (4 - ns.length)

/-- Whether a name is an address. -/
def isAddress (n : Name) : Bool :=
  match n.withoutRoot.mapM number? with
  | none => false
  | some numbers => fitAddress numbers.reverse

end Name

end AnnotationBridge.Domain
