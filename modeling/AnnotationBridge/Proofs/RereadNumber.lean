import AnnotationBridge.Proofs.NumberText

/-!
# Reading numbers again

A number that was read from a text can be read again from its own text. For an integer that is no
question. Any other number is written as its shortest decimal, and the reader, which rounds the
digits and the power of ten by themselves, never takes that decimal for too large: of the greatest
numbers, for which the three roundings together might go too far, the last three are tried out.

* `Number.decimal_decimalLiteral`: the decimal that is read from the text of a decimal.
* `Number.ofDecimal?_of_neg`: decimals with negative exponents.
* `Number.ofDecimal?_of_stands`: decimals that are rounded to a number.
* `Number.Valid`: a number within the bounds. `Number.valid_of_ofLiteral?`: so are all that are
  read.
* `Number.Valid.legible`: these numbers can be read from their own texts.
-/

namespace AnnotationBridge.Number

open Magnitude (unitsPerOne Valid)

variable {cs : List Char} {d : Decimal} {n : Nat} {x : Magnitude}

/-! ### Digits that fit -/

/-- The number that digits make up behind those of another number. -/
def digitsAfter (n : Nat) (cs : List Char) : Nat :=
  cs.foldl (fun n c => n * 10 + (c.toNat - 0x30)) n

/-- Digits that are appended make a number no smaller. -/
theorem le_digitsAfter (n : Nat) (cs : List Char) : n ≤ digitsAfter n cs := by
  induction cs generalizing n with
  | nil => exact Nat.le_refl n
  | cons c cs ih =>
    have hnext : n ≤ n * 10 + (c.toNat - 0x30) := by omega
    exact Nat.le_trans hnext (ih _)

/-- Digits can be appended one part after the other. -/
theorem digitsAfter_append (n : Nat) (cs ds : List Char) :
    digitsAfter n (cs ++ ds) = digitsAfter (digitsAfter n cs) ds :=
  List.foldl_append

/-- Zeros in front do not matter. -/
theorem digitsAfter_zeros (n : Nat) (cs : List Char) :
    digitsAfter 0 (List.replicate n '0' ++ cs) = digitsAfter 0 cs := by
  induction n with
  | zero => rfl
  | succ n ih => rw [List.replicate_succ]; exact ih

/-- Zeros at the end multiply by ten. -/
theorem digitsAfter_replicate (n k : Nat) : digitsAfter n (List.replicate k '0') = n * Nat.pow 10 k := by
  induction k generalizing n with
  | zero => exact (Nat.mul_one n).symm
  | succ k ih =>
    rw [List.replicate_succ]
    calc digitsAfter (n * 10 + ('0'.toNat - 0x30)) (List.replicate k '0')
        = n * 10 * Nat.pow 10 k := ih _
      _ = n * (Nat.pow 10 k * 10) := by rw [Nat.mul_assoc, Nat.mul_comm 10]

/-- Digits are all appended if the number that they make up stays below the bound. -/
theorem appendDigits_of_lt (h : digitsAfter n cs < significandBound) :
    appendDigits n cs = (digitsAfter n cs, 0) := by
  induction cs generalizing n with
  | nil => rfl
  | cons c cs ih =>
    rw [appendDigits, if_pos (Nat.lt_of_le_of_lt (le_digitsAfter _ cs) h)]
    exact ih h

/-- A literal with few digits stands for all of them. -/
theorem Literal.decimal_of_lt (l : Literal)
    (h : digitsAfter 0 (l.whole ++ l.fraction.getD []) < significandBound) :
    l.decimal = ⟨digitsAfter 0 (l.whole ++ l.fraction.getD []),
      l.exponent.getD 0 - (l.fraction.getD []).length⟩ := by
  rw [digitsAfter_append] at h ⊢
  have hwhole := appendDigits_of_lt (Nat.lt_of_le_of_lt (le_digitsAfter _ _) h)
  unfold decimal
  simp only [hwhole, appendDigits_of_lt h]
  congr 1
  omega

/-- A literal whose digits are those of a number below the bound, apart from zeros in front. -/
theorem Literal.decimal_eq {l : Literal} (zeros : Nat) (hd : d.digits < significandBound)
    (hdigits : l.whole ++ l.fraction.getD [] =
      List.replicate zeros '0' ++ Nat.toDigits 10 d.digits) :
    l.decimal = ⟨d.digits, l.exponent.getD 0 - (l.fraction.getD []).length⟩ := by
  have hvalue : digitsAfter 0 (l.whole ++ l.fraction.getD []) = d.digits := by
    rw [hdigits, digitsAfter_zeros]
    exact ofDigits_toDigits d.digits
  rw [l.decimal_of_lt (by rwa [hvalue]), hvalue]

/-- The decimal that the text of a decimal is read as. A whole number of at most sixteen digits is
written out, with a zero behind the point. -/
def pointed (d : Decimal) : Decimal :=
  if 0 ≤ d.exponent ∧ (Nat.toDigits 10 d.digits).length + d.exponent ≤ 16 then
    ⟨d.digits * Nat.pow 10 (d.exponent.toNat + 1), -1⟩
  else d

/-- The digits of a whole number that is written out fit. -/
theorem digits_pointed_lt (he : 0 ≤ d.exponent)
    (hplaces : (Nat.toDigits 10 d.digits).length + d.exponent ≤ 16) :
    d.digits * Nat.pow 10 (d.exponent.toNat + 1) < significandBound := by
  have hdigits : d.digits < Nat.pow 10 (Nat.toDigits 10 d.digits).length :=
    (Nat.length_toDigits_le_iff (by decide) Nat.length_toDigits_pos).1 (Nat.le_refl _)
  calc d.digits * Nat.pow 10 (d.exponent.toNat + 1)
      < Nat.pow 10 (Nat.toDigits 10 d.digits).length * Nat.pow 10 (d.exponent.toNat + 1) :=
        Nat.mul_lt_mul_of_pos_right hdigits (Magnitude.pow_ten_pos _)
    _ = Nat.pow 10 ((Nat.toDigits 10 d.digits).length + (d.exponent.toNat + 1)) :=
        (Nat.pow_add 10 _ _).symm
    _ ≤ Nat.pow 10 17 := Nat.pow_le_pow_right (by decide) (by omega)
    _ < significandBound := by decide

/-- **A decimal is read from its text**, only that a whole number may end in a zero behind the
point. -/
theorem decimal_decimalLiteral (negative : Bool) (h : d.digits < significandBound) :
    (decimalLiteral negative d).decimal = pointed d := by
  have hpos : 0 < (Nat.toDigits 10 d.digits).length := Nat.length_toDigits_pos
  unfold decimalLiteral pointed
  dsimp only
  split
  · rename_i hwhole
    have hvalue : digitsAfter 0 (Nat.toDigits 10 d.digits ++ List.replicate d.exponent.toNat '0' ++
        ['0']) = d.digits * Nat.pow 10 (d.exponent.toNat + 1) := by
      rw [List.append_assoc, ← List.replicate_succ', digitsAfter_append, digitsAfter_replicate]
      exact congrArg (· * _) (ofDigits_toDigits d.digits)
    rw [Literal.decimal_of_lt _ (hvalue ▸ digits_pointed_lt hwhole.1 hwhole.2)]
    exact congrArg (Decimal.mk · _) hvalue
  · rename_i hwhole
    split
    · rw [Literal.decimal_eq 0 h (List.take_append_drop _ _)]
      refine congrArg (Decimal.mk d.digits) ?_
      simp
      omega
    · split
      · rename_i hplaces
        rw [Literal.decimal_eq ((-((Nat.toDigits 10 d.digits).length + d.exponent)).toNat + 1) h
          (by rw [List.replicate_succ]; rfl)]
        refine congrArg (Decimal.mk d.digits) ?_
        simp
        omega
      · have hdecimal : ∀ o : Option (List Char), o.getD [] = (Nat.toDigits 10 d.digits).drop 1 →
            (Literal.mk negative ((Nat.toDigits 10 d.digits).take 1) o
              (some ((Nat.toDigits 10 d.digits).length + d.exponent - 1))).decimal = d := by
          intro o ho
          rw [Literal.decimal_eq 0 h (by rw [ho]; exact List.take_append_drop _ _), ho]
          have hexponent : ((Nat.toDigits 10 d.digits).length + d.exponent - 1 : Int) -
              ((Nat.toDigits 10 d.digits).drop 1).length = d.exponent := by
            rw [List.length_drop]
            omega
          exact congrArg (Decimal.mk d.digits) hexponent
        refine hdecimal _ ?_
        split
        · rename_i hone
          exact (List.drop_of_length_le (Nat.le_of_eq hone)).symm
        · rfl

/-! ### Powers of ten -/

/-- Powers of ten grow with the exponent. -/
theorem pow_ten_le {m n : Nat} (h : m ≤ n) : Nat.pow 10 m ≤ Nat.pow 10 n :=
  Nat.pow_le_pow_right (by decide) h

/-- Powers of ten are multiplied by adding the exponents. -/
theorem pow_ten_add (m n : Nat) : Nat.pow 10 (m + n) = Nat.pow 10 m * Nat.pow 10 n :=
  Nat.pow_add 10 m n

/-- A power of ten that is small enough is rounded to a number. -/
theorem power_isSome_of_le {m : Nat} (h : n ≤ m)
    (hm : Nat.pow 10 m * unitsPerOne ≤ Nat.pow 2 Magnitude.maxExponent * Nat.pow 2 52) :
    (Magnitude.ofNat? (Nat.pow 10 n)).isSome = true :=
  Magnitude.ofNat?_isSome (Nat.le_trans (Nat.mul_le_mul_right _ (pow_ten_le h)) hm)

/-- The powers of ten up to the greatest are numbers. -/
theorem power_isSome (h : n ≤ maxPower) : (Magnitude.ofNat? (Nat.pow 10 n)).isSome = true := by
  obtain rfl | hlt := Nat.eq_or_lt_of_le h
  · decide +kernel
  · exact power_isSome_of_le (m := 307) (Nat.le_of_lt_succ hlt) (by decide +kernel)

/-- A rounded power of ten is at least one half. -/
theorem unitsPerOne_le_power {p : Magnitude} (h : Magnitude.ofNat? (Nat.pow 10 n) = some p) :
    unitsPerOne ≤ 2 * p.units := by
  refine Nat.le_trans ?_ (Magnitude.le_ofNat? h)
  exact Nat.le_mul_of_pos_left _ (Magnitude.pow_ten_pos n)

/-- A rounded power of ten is positive. -/
theorem power_units_pos {p : Magnitude} (h : Magnitude.ofNat? (Nat.pow 10 n) = some p) :
    0 < p.units := by
  have hle := unitsPerOne_le_power h
  have hpos := Magnitude.unitsPerOne_pos
  omega

/-- From ten on it is at least four. -/
theorem four_le_power {p : Magnitude} (hn : 1 ≤ n) (h : Magnitude.ofNat? (Nat.pow 10 n) = some p) :
    4 * unitsPerOne ≤ p.units := by
  have hle := Magnitude.le_ofNat? h
  have hten : Nat.pow 10 1 * unitsPerOne ≤ Nat.pow 10 n * unitsPerOne :=
    Nat.mul_le_mul_right _ (pow_ten_le hn)
  rw [show Nat.pow 10 1 = 10 from rfl] at hten
  generalize Nat.pow 10 n * unitsPerOne = power at hle hten
  omega

/-- Dividing by a power of ten never goes too far. -/
theorem dividedByPower?_isSome (hx : x.units ≤ unitsPerOne * Nat.pow 2 66) (n : Nat) :
    (dividedByPower? x n).isSome = true := by
  induction n using Nat.strongRecOn generalizing x with
  | ind n ih =>
    rw [dividedByPower?]
    split
    · rename_i hle
      obtain ⟨p, hp⟩ := Option.isSome_iff_exists.1 (power_isSome hle)
      rw [hp, Option.bind_some]
      exact Magnitude.div?_isSome hx (unitsPerOne_le_power hp)
    · rename_i hgt
      split
      · rfl
      · obtain ⟨p, hp⟩ := Option.isSome_iff_exists.1 (power_isSome (Nat.le_refl maxPower))
        obtain ⟨r, hr⟩ := Option.isSome_iff_exists.1 (Magnitude.div?_isSome hx (unitsPerOne_le_power hp))
        have hlarge := four_le_power (by decide) hp
        rw [hp, Option.bind_eq_bind, Option.bind_some, hr, Option.bind_some]
        refine ih _ ?_ (Nat.le_trans (Magnitude.div?_le hlarge hr) hx)
        have : maxPower = 308 := rfl
        omega

/-- The digits of a decimal are a number. -/
theorem exists_digits (hd : n < significandBound) :
    ∃ x, Magnitude.ofNat? n = some x ∧ x.units ≤ unitsPerOne * Nat.pow 2 66 := by
  have hbound : significandBound * unitsPerOne ≤ Nat.pow 2 Magnitude.maxExponent * Nat.pow 2 52 := by
    decide +kernel
  obtain ⟨x, hx⟩ := Option.isSome_iff_exists.1
    (Magnitude.ofNat?_isSome (Nat.le_trans (Nat.mul_le_mul_right _ (Nat.le_of_lt hd)) hbound))
  refine ⟨x, hx, ?_⟩
  have hconst : significandBound * (Magnitude.significandBound + 1) ≤
      Nat.pow 2 66 * Magnitude.significandBound := by decide
  have hmul : x.units * Magnitude.significandBound ≤
      unitsPerOne * Nat.pow 2 66 * Magnitude.significandBound := by
    calc x.units * Magnitude.significandBound
        ≤ n * unitsPerOne * (Magnitude.significandBound + 1) := Magnitude.ofNat?_le hx
      _ ≤ significandBound * unitsPerOne * (Magnitude.significandBound + 1) :=
        Nat.mul_le_mul_right _ (Nat.mul_le_mul_right _ (Nat.le_of_lt hd))
      _ = unitsPerOne * (significandBound * (Magnitude.significandBound + 1)) := by
        rw [Nat.mul_comm significandBound, Nat.mul_assoc]
      _ ≤ unitsPerOne * (Nat.pow 2 66 * Magnitude.significandBound) := Nat.mul_le_mul_left _ hconst
      _ = unitsPerOne * Nat.pow 2 66 * Magnitude.significandBound := (Nat.mul_assoc _ _ _).symm
  exact Nat.le_of_mul_le_mul_right hmul (Magnitude.pow_two_pos 53)

/-- **A decimal with a negative exponent is never too large.** -/
theorem ofDecimal?_of_neg (hd : d.digits < significandBound) (he : d.exponent < 0) :
    (ofDecimal? d).isSome = true := by
  obtain ⟨x, hx, hbound⟩ := exists_digits hd
  rw [ofDecimal?, hx, Option.bind_some, if_neg (Int.not_le.2 he)]
  exact dividedByPower?_isSome hbound _

/-! ### Decimals of numbers -/

/-- A decimal is at most half a step of the number above it. -/
theorem stands_le (hd : d.Stands x) (he : 0 ≤ d.exponent) :
    d.digits * Nat.pow 10 d.exponent.toNat * (2 * unitsPerOne) ≤
      (2 * x.significand + 1) * Nat.pow 2 x.exponent := by
  have hle := (Magnitude.span_contains_le hd.within).2
  have hexponent : (d.exponent + Magnitude.decimalShift).toNat =
      d.exponent.toNat + Magnitude.decimalShift := by omega
  rw [Decimal.shifted, hexponent, pow_ten_add] at hle
  unfold Magnitude.span at hle
  dsimp only at hle
  have hpos := Magnitude.pow_ten_pos Magnitude.decimalShift
  generalize Nat.pow 10 Magnitude.decimalShift = shift at hle hpos
  generalize Nat.pow 10 d.exponent.toNat = power at hle ⊢
  generalize Nat.pow 2 x.exponent = step at hle ⊢
  generalize unitsPerOne = one at hle ⊢
  have hmul : d.digits * power * (2 * one) * (2 * shift) ≤
      (2 * x.significand + 1) * step * (2 * shift) := by
    calc d.digits * power * (2 * one) * (2 * shift)
        = d.digits * (power * shift) * (4 * one) := by ring
      _ ≤ 4 * x.significand * (step * shift) + 2 * (step * shift) := hle
      _ = (2 * x.significand + 1) * step * (2 * shift) := by ring
  exact Nat.le_of_mul_le_mul_right hmul (by omega)

/-- The exponent of a decimal that is rounded to a number is bounded. -/
theorem exponent_lt_of_stands {m : Nat} (hx : x.Valid) (hd : d.Stands x) (he : 0 ≤ d.exponent)
    (hm : 2 * Magnitude.significandBound * Nat.pow 2 Magnitude.maxExponent <
      Nat.pow 10 m * (2 * unitsPerOne)) : d.exponent.toNat < m := by
  by_contra hge
  have hten : Nat.pow 10 m ≤ d.digits * Nat.pow 10 d.exponent.toNat :=
    Nat.le_trans (pow_ten_le (Nat.le_of_not_lt hge)) (Nat.le_mul_of_pos_left _ hd.pos)
  have hnumber : (2 * x.significand + 1) * Nat.pow 2 x.exponent ≤
      2 * Magnitude.significandBound * Nat.pow 2 Magnitude.maxExponent := by
    have hsig := hx.significand_lt
    exact Nat.mul_le_mul (by omega) (Magnitude.pow_two_le hx.exponent_le)
  have hpower := Nat.mul_le_mul_right (2 * unitsPerOne) hten
  exact Nat.lt_irrefl _ (Nat.lt_of_lt_of_le hm
    (Nat.le_trans hpower (Nat.le_trans (stands_le hd he) hnumber)))

/-- A decimal that is no greater than a number has an exponent within the bounds. -/
theorem exponent_le_of_stands (hx : x.Valid) (hd : d.Stands x) (he : 0 ≤ d.exponent) :
    d.exponent.toNat ≤ maxPower :=
  Nat.le_of_lt_succ (exponent_lt_of_stands (m := 309) hx hd he (by decide +kernel))

/-- Two factors that are rounded up by one part in `s` give a product below the bound. -/
theorem product_lt {a b digits power one s top c : Nat} (ha : a * s ≤ digits * one * (s + 1))
    (hb : b * s ≤ power * one * (s + 1)) (hexact : digits * power * (2 * one) ≤ top * c)
    (hc : c * ((s + 1) * (s + 1)) + s * s < 2 * (s * s * s)) (hpos : 0 < one * one * top) :
    2 * (a * b * one) + one * one * top < 2 * (one * one * top * s) := by
  have hproduct : 2 * (a * b * one) * (s * s) ≤
      one * one * top * (c * ((s + 1) * (s + 1))) := by
    calc 2 * (a * b * one) * (s * s) = 2 * one * ((a * s) * (b * s)) := by ring
      _ ≤ 2 * one * ((digits * one * (s + 1)) * (power * one * (s + 1))) :=
        Nat.mul_le_mul_left _ (Nat.mul_le_mul ha hb)
      _ = digits * power * (2 * one) * (one * one * ((s + 1) * (s + 1))) := by ring
      _ ≤ top * c * (one * one * ((s + 1) * (s + 1))) := Nat.mul_le_mul_right _ hexact
      _ = one * one * top * (c * ((s + 1) * (s + 1))) := by ring
  refine Nat.lt_of_mul_lt_mul_right (a := s * s) ?_
  calc (2 * (a * b * one) + one * one * top) * (s * s)
      = 2 * (a * b * one) * (s * s) + one * one * top * (s * s) := Nat.add_mul _ _ _
    _ ≤ one * one * top * (c * ((s + 1) * (s + 1))) + one * one * top * (s * s) :=
      Nat.add_le_add_right hproduct _
    _ = one * one * top * (c * ((s + 1) * (s + 1)) + s * s) := (Nat.mul_add _ _ _).symm
    _ < one * one * top * (2 * (s * s * s)) := Nat.mul_lt_mul_of_pos_left hc hpos
    _ = 2 * (one * one * top * s) * (s * s) := by ring

/-- **A decimal that is no greater than a number is not too large**, unless the number is one of the
three greatest. -/
theorem ofDecimal?_of_stands (hx : x.Valid) (hd : d.Stands x) (he : 0 ≤ d.exponent)
    (hlow : x.significand + 4 ≤ Magnitude.significandBound ∨ x.exponent < Magnitude.maxExponent) :
    (ofDecimal? d).isSome = true := by
  have hdigits : d.digits < significandBound := Nat.lt_trans hd.digits_lt (by decide)
  have hpower := exponent_le_of_stands hx hd he
  obtain ⟨a, ha, -⟩ := exists_digits hdigits
  obtain ⟨b, hb⟩ := Option.isSome_iff_exists.1 (power_isSome hpower)
  rw [ofDecimal?, ha, Option.bind_some, if_pos he, timesPower?, if_pos hpower, hb, Option.bind_some]
  refine Magnitude.ofRatio?_isSome ?_
  have hpos : 0 < unitsPerOne * unitsPerOne * Nat.pow 2 Magnitude.maxExponent :=
    Nat.mul_pos (Nat.mul_pos Magnitude.unitsPerOne_pos Magnitude.unitsPerOne_pos)
      (Magnitude.pow_two_pos _)
  have hle := stands_le hd he
  have hsig := hx.significand_lt
  obtain hlow | hlow := hlow
  · refine product_lt (c := 2 * Magnitude.significandBound - 7) (Magnitude.ofNat?_le ha)
      (Magnitude.ofNat?_le hb) (Nat.le_trans hle ?_) (by decide) hpos
    rw [Nat.mul_comm]
    exact Nat.mul_le_mul (Magnitude.pow_two_le hx.exponent_le) (by omega)
  · refine product_lt (c := Magnitude.significandBound) (Magnitude.ofNat?_le ha)
      (Magnitude.ofNat?_le hb) (Nat.le_trans hle ?_) (by decide) hpos
    have hstep := Magnitude.pow_two_mul_two_le hlow
    calc (2 * x.significand + 1) * Nat.pow 2 x.exponent
        ≤ 2 * Magnitude.significandBound * Nat.pow 2 x.exponent :=
          Nat.mul_le_mul_right _ (by omega)
      _ = Nat.pow 2 x.exponent * 2 * Magnitude.significandBound := by
        rw [Nat.mul_comm, Nat.mul_assoc]
      _ ≤ Nat.pow 2 Magnitude.maxExponent * Magnitude.significandBound :=
        Nat.mul_le_mul_right _ hstep

/-- The three greatest numbers can be read from their shortest decimals. -/
theorem ofDecimal?_shortest_greatest : ∀ k < 3, (ofDecimal? (Magnitude.shortest
    ⟨Magnitude.significandBound - 3 + k, Magnitude.maxExponent⟩)).isSome = true := by
  decide +kernel

/-! ### Numbers that were read -/

/-- A quotient by a power of ten is within the bounds. -/
theorem valid_of_dividedByPower? {r : Magnitude} (hx : x.Valid)
    (h : dividedByPower? x n = some r) : r.Valid := by
  induction n using Nat.strongRecOn generalizing x with
  | ind n ih =>
    rw [dividedByPower?] at h
    split at h
    · obtain ⟨p, hp, hr⟩ := Option.bind_eq_some_iff.1 h
      exact (Magnitude.ofRatio?_eq_some (power_units_pos hp) hr).1
    · rename_i hgt
      split at h
      · cases h
        exact hx
      · obtain ⟨p, hp, h⟩ := Option.bind_eq_some_iff.1 h
        obtain ⟨y, hy, h⟩ := Option.bind_eq_some_iff.1 h
        refine ih _ ?_ (Magnitude.ofRatio?_eq_some (power_units_pos hp) hy).1 h
        have : maxPower = 308 := rfl
        omega

/-- What a decimal is read as is within the bounds. -/
theorem valid_of_ofDecimal? (h : ofDecimal? d = some x) : x.Valid := by
  obtain ⟨y, hy, h⟩ := Option.bind_eq_some_iff.1 h
  have hvalid := (Magnitude.ofRatio?_eq_some Nat.one_pos hy).1
  have hone := Nat.mul_pos Magnitude.unitsPerOne_pos Magnitude.unitsPerOne_pos
  split at h
  · unfold timesPower? at h
    split at h
    · obtain ⟨p, -, hr⟩ := Option.bind_eq_some_iff.1 h
      exact (Magnitude.ofRatio?_eq_some hone hr).1
    · split at h
      · cases h
        exact hvalid
      · cases h
  · exact valid_of_dividedByPower? hvalid h

/-- A number within the bounds of its kind. -/
def Valid : Number → Prop
  | integer n => Int64.minValue.toInt ≤ n ∧ n < UInt64.size
  | real x => x.magnitude.Valid

/-- **A number that was read from a text is within the bounds.** -/
theorem valid_of_ofLiteral? {n : Number} (h : ofLiteral? cs = some (some n)) : n.Valid := by
  unfold ofLiteral? at h
  obtain ⟨l, -, h⟩ := Option.bind_eq_some_iff.1 h
  dsimp only at h
  generalize (if l.negative = true then -(ofDigits l.whole : Int) else ofDigits l.whole) = k at h
  split at h
  · rename_i hinteger
    cases h
    exact ⟨hinteger.2.2.1, hinteger.2.2.2.1⟩
  · obtain ⟨x, hx, rfl⟩ := Option.map_eq_some_iff.1 (Option.some.inj h)
    exact valid_of_ofDecimal? hx

/-! ### Numbers that are read again -/

/-- The shortest decimal of a number within the bounds is not too large to be read. -/
theorem ofDecimal?_shortest (hx : x.Valid) (he : 0 ≤ x.shortest.exponent)
    (hstands : x.shortest.Stands x) : (ofDecimal? x.shortest).isSome = true := by
  -- For the three greatest numbers the bound on three roundings together does not suffice.
  by_cases hlow : x.significand + 4 ≤ Magnitude.significandBound ∨ x.exponent < Magnitude.maxExponent
  · exact ofDecimal?_of_stands hx hstands he hlow
  · obtain ⟨significand, exponent⟩ := x
    obtain ⟨hlt, hle, -⟩ := hx
    dsimp only at hlow hlt hle
    obtain ⟨hsig, hexponent⟩ := not_or.1 hlow
    obtain rfl : exponent = Magnitude.maxExponent :=
      Nat.le_antisymm hle (Nat.le_of_not_lt hexponent)
    have hthree : 3 ≤ Magnitude.significandBound := by decide
    obtain ⟨k, hk, rfl⟩ : ∃ k < 3, significand = Magnitude.significandBound - 3 + k :=
      ⟨significand + 3 - Magnitude.significandBound, by omega, by omega⟩
    exact ofDecimal?_shortest_greatest k hk

/-- A double-precision number can be read from its text. -/
theorem legible_of_valid {x : Double} (hx : x.magnitude.Valid) : (real x).Legible := by
  obtain ⟨negative, x⟩ := x
  refine legible_real ?_
  show (ofDecimal? (decimalLiteral negative x.shortest).decimal).isSome = true
  obtain hzero | hstands := x.shortest_cases
  · rw [hzero]
    cases negative <;> decide +kernel
  · have hdigits := Nat.lt_trans hstands.digits_lt (by decide : _ < significandBound)
    rw [decimal_decimalLiteral negative hdigits, pointed]
    split
    · rename_i hwhole
      exact ofDecimal?_of_neg (digits_pointed_lt hwhole.1 hwhole.2) (by dsimp only; decide)
    · obtain he | he := Int.lt_or_le x.shortest.exponent 0
      · exact ofDecimal?_of_neg hdigits he
      · exact ofDecimal?_shortest hx he hstands

/-- **A number can be read from its text.** -/
theorem Valid.legible {n : Number} (h : n.Valid) : n.Legible := by
  cases n with
  | integer n => exact legible_integer h.1 h.2
  | real x => exact legible_of_valid h

end AnnotationBridge.Number
