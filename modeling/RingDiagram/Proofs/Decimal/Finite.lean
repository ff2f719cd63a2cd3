import RingDiagram.Proofs.Decimal.Writing

/-!
# Finite doubles

A double is finite unless the bits of its exponent are all set (`isFinite_unpack_iff`), and that is
what it is decoded as (`isFinite_ofFloat`). Arithmetic does not bring it back: a sum is finite only
if its first term is (`isFinite_of_isFinite_add`), and a quotient only if its numerator is
(`isFinite_of_isFinite_div`).
-/

namespace RingDiagram.Decimal

open Float.Model

theorem isFinite_unpack_iff {format : Format} {bits : BitVec format.numBits} :
    (UnpackedFloat.unpack format bits).isFinite = true ↔
      UnpackedFloat.unpackExponent bits ≠ -1#_ := by
  unfold UnpackedFloat.unpack
  dsimp only
  by_cases h : UnpackedFloat.unpackExponent bits = -1#_
  · -- with all bits set it is an infinity or not a number
    rw [if_pos h]
    refine iff_of_false ?_ (not_not_intro h)
    split <;> exact Bool.false_ne_true
  · rw [if_neg h]
    refine iff_of_true ?_ h
    -- zero and the subnormal doubles have an exponent without bits
    by_cases h_exponent : UnpackedFloat.unpackExponent bits = 0#_
    · rw [if_pos h_exponent]
      by_cases h_mantissa : UnpackedFloat.unpackMantissa bits = 0#_
      · rw [dif_pos h_mantissa]
        rfl
      · rw [dif_neg h_mantissa]
        rfl
    · rw [if_neg h_exponent]
      rfl

/-- **A double is decoded** as finite exactly if it is. -/
theorem isFinite_ofFloat (x : Float) : (Binary64.ofFloat x).isFinite = x.isFinite := by
  let bits : BitVec Format.binary64.numBits := x.toBits.toBitVec
  -- both look at the same eleven bits
  have h_exponent : (UnpackedFloat.unpackExponent bits).toNat =
      x.toBits.toNat / leadingMantissa % twoTo 11 := by
    rw [UnpackedFloat.unpackExponent, BitVec.toNat_cast, BitVec.extractLsb_toNat,
      Nat.shiftRight_eq_div_pow]
    rfl
  have h_finite : x.isFinite = true ↔ x.toBits.toNat / leadingMantissa % twoTo 11 ≠ 2047 := by
    rw [← h_exponent]
    refine isFinite_unpack_iff.trans (not_congr ?_)
    rw [← BitVec.toNat_inj]
    rfl
  rw [Bool.eq_iff_iff, h_finite]
  unfold Binary64.ofFloat Binary64.ofBits
  dsimp only
  split
  · -- all bits of the exponent are set
    next h =>
    refine iff_of_false ?_ (not_not_intro h)
    split <;> exact Bool.false_ne_true
  · next h =>
    -- a subnormal double or a normal one
    refine iff_of_true ?_ h
    split <;> rfl

/-! ### Arithmetic -/

/-- The result of an operation was finite before it was packed. -/
theorem isFinite_of_pack {u : UnpackedFloat} (h : (Float.ofModel (pack u)).isFinite = true) :
    u.isFinite = true := by
  -- what is not finite is packed with all bits of the exponent set
  have h_exponent := isFinite_unpack_iff.1 h
  cases u with
  | zero | finite => rfl
  | notANumber => exact absurd UnpackedFloat.unpackExponent_packComponents h_exponent
  | infinity sign => exact absurd UnpackedFloat.unpackExponent_packComponents h_exponent

section

variable {format : Format} {u v : UnpackedFloat}

theorem isFinite_of_unpacked_add (h : (UnpackedFloat.add format u v).isFinite = true) :
    u.isFinite = true := by
  cases u with
  | zero | finite => rfl
  | notANumber => exact h
  | infinity sign =>
    cases v with
    | infinity sign' =>
      -- two infinities add up or cancel, and neither result is finite
      cases sign <;> cases sign' <;> exact h
    | notANumber | zero | finite => exact h

theorem isFinite_of_unpacked_div (h : (UnpackedFloat.div format u v).isFinite = true) :
    u.isFinite = true := by
  cases u with
  | zero | finite => rfl
  | notANumber => exact h
  -- an infinity over anything is an infinity or not a number
  | infinity sign => cases v <;> exact h

end

variable {a b : Float}

theorem isFinite_of_isFinite_add (h : (a + b).isFinite = true) : a.isFinite = true :=
  isFinite_of_unpacked_add (isFinite_of_pack h)

theorem isFinite_of_isFinite_div (h : (a / b).isFinite = true) : a.isFinite = true :=
  isFinite_of_unpacked_div (isFinite_of_pack h)

end RingDiagram.Decimal
