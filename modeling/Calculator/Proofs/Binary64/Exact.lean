import Calculator.Proofs.Binary64.Code
import Calculator.Proofs.Binary64.Nearest

/-!
# The number for which a double stands

A finite double is a sign, a mantissa and an exponent of two, and stands for a rational
number (`toRat`). Its code counts the same number in units of `2 ^ -1074`:

    toRat_of_value : value x = .finite negative code → toRat x = signed negative (magnitude code)
-/

namespace Calculator.Binary64

open Decimal (signed)
open Float.Model

-- Powers of natural numbers are those of the core library, whatever else is imported.
attribute [local instance (2000)] instPowNat

/-- The number for which a double stands, or zero if it stands for none. -/
def toRat (x : Float) : ℚ :=
  match x.toModel.unpack with
  | .finite sign mantissa exponent _ => sign.apply mantissa * (2 : ℚ) ^ exponent
  | .zero _ | .infinity _ | .notANumber => 0

/-! ### The parts of a double -/

theorem toNat_unpackMantissa (bits : UInt64) :
    (@UnpackedFloat.unpackMantissa .binary64 bits.toBitVec).toNat = bits.toNat % 2 ^ 52 := by
  rw [UnpackedFloat.unpackMantissa_def, BitVec.extractLsb'_toNat, Nat.shiftRight_zero]
  rfl

theorem toNat_unpackSign (bits : UInt64) :
    (@UnpackedFloat.unpackSign .binary64 bits.toBitVec).toNat = bits.toNat / 2 ^ 63 % 2 := by
  rw [UnpackedFloat.unpackSign_def, BitVec.extractLsb'_toNat, Nat.shiftRight_eq_div_pow]
  rfl

/-- The sign bit is the highest. -/
theorem apply_sign (bits : UInt64) (n : ℕ) :
    ((UnpackedFloat.Sign.ofBitVec
        (@UnpackedFloat.unpackSign .binary64 bits.toBitVec)).apply n : ℚ) =
      signed (decide (2 ^ 63 ≤ bits.toNat)) n := by
  have hlt : bits.toNat < 2 ^ 64 := bits.toNat_lt
  have hzero : @UnpackedFloat.unpackSign .binary64 bits.toBitVec = 0#1 ↔ ¬ 2 ^ 63 ≤ bits.toNat := by
    rw [← BitVec.toNat_inj, toNat_unpackSign, BitVec.toNat_ofNat]
    omega
  unfold UnpackedFloat.Sign.ofBitVec
  by_cases hsign : 2 ^ 63 ≤ bits.toNat
  · rw [if_neg (hzero.not.mpr (not_not.mpr hsign)), decide_eq_true hsign]
    simp [UnpackedFloat.Sign.apply, signed]
  · rw [if_pos (hzero.mpr hsign), decide_eq_false hsign]
    simp [UnpackedFloat.Sign.apply, signed]

theorem toNat_pos_of_ne_zero {w : ℕ} {b : BitVec w} (h : b ≠ 0#w) : 0 < b.toNat := by
  apply Nat.pos_of_ne_zero
  intro hzero
  exact h (BitVec.eq_of_toNat_eq (hzero.trans BitVec.toNat_zero.symm))

/-- Behind the implicit leading one. -/
theorem toNat_one_append (mantissa : BitVec 52) :
    (1#1 ++ mantissa).toNat = 2 ^ 52 + mantissa.toNat := by
  rw [BitVec.toNat_append, ← Nat.shiftLeft_add_eq_or_of_lt mantissa.isLt]
  rfl

section

variable {bits : UInt64}

/-- Without exponent bits, the units are the mantissa as it is. -/
theorem units_of_exponent_eq_zero
    (h : @UnpackedFloat.unpackExponent .binary64 bits.toBitVec = 0#11) :
    units (bits.toNat % 2 ^ 63) =
      (@UnpackedFloat.unpackMantissa .binary64 bits.toBitVec).toNat := by
  have hexponent := toNat_unpackExponent bits
  have hzero : (0#11).toNat = 0 := rfl
  rw [h, hzero] at hexponent
  rw [units, toNat_unpackMantissa, if_pos (by omega)]
  omega

/-- Behind other exponent bits, the mantissa has one bit more. -/
theorem units_of_exponent_ne_zero
    (h : @UnpackedFloat.unpackExponent .binary64 bits.toBitVec ≠ 0#11) :
    units (bits.toNat % 2 ^ 63) =
      (1#1 ++ @UnpackedFloat.unpackMantissa .binary64 bits.toBitVec).toNat *
        2 ^ ((@UnpackedFloat.unpackExponent .binary64 bits.toBitVec).toNat - 1) := by
  have hexponent := toNat_unpackExponent bits
  have hmantissa := toNat_unpackMantissa bits
  have hzero : (0#11).toNat = 0 := rfl
  rw [ne_eq, ← BitVec.toNat_inj, hzero] at h
  have hhead : bits.toNat % 2 ^ 63 / 2 ^ 52 = bits.toNat / 2 ^ 52 % 2 ^ 11 := by omega
  have htail : bits.toNat % 2 ^ 63 % 2 ^ 52 = bits.toNat % 2 ^ 52 := by omega
  rw [units, toNat_one_append, hhead, htail, ← hexponent, ← hmantissa, if_neg h]

/-- A finite double is zero, or else has the units of its code in its mantissa and exponent. -/
theorem unpack_of_lt (h : bits.toNat % 2 ^ 63 < infinity) :
    let sign := UnpackedFloat.Sign.ofBitVec (@UnpackedFloat.unpackSign .binary64 bits.toBitVec)
    (UnpackedFloat.unpack .binary64 bits.toBitVec = .zero sign ∧ units (bits.toNat % 2 ^ 63) = 0) ∨
      ∃ (m s : ℕ) (hm : 0 < m),
        UnpackedFloat.unpack .binary64 bits.toBitVec = .finite sign m ((s : ℤ) - 1074) hm ∧
          units (bits.toNat % 2 ^ 63) = m * 2 ^ s := by
  intro sign
  have hones := (unpackExponent_eq_iff bits).not.mpr h.not_ge
  have hbias : Format.exponentBias .binary64 = 1023 := rfl
  unfold UnpackedFloat.unpack
  dsimp only
  rw [hbias]
  split
  · next hall => exact absurd hall hones
  · split
    · next hzero =>
      have hunits := units_of_exponent_eq_zero hzero
      split
      · next hnone =>
        refine .inl ⟨rfl, ?_⟩
        rw [hunits, hnone]
        rfl
      · next hsome =>
        refine .inr ⟨_, 0, toNat_pos_of_ne_zero hsome, ?_, hunits.trans (Nat.mul_one _).symm⟩
        rw [hzero]
        rfl
    · next hsome =>
      have hpos := toNat_pos_of_ne_zero hsome
      refine .inr ⟨_, _, ?_, ?_, units_of_exponent_ne_zero hsome⟩
      · rw [toNat_one_append]
        exact Nat.add_pos_left (Nat.two_pow_pos 52) _
      · simp only [UnpackedFloat.finite.injEq, true_and]
        exact ⟨rfl, by omega⟩

end

/-! ### Their code -/

theorem magnitude_of_units_eq {code m s : ℕ} (h : units code = m * 2 ^ s) :
    magnitude code = m * (2 : ℚ) ^ ((s : ℤ) - 1074) := by
  have hplaces : (1074 : ℤ) = unitPlaces := by
    rw [unitPlaces_eq]
    rfl
  have hone : (one : ℚ) = (2 : ℚ) ^ (unitPlaces : ℤ) := by
    rw [one, zpow_natCast, Nat.cast_pow]
    rfl
  rw [magnitude, h, hone, hplaces, zpow_sub₀ two_ne_zero, zpow_natCast, ← mul_div_assoc]
  push_cast
  rfl

/-- The code of a finite double tells the number for which the double stands. -/
theorem toRat_of_value {x : Float} {negative : Bool} {code : ℕ}
    (h : value x = .finite negative code) : toRat x = signed negative (magnitude code) := by
  obtain ⟨hfinite, rfl, rfl⟩ := value_eq_finite_iff.mp h
  have hunpack : x.toModel.unpack = UnpackedFloat.unpack .binary64 x.toBits.toBitVec := rfl
  unfold toRat
  rw [hunpack]
  rcases unpack_of_lt hfinite with ⟨hzero, hunits⟩ | ⟨m, s, hm, hparts, hunits⟩
  · rw [hzero, magnitude, hunits, Nat.cast_zero, zero_div, Decimal.signed_zero]
  · rw [hparts]
    dsimp only
    rw [apply_sign, Decimal.signed_mul, magnitude_of_units_eq hunits]

end Calculator.Binary64
