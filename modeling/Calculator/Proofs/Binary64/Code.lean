import Calculator.Binary64
import Mathlib

/-!
# Finite doubles and their codes

A double is finite just if its code is below that of infinity, and only such codes are
kept by every double: the others may be those of numbers that are none. So a finite
double is a sign and a code, and can be put together from them:

    isFinite_iff : x.isFinite = true ↔
      ∃ negative code, code < infinity ∧ value x = .finite negative code
    value_ofCode : code < infinity → value (ofCode negative code) = .finite negative code
-/

namespace Calculator.Binary64

open Float.Model

-- Powers of natural numbers are those of the core library, whatever else is imported.
attribute [local instance (2000)] instPowNat

theorem toNat_unpackExponent (bits : UInt64) :
    (@UnpackedFloat.unpackExponent .binary64 bits.toBitVec).toNat =
      bits.toNat / 2 ^ 52 % 2 ^ 11 := by
  rw [UnpackedFloat.unpackExponent_def, BitVec.extractLsb'_toNat, Nat.shiftRight_eq_div_pow]
  rfl

/-- The exponent bits are all ones just from the code of infinity on. -/
theorem unpackExponent_eq_iff (bits : UInt64) :
    @UnpackedFloat.unpackExponent .binary64 bits.toBitVec = 2047#11 ↔
      infinity ≤ bits.toNat % 2 ^ 63 := by
  have hones : (2047#11).toNat = 2047 := rfl
  rw [← BitVec.toNat_inj, toNat_unpackExponent, hones, infinity]
  omega

/-- Infinity and what is no number have exponent bits that are all ones; all others are finite. -/
theorem isFinite_iff_lt (x : Float) :
    x.isFinite = true ↔ x.toBits.toNat % 2 ^ 63 < infinity := by
  have hunpack : x.isFinite = (UnpackedFloat.unpack .binary64 x.toBits.toBitVec).isFinite := rfl
  rw [hunpack, ← Nat.not_le, ← unpackExponent_eq_iff]
  unfold UnpackedFloat.unpack
  dsimp only
  split
  · next hones => split <;> simpa [UnpackedFloat.isFinite] using hones
  · next hones =>
    refine iff_of_true ?_ hones
    split
    · split <;> rfl
    · rfl

/-- Bits of a finite double are kept as they are. -/
theorem toBits_ofBits {bits : UInt64} (h : bits.toNat % 2 ^ 63 < infinity) :
    (Float.ofBits bits).toBits = bits := by
  rw [← Nat.not_le, ← unpackExponent_eq_iff] at h
  have hnan : @UnpackedFloat.isNaNBits .binary64 bits.toBitVec = false := by
    simp [UnpackedFloat.isNaNBits, h]
  have hpack : UnpackedFloat.pack .binary64 (UnpackedFloat.unpack .binary64 bits.toBitVec) =
      bits.toBitVec := by
    rw [UnpackedFloat.pack_unpack, hnan]
    rfl
  exact congrArg UInt64.ofBitVec hpack

/-- The sign is the highest bit, and the code is what is below it. -/
theorem value_eq_finite_iff {x : Float} {negative : Bool} {code : ℕ} :
    value x = .finite negative code ↔ code < infinity ∧
      negative = decide (2 ^ 63 ≤ x.toBits.toNat) ∧ code = x.toBits.toNat % 2 ^ 63 := by
  constructor
  · intro hvalue
    simp only [value] at hvalue
    split at hvalue
    · contradiction
    · next hle =>
      split at hvalue
      · contradiction
      · next hne =>
        cases hvalue
        exact ⟨Nat.lt_of_le_of_ne (Nat.le_of_not_lt hle) hne, rfl, rfl⟩
  · rintro ⟨hlt, rfl, rfl⟩
    simp only [value, if_neg hlt.not_gt, if_neg hlt.ne]

/-- A double is finite just if it has a sign and a code below that of infinity. -/
theorem isFinite_iff (x : Float) :
    x.isFinite = true ↔ ∃ negative code, code < infinity ∧ value x = .finite negative code := by
  rw [isFinite_iff_lt]
  constructor
  · intro h
    exact ⟨_, _, h, value_eq_finite_iff.mpr ⟨h, rfl, rfl⟩⟩
  · rintro ⟨negative, code, hlt, hvalue⟩
    exact (value_eq_finite_iff.mp hvalue).2.2 ▸ hlt

/-- The double of a finite code has this code. -/
theorem value_ofCode {code : ℕ} (h : code < infinity) (negative : Bool) :
    value (ofCode negative code) = .finite negative code := by
  have hinfinity : infinity < 2 ^ 63 := by decide
  let bits := if negative then 2 ^ 63 + code else code
  have hmod : bits % 2 ^ 64 = bits ∧ bits % 2 ^ 63 = code ∧ (2 ^ 63 ≤ bits ↔ negative = true) := by
    cases negative <;> simp [bits] <;> omega
  have htoNat : (UInt64.ofNat bits).toNat = bits := by
    rw [UInt64.toNat_ofNat', hmod.1]
  have hbits : (ofCode negative code).toBits = UInt64.ofNat bits := by
    refine toBits_ofBits ?_
    rw [htoNat, hmod.2.1]
    exact h
  unfold value
  simp only [hbits, htoNat, hmod]
  rw [if_neg h.not_gt, if_neg h.ne, Bool.decide_eq_true]

end Calculator.Binary64
