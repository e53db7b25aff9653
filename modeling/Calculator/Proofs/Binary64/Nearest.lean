import Calculator.Binary64
import Calculator.Proofs.Decimal.Rounding
import Mathlib.Algebra.Order.Floor.Semifield
import Mathlib.Data.Rat.Floor

/-!
# The nearest double

The double nearest to a quotient is at least as near to it as any other:

    exists_nearest_eq : 0 < den →
      ∃ code, nearest num den = min infinity code ∧ IsNearest (num / den) code

Only codes above that of infinity would be nearer to a quotient that is too great. So
near a finite double all doubles are finite (`lt_infinity_of_near`), and nothing that is
at least as great as infinity is near to one (`IsNearest.infinity_le`).
-/

namespace Calculator.Binary64

open Decimal

-- Powers of natural numbers are those of the core library, whatever else is imported.
attribute [local instance (2000)] instPowNat

/-- The number of binary places of a unit, a name for it so that no power of two as great as the
number of units in the number one is ever computed. -/
@[irreducible] def unitPlaces : ℕ := 1074

theorem unitPlaces_eq : unitPlaces = 1074 := by
  unfold unitPlaces
  rfl

/-- The number of units in the number one. -/
def one : ℕ := 2 ^ unitPlaces

theorem one_pos : (0 : ℚ) < one := by
  exact_mod_cast Nat.two_pow_pos unitPlaces

theorem nearest_eq (num den : ℕ) :
    nearest num den = min infinity (((num * one / den).log2 - 52) * 2 ^ 52 +
      roundHalfEven (num * one) (den * 2 ^ ((num * one / den).log2 - 52))) := by
  unfold nearest one unitPlaces
  rfl

/-- The number for which a finite code stands, apart from its sign. -/
def magnitude (code : ℕ) : ℚ :=
  units code / one

/-- No code stands for a number that is nearer to `q`. -/
def IsNearest (q : ℚ) (code : ℕ) : Prop :=
  ∀ code', |q - magnitude code| ≤ |q - magnitude code'|

/-! ### Codes and units -/

/-- The units of a code are fewer than `2 ^ 53` times a power of two. -/
theorem exists_units_eq (code : ℕ) :
    ∃ m s, units code = m * 2 ^ s ∧ m < 2 ^ 53 ∧ s = code / 2 ^ 52 - 1 := by
  unfold units
  split
  · next h => exact ⟨code, 0, by simp, by omega, by omega⟩
  · exact ⟨2 ^ 52 + code % 2 ^ 52, code / 2 ^ 52 - 1, rfl, by omega, rfl⟩

/-- Units are counted in steps of `2 ^ scale`, or else there are fewer than `2 ^ 52` such steps. -/
theorem exists_units_eq_mul_or_lt (code scale : ℕ) :
    (∃ k, units code = k * 2 ^ scale) ∨ (0 < scale ∧ units code < 2 ^ 52 * 2 ^ scale) := by
  obtain ⟨m, s, hunits, hm, -⟩ := exists_units_eq code
  rw [hunits]
  rcases Nat.lt_or_ge s scale with hlt | hge
  · right
    refine ⟨by omega, ?_⟩
    calc m * 2 ^ s < 2 ^ 53 * 2 ^ s := Nat.mul_lt_mul_of_pos_right hm (Nat.two_pow_pos s)
      _ = 2 ^ 52 * 2 ^ (s + 1) := by
          rw [Nat.pow_succ 2 s, ← Nat.mul_assoc, Nat.pow_succ 2 52]
          omega
      _ ≤ 2 ^ 52 * 2 ^ scale := Nat.mul_le_mul_left _ (Nat.pow_le_pow_right (by omega) hlt)
  · left
    refine ⟨m * 2 ^ (s - scale), ?_⟩
    rw [Nat.mul_assoc, ← Nat.pow_add, Nat.sub_add_cancel hge]

/-- A code is its number of fifty-three bits, with the scale in the bits in front of them. -/
theorem units_add {scale bits : ℕ} (hbits : bits ≤ 2 ^ 53) (hscale : scale = 0 ∨ 2 ^ 52 ≤ bits) :
    units (scale * 2 ^ 52 + bits) = bits * 2 ^ scale := by
  unfold units
  rcases Nat.lt_or_ge bits (2 ^ 52) with hlt | hge
  · obtain rfl : scale = 0 := hscale.resolve_right (by omega)
    rw [if_pos (by omega)]
    simp
  · rw [if_neg (by omega)]
    rcases hbits.lt_or_eq with hlt | rfl
    · have hdiv : (scale * 2 ^ 52 + bits) / 2 ^ 52 = scale + 1 := by omega
      have hmod : (scale * 2 ^ 52 + bits) % 2 ^ 52 = bits - 2 ^ 52 := by omega
      rw [hdiv, hmod, Nat.add_sub_cancel, Nat.add_sub_cancel' hge]
    · have hdiv : (scale * 2 ^ 52 + 2 ^ 53) / 2 ^ 52 = scale + 2 := by omega
      have hmod : (scale * 2 ^ 52 + 2 ^ 53) % 2 ^ 52 = 0 := by omega
      rw [hdiv, hmod, Nat.add_zero, show scale + 2 - 1 = scale + 1 from rfl, Nat.pow_succ 2 scale]
      omega

/-! ### Rounding to fifty-three bits -/

/-- Fifty-three bits are kept of a quotient, or fewer where the units do not allow more. -/
theorem scale_spec (u : ℕ) :
    u < 2 ^ 53 * 2 ^ (Nat.log2 u - 52) ∧
      (Nat.log2 u - 52 = 0 ∨ 2 ^ 52 * 2 ^ (Nat.log2 u - 52) ≤ u) := by
  have hlt : u < 2 ^ (Nat.log2 u + 1) := Nat.lt_log2_self
  rw [← Nat.pow_add, ← Nat.pow_add]
  rcases Nat.lt_or_ge (Nat.log2 u) 53 with hsmall | hlarge
  · refine ⟨hlt.trans_le (Nat.pow_le_pow_right (by omega) (by omega)), .inl (by omega)⟩
  · have hne : u ≠ 0 := by
      rintro rfl
      simp at hlarge
    have hle : 2 ^ Nat.log2 u ≤ u := Nat.log2_self_le hne
    rw [show 53 + (Nat.log2 u - 52) = Nat.log2 u + 1 by omega,
      show 52 + (Nat.log2 u - 52) = Nat.log2 u by omega]
    exact ⟨hlt, .inr hle⟩

/-- The code that `nearest` finds, if it is not above that of infinity, has as many units as the
quotient rounded to a multiple of `2 ^ scale`. -/
theorem exists_nearest_eq_scaled (num : ℕ) {den : ℕ} (hden : 0 < den) :
    ∃ code scale bits, nearest num den = min infinity code ∧ units code = bits * 2 ^ scale ∧
      IsRounded ((num * one : ℕ) / (den * 2 ^ scale : ℕ)) bits ∧
      (scale = 0 ∨ 2 ^ 52 * (den * 2 ^ scale) ≤ num * one) := by
  obtain ⟨a, ha⟩ : ∃ a, num * one = a := ⟨_, rfl⟩
  let scale := Nat.log2 (a / den) - 52
  let bits := roundHalfEven a (den * 2 ^ scale)
  have hnearest : nearest num den = min infinity (scale * 2 ^ 52 + bits) := by
    rw [nearest_eq, ha]
  have hpos : 0 < den * 2 ^ scale := Nat.mul_pos hden (Nat.two_pow_pos scale)
  obtain ⟨hlt, hge⟩ := scale_spec (a / den)
  have hmem : bits = a / den / 2 ^ scale ∨ bits = a / den / 2 ^ scale + 1 := by
    rw [Nat.div_div_eq_div_mul]
    exact roundHalfEven_mem a (den * 2 ^ scale)
  have hbits : bits ≤ 2 ^ 53 := by
    have hquot : a / den / 2 ^ scale < 2 ^ 53 := Nat.div_lt_of_lt_mul (by rwa [Nat.mul_comm])
    omega
  have hscale : scale = 0 ∨ 2 ^ 52 ≤ bits := by
    refine hge.imp_right fun hge => ?_
    have hquot : 2 ^ 52 ≤ a / den / 2 ^ scale :=
      (Nat.le_div_iff_mul_le (Nat.two_pow_pos scale)).mpr hge
    omega
  rw [ha]
  refine ⟨scale * 2 ^ 52 + bits, scale, bits, hnearest, units_add hbits hscale,
    isRounded_roundHalfEven a hpos, hge.imp_right fun hge => ?_⟩
  calc 2 ^ 52 * (den * 2 ^ scale) = 2 ^ 52 * 2 ^ scale * den := by
        rw [Nat.mul_comm den, Nat.mul_assoc]
    _ ≤ a / den * den := Nat.mul_le_mul_right den hge
    _ ≤ a := Nat.div_mul_le_self a den

/-- Distances are the same in steps of `s` units. -/
theorem abs_sub_div_one (q u : ℚ) {s : ℚ} (hs : 0 < s) :
    |q - u / one| = |q * one / s - u / s| * (s / one) := by
  have hone := one_pos
  rw [← abs_of_pos (div_pos hs hone), ← abs_mul, sub_mul]
  congr 2
  · field_simp
  · field_simp

/-- No code is nearer to a quotient of at least `2 ^ 52` steps than it is rounded: below `2 ^ 52`
steps no code is as near as `2 ^ 52` steps are. -/
theorem abs_sub_le_units {t : ℚ} {bits scale : ℕ} (h : IsRounded t bits)
    (hscale : scale = 0 ∨ (2 ^ 52 : ℕ) ≤ t) (code : ℕ) :
    |t - bits| ≤ |t - units code / (2 ^ scale : ℕ)| := by
  have hpow : (0 : ℚ) < (2 ^ scale : ℕ) := by exact_mod_cast Nat.two_pow_pos scale
  rcases exists_units_eq_mul_or_lt code scale with ⟨k, hk⟩ | ⟨hpos, hlt⟩
  · rw [hk, Nat.cast_mul, mul_div_cancel_right₀ _ hpow.ne']
    exact h.le_abs_sub k
  · have hbelow : (units code : ℚ) / (2 ^ scale : ℕ) < (2 ^ 52 : ℕ) := by
      rw [div_lt_iff₀ hpow]
      exact_mod_cast hlt
    have habove : ((2 ^ 52 : ℕ) : ℚ) ≤ t := hscale.resolve_left (by omega)
    calc |t - bits| ≤ |t - (2 ^ 52 : ℕ)| := h.le_abs_sub (2 ^ 52)
      _ = t - (2 ^ 52 : ℕ) := abs_of_nonneg (by linarith)
      _ ≤ t - units code / (2 ^ scale : ℕ) := by linarith
      _ ≤ |t - units code / (2 ^ scale : ℕ)| := le_abs_self _

/-- No code stands for a number nearer to a quotient than the one that `nearest` finds, if this is
not above that of infinity. -/
theorem exists_nearest_eq (num : ℕ) {den : ℕ} (hden : 0 < den) :
    ∃ code, nearest num den = min infinity code ∧ IsNearest (num / den) code := by
  obtain ⟨code, scale, bits, hnearest, hunits, hrounded, hscale⟩ :=
    exists_nearest_eq_scaled num hden
  have hpow : (0 : ℚ) < (2 ^ scale : ℕ) := by exact_mod_cast Nat.two_pow_pos scale
  have hquot : (0 : ℚ) < (den * 2 ^ scale : ℕ) := by
    exact_mod_cast Nat.mul_pos hden (Nat.two_pow_pos scale)
  have hsteps : ((num * one : ℕ) : ℚ) / (den * 2 ^ scale : ℕ) =
      num / den * one / (2 ^ scale : ℕ) := by
    rw [Nat.cast_mul, Nat.cast_mul, div_mul_eq_mul_div, div_div]
  have hlarge : scale = 0 ∨ ((2 ^ 52 : ℕ) : ℚ) ≤ (num * one : ℕ) / (den * 2 ^ scale : ℕ) := by
    refine hscale.imp_right fun hle => ?_
    rw [le_div_iff₀ hquot]
    exact_mod_cast hle
  have hcode : (units code : ℚ) / (2 ^ scale : ℕ) = bits := by
    rw [hunits, Nat.cast_mul, mul_div_cancel_right₀ _ hpow.ne']
  refine ⟨code, hnearest, fun code' => ?_⟩
  rw [hsteps] at hrounded hlarge
  rw [magnitude, magnitude, abs_sub_div_one _ _ hpow, abs_sub_div_one _ _ hpow, hcode]
  exact mul_le_mul_of_nonneg_right (abs_sub_le_units hrounded hlarge code')
    (div_pos hpow one_pos).le

/-! ### Finite codes -/

/-- Codes with few exponents end one step before the units of the next exponent. -/
theorem units_add_le {code k : ℕ} (h : code < (k + 2) * 2 ^ 52) :
    units code + 2 ^ k ≤ 2 ^ 53 * 2 ^ k := by
  obtain ⟨m, s, hunits, hm, hs⟩ := exists_units_eq code
  have hexponent : s ≤ k := by
    have : code / 2 ^ 52 < k + 2 := Nat.div_lt_of_lt_mul (by rwa [Nat.mul_comm])
    omega
  calc units code + 2 ^ k ≤ m * 2 ^ k + 2 ^ k := by
        rw [hunits]
        have hpow : 2 ^ s ≤ 2 ^ k := Nat.pow_le_pow_right two_pos hexponent
        exact Nat.add_le_add_right (Nat.mul_le_mul_left m hpow) _
    _ = (m + 1) * 2 ^ k := (Nat.succ_mul m _).symm
    _ ≤ 2 ^ 53 * 2 ^ k := Nat.mul_le_mul_right _ hm

theorem le_units {code k : ℕ} (h : (k + 2) * 2 ^ 52 ≤ code) : 2 ^ 53 * 2 ^ k ≤ units code := by
  have hexponent : k + 2 ≤ code / 2 ^ 52 := (Nat.le_div_iff_mul_le (Nat.two_pow_pos 52)).mpr h
  have hpow : 2 ^ (k + 1) ≤ 2 ^ (code / 2 ^ 52 - 1) := Nat.pow_le_pow_right two_pos (by omega)
  unfold units
  rw [if_neg (by omega)]
  calc 2 ^ 53 * 2 ^ k = 2 ^ 52 * 2 ^ (k + 1) := by rw [Nat.pow_succ 2 k]; omega
    _ ≤ (2 ^ 52 + code % 2 ^ 52) * 2 ^ (code / 2 ^ 52 - 1) :=
      Nat.mul_le_mul (Nat.le_add_right _ _) hpow

/-- The finite codes end where the units of infinity begin, a long way below them. -/
theorem units_add_one_lt {code code' : ℕ} (h : code < infinity) (h' : infinity ≤ code') :
    units code + one < units code' := by
  have hplaces := unitPlaces_eq
  obtain ⟨k, hk, hinfinity⟩ : ∃ k, k = 2045 ∧ infinity = (k + 2) * 2 ^ 52 := ⟨2045, rfl, rfl⟩
  rw [hinfinity] at h h'
  calc units code + one < units code + 2 ^ k :=
        Nat.add_lt_add_left (Nat.pow_lt_pow_right one_lt_two (by omega)) _
    _ ≤ 2 ^ 53 * 2 ^ k := units_add_le h
    _ ≤ units code' := le_units h'

theorem magnitude_add_one_lt {code code' : ℕ} (h : code < infinity) (h' : infinity ≤ code') :
    magnitude code + 1 < magnitude code' := by
  rw [magnitude, magnitude, div_add_one one_pos.ne', div_lt_div_iff_of_pos_right one_pos]
  exact_mod_cast units_add_one_lt h h'

/-- Near a finite double all doubles are finite. -/
theorem lt_infinity_of_near {code code' : ℕ} (h : code < infinity)
    (hnear : magnitude code' ≤ magnitude code + 1) : code' < infinity := by
  by_contra hge
  exact hnear.not_gt (magnitude_add_one_lt h (Nat.le_of_not_lt hge))

/-! ### Too great and too small quotients -/

/-- The code of infinity is that of the power of two that no exponent reaches. -/
theorem exists_magnitude_infinity_eq : ∃ e, e = 1024 ∧ magnitude infinity = (2 ^ e : ℕ) := by
  have hunits : ∀ k, units ((k + 1) * 2 ^ 52) = 2 ^ 52 * 2 ^ k := by
    intro k
    have hdiv : (k + 1) * 2 ^ 52 / 2 ^ 52 = k + 1 := Nat.mul_div_cancel _ (Nat.two_pow_pos 52)
    have hmod : (k + 1) * 2 ^ 52 % 2 ^ 52 = 0 := Nat.mul_mod_left _ _
    rw [units, hdiv, hmod, if_neg (Nat.succ_ne_zero k), Nat.add_zero, Nat.add_sub_cancel]
  have hplaces := unitPlaces_eq
  obtain ⟨k, hk, hinfinity⟩ : ∃ k, k = 2046 ∧ infinity = (k + 1) * 2 ^ 52 := ⟨2046, rfl, rfl⟩
  obtain ⟨e, he⟩ : ∃ e, e = 1024 := ⟨_, rfl⟩
  have hsplit : units infinity = 2 ^ e * one := by
    rw [hinfinity, hunits, one, ← Nat.pow_add, ← Nat.pow_add,
      show 52 + k = e + unitPlaces by omega]
  refine ⟨e, he, ?_⟩
  rw [magnitude, hsplit, Nat.cast_mul, mul_div_cancel_right₀ _ one_pos.ne']

/-- From infinity on, no finite double is nearest. -/
theorem IsNearest.infinity_le {q : ℚ} {code : ℕ} (h : IsNearest q code)
    (hq : magnitude infinity ≤ q) : infinity ≤ code := by
  by_contra hlt
  have hbelow := magnitude_add_one_lt (Nat.lt_of_not_le hlt) le_rfl
  have hnear := h infinity
  rw [abs_of_nonneg (by linarith), abs_of_nonneg (by linarith)] at hnear
  linarith

/-- Up to half a unit, zero is nearest. -/
theorem nearest_eq_zero {num den : ℕ} (hden : 0 < den) (h : 2 * (num * one) ≤ den) :
    nearest num den = 0 := by
  have hlt : num * one < den := by omega
  rw [nearest_eq, Nat.div_eq_of_lt hlt, Nat.log2_zero, Nat.zero_sub, Nat.pow_zero, Nat.mul_one,
    Nat.zero_mul, Nat.zero_add]
  have hround : roundHalfEven (num * one) den = 0 := by
    unfold roundHalfEven
    rw [Nat.mod_eq_of_lt hlt, Nat.div_eq_of_lt hlt]
    exact if_pos (h.lt_or_eq.imp_right fun heq => ⟨heq, rfl⟩)
  rw [hround, Nat.min_zero]

/-! ### Equal quotients, equal codes -/

/-- The code that is found depends on the quotient only. -/
theorem nearest_congr {num den num' den' : ℕ} (hden : 0 < den) (hden' : 0 < den')
    (h : (num : ℚ) / den = num' / den') : nearest num den = nearest num' den' := by
  have hquot : ∀ scale : ℕ, ((num * one : ℕ) : ℚ) / (den * 2 ^ scale : ℕ) =
      (num' * one : ℕ) / (den' * 2 ^ scale : ℕ) := by
    intro scale
    have hsplit : ∀ a b : ℕ, ((a * one : ℕ) : ℚ) / (b * 2 ^ scale : ℕ) =
        a / b * (one / (2 ^ scale : ℕ)) := by
      intro a b
      rw [Nat.cast_mul, Nat.cast_mul, mul_div_mul_comm]
    rw [hsplit, hsplit, h]
  have hwhole : num * one / den = num' * one / den' := by
    have hzero := hquot 0
    rw [Nat.pow_zero, Nat.mul_one, Nat.mul_one] at hzero
    rw [← Nat.floor_div_eq_div (K := ℚ), hzero, Nat.floor_div_eq_div]
  have hround : ∀ scale : ℕ, roundHalfEven (num * one) (den * 2 ^ scale) =
      roundHalfEven (num' * one) (den' * 2 ^ scale) := by
    intro scale
    have hpos := Nat.mul_pos hden (Nat.two_pow_pos scale)
    have hpos' := Nat.mul_pos hden' (Nat.two_pow_pos scale)
    rw [roundHalfEven_eq_iff hpos, hquot]
    exact isRounded_roundHalfEven _ hpos'
  rw [nearest_eq, nearest_eq, hwhole, hround]

/-- Every code has more units than the one before. -/
theorem units_lt_succ (code : ℕ) : units code < units (code + 1) := by
  obtain ⟨scale, bits, hcode, hbits, hscale⟩ : ∃ scale bits, code = scale * 2 ^ 52 + bits ∧
      bits + 1 ≤ 2 ^ 53 ∧ (scale = 0 ∨ 2 ^ 52 ≤ bits) :=
    ⟨code / 2 ^ 52 - 1, code - (code / 2 ^ 52 - 1) * 2 ^ 52, by omega, by omega, by omega⟩
  have hnext : units (code + 1) = (bits + 1) * 2 ^ scale := by
    rw [hcode, Nat.add_assoc]
    exact units_add hbits (hscale.imp_right Nat.le_succ_of_le)
  rw [hnext, hcode, units_add (Nat.le_of_succ_le hbits) hscale]
  exact Nat.mul_lt_mul_of_pos_right (Nat.lt_succ_self bits) (Nat.two_pow_pos scale)

/-- So no two codes stand for the same number. -/
theorem magnitude_injective : Function.Injective magnitude := by
  intro code code' h
  rw [magnitude, magnitude, div_left_inj' one_pos.ne'] at h
  exact (strictMono_nat_of_lt_succ units_lt_succ).injective (Nat.cast_injective h)

/-- What a code stands for is nearest to no other code. -/
theorem IsNearest.eq_of_magnitude {code code' : ℕ} (h : IsNearest (magnitude code) code') :
    code' = code := by
  have hle := h code
  rw [sub_self, abs_zero, abs_nonpos_iff, sub_eq_zero] at hle
  exact (magnitude_injective hle).symm

end Calculator.Binary64
