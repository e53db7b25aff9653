import Calculator.Proofs.Binary64.Nearest
import Calculator.Proofs.Decimal.Text

/-!
# A decimal is read as the nearest double

The bounds on exponents only spare work: whether or not they apply, the code of a decimal is
that nearest to its quotient (`code_eq_nearest`), so that its double is nearest to it
(`exists_code_eq`). From `10 ^ 310` on no finite double is, and what the lower bound calls
zero is less than half the smallest double.
-/

namespace Calculator.Decimal

open Binary64 (infinity nearest one IsNearest)

-- Powers of natural numbers are those of the core library, whatever else is imported.
attribute [local instance (2000)] instPowNat

/-! ### The bounds on exponents -/

theorem two_pow_le_ten_pow {e n : ℕ} (he : e ≤ 1024) (hn : 310 ≤ n) : 2 ^ e ≤ 10 ^ n := by
  obtain ⟨a, b, k, ha, hb, hle⟩ : ∃ a b k, 1024 ≤ a * k ∧ b * k ≤ 310 ∧ 2 ^ a ≤ 10 ^ b :=
    ⟨205, 62, 5, by decide, by decide, by decide⟩
  calc 2 ^ e ≤ 2 ^ (a * k) := Nat.pow_le_pow_right (by decide) (he.trans ha)
    _ = (2 ^ a) ^ k := Nat.pow_mul 2 a k
    _ ≤ (10 ^ b) ^ k := Nat.pow_le_pow_left hle k
    _ = 10 ^ (b * k) := (Nat.pow_mul 10 b k).symm
    _ ≤ 10 ^ n := Nat.pow_le_pow_right (by decide) (hb.trans hn)

/-- From `10 ^ 310` on a decimal is at least as great as infinity. -/
theorem magnitude_infinity_le {d : Decimal} {n : ℕ} (hne : d.coefficient ≠ 0)
    (hexponent : d.exponent = n) (hn : 310 ≤ n) : Binary64.magnitude infinity ≤ d.magnitude := by
  obtain ⟨e, he, hinfinity⟩ := Binary64.exists_magnitude_infinity_eq
  rw [hinfinity, magnitude_of_nonneg hexponent]
  apply Nat.cast_le.mpr
  calc 2 ^ e ≤ 10 ^ n := two_pow_le_ten_pow he.le hn
    _ ≤ d.coefficient * 10 ^ n := Nat.le_mul_of_pos_left _ (Nat.pos_of_ne_zero hne)

/-- What the lower bound excludes is less than half the smallest double. -/
theorem two_mul_coefficient_mul_one_le {d : Decimal} {n : ℕ}
    (hn : d.coefficient.log2 + 1076 ≤ 3 * n) : 2 * (d.coefficient * one) ≤ 10 ^ n := by
  have hplaces := Binary64.unitPlaces_eq
  calc 2 * (d.coefficient * one) ≤ 2 * (2 ^ (d.coefficient.log2 + 1) * one) :=
        Nat.mul_le_mul_left 2 (Nat.mul_le_mul_right one Nat.lt_log2_self.le)
    _ = 2 ^ (d.coefficient.log2 + 1 + Binary64.unitPlaces + 1) := by
        rw [one, ← Nat.pow_add, Nat.pow_succ 2 (_ + Binary64.unitPlaces), Nat.mul_comm]
    _ ≤ 2 ^ (3 * n) := Nat.pow_le_pow_right (by decide) (by omega)
    _ = 8 ^ n := Nat.pow_mul 2 3 n
    _ ≤ 10 ^ n := Nat.pow_le_pow_left (by decide) n

/-- The bounds on exponents make no difference to the code of a decimal. -/
theorem code_eq_nearest (d : Decimal) :
    d.code = nearest (d.coefficient * 10 ^ d.exponent.toNat) (10 ^ (-d.exponent).toNat) := by
  by_cases hzero : d.coefficient = 0
  · have hcode : d.code = 0 := if_pos hzero
    have hnone : 2 * (0 * one) ≤ 10 ^ (-d.exponent).toNat := by simp
    rw [hcode, hzero, Nat.zero_mul, Binary64.nearest_eq_zero (Nat.pow_pos (by decide)) hnone]
  · unfold code
    rw [if_neg hzero]
    cases hexponent : d.exponent with
    | ofNat n =>
      have hzeros : (-Int.ofNat n).toNat = 0 := by simp
      rw [hzeros, Nat.pow_zero]
      dsimp only
      split
      · next hn =>
        obtain ⟨code, hcode, hnearest⟩ :=
          Binary64.exists_nearest_eq (d.coefficient * 10 ^ n) one_pos
        rw [Nat.cast_one, div_one, ← magnitude_of_nonneg hexponent] at hnearest
        have hinfinity := hnearest.infinity_le (magnitude_infinity_le hzero hexponent hn)
        exact ((Nat.min_eq_left hinfinity).symm).trans hcode.symm
      · rfl
    | negSucc n =>
      have hplaces : (-Int.negSucc n).toNat = n + 1 := rfl
      have hzeros : (Int.negSucc n).toNat = 0 := rfl
      rw [hplaces, hzeros, Nat.pow_zero, Nat.mul_one]
      dsimp only
      split
      · next hn =>
        have hle := two_mul_coefficient_mul_one_le hn
        exact (Binary64.nearest_eq_zero (Nat.pow_pos (by decide)) hle).symm
      · rfl

/-! ### The nearest double -/

/-- The double of a decimal is nearest to it; it is infinite if that nearest to it is not finite. -/
theorem exists_code_eq (d : Decimal) :
    ∃ code, d.code = min infinity code ∧ IsNearest d.magnitude code := by
  rw [code_eq_nearest, magnitude_eq_div]
  exact Binary64.exists_nearest_eq _ (Nat.pow_pos (by decide))

/-- Decimals that stand for the same number are read as the same double. -/
theorem code_congr {d d' : Decimal} (h : d.magnitude = d'.magnitude) : d.code = d'.code := by
  rw [magnitude_eq_div, magnitude_eq_div] at h
  rw [code_eq_nearest, code_eq_nearest]
  exact Binary64.nearest_congr (Nat.pow_pos (by decide)) (Nat.pow_pos (by decide)) h

/-- The text of a decimal is read as its double. -/
theorem readNumber?_text (d : Decimal) :
    readNumber? d.text = some d.toFloat := by
  obtain ⟨d', hread, hnegative, hmagnitude⟩ := exists_ofText?_text d
  rw [readNumber?, hread, toFloat, ← hnegative, ← code_congr hmagnitude]
  rfl

end Calculator.Decimal
