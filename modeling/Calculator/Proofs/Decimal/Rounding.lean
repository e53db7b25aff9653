import Calculator.Decimal.Rounding
import Mathlib.Algebra.Order.Field.Basic
import Mathlib.Algebra.Order.Field.Rat
import Mathlib.Algebra.Ring.Parity
import Mathlib.Tactic.FieldSimp
import Mathlib.Tactic.Linarith

/-!
# Rounding as a property

Rounding a quotient is described by what its result is for the rational number that
is rounded (`IsRounded`), and not by how it is computed:

    roundHalfEven_eq_iff : 0 < den → (roundHalfEven num den = n ↔ IsRounded (num / den) n)

A rounded number is nearest among all whole numbers, and whatever is not farther from
it than the number that was rounded is rounded to it as well (`IsRounded.of_le`).
-/

namespace Calculator.Decimal

/-- `n` is the natural number nearest to `q`, the even one of two that are equally near. -/
def IsRounded (q : ℚ) (n : ℕ) : Prop :=
  |q - n| < 1 / 2 ∨ (|q - n| = 1 / 2 ∧ Even n)

/-! ### Signs -/

/-- A magnitude with its sign. -/
def signed (negative : Bool) (q : ℚ) : ℚ :=
  if negative then -q else q

@[simp] theorem signed_zero (negative : Bool) : signed negative 0 = 0 := by
  cases negative <;> simp [signed]

theorem signed_mul (negative : Bool) (q p : ℚ) :
    signed negative q * p = signed negative (q * p) := by
  cases negative <;> simp [signed]

/-! ### Whole numbers -/

/-- `n` is the whole number nearest to `q`, the even one of two that are equally near. -/
def IsRoundedInt (q : ℚ) (n : ℤ) : Prop :=
  |q - n| < 1 / 2 ∨ (|q - n| = 1 / 2 ∧ Even n)

theorem isRoundedInt_natCast {q : ℚ} {n : ℕ} : IsRoundedInt q n ↔ IsRounded q n := by
  rw [IsRoundedInt, IsRounded, Int.cast_natCast, Int.even_coe_nat]

/-- Two whole numbers are at least one apart, and so is the way over `q`. -/
theorem one_le_abs_sub_add {n m : ℤ} (hne : n ≠ m) (q : ℚ) : 1 ≤ |q - n| + |q - m| := by
  have hone : (1 : ℚ) ≤ |(n : ℚ) - m| := by
    exact_mod_cast Int.one_le_abs (sub_ne_zero.mpr hne)
  calc (1 : ℚ) ≤ |(n : ℚ) - m| := hone
    _ ≤ |(n : ℚ) - q| + |q - m| := abs_sub_le _ _ _
    _ = |q - n| + |q - m| := by rw [abs_sub_comm (n : ℚ) q]

namespace IsRoundedInt

variable {q : ℚ} {n : ℤ}

/-- Rounding is the same on both sides of zero. -/
theorem neg (h : IsRoundedInt q n) : IsRoundedInt (-q) (-n) := by
  have habs : |-q - (-n : ℤ)| = |q - n| := by
    rw [Int.cast_neg, neg_sub_neg, abs_sub_comm]
  rw [IsRoundedInt, habs, even_neg]
  exact h

theorem unique {m : ℤ} (h : IsRoundedInt q n) (h' : IsRoundedInt q m) : n = m := by
  by_contra hne
  have hone := one_le_abs_sub_add hne q
  rcases h with hlt | ⟨heq, heven⟩
  · rcases h' with hlt' | ⟨heq', -⟩
    · linarith
    · linarith
  · rcases h' with hlt' | ⟨heq', heven'⟩
    · linarith
    · -- Both are half a unit away from `q`, so at most one apart, but two even numbers are not.
      have htriangle := abs_sub_le (n : ℚ) q m
      rw [abs_sub_comm (n : ℚ) q, heq, heq'] at htriangle
      have hle : |n - m| ≤ 1 := by
        have hle : |(n : ℚ) - m| ≤ 1 := by linarith
        exact_mod_cast hle
      obtain ⟨a, rfl⟩ := heven
      obtain ⟨b, rfl⟩ := heven'
      rw [abs_le] at hle
      omega

end IsRoundedInt

/-! ### Natural numbers -/

namespace IsRounded

variable {q : ℚ} {n : ℕ}

/-- With its sign, a rounded magnitude is rounded. -/
theorem signed (h : IsRounded q n) (negative : Bool) :
    IsRoundedInt (signed negative q) (if negative then -n else n) := by
  cases negative with
  | false => exact isRoundedInt_natCast.mpr h
  | true => exact (isRoundedInt_natCast.mpr h).neg

theorem abs_sub_le_half (h : IsRounded q n) : |q - n| ≤ 1 / 2 := by
  rcases h with h | ⟨h, -⟩
  · exact h.le
  · exact h.le

/-- What is as near to a rounded number as the number that was rounded is rounded to it, too: in the
case of a tie, the rounded number is even. -/
theorem of_le {q' : ℚ} (h : IsRounded q n) (hle : |q' - n| ≤ |q - n|) : IsRounded q' n := by
  rcases h with h | ⟨h, heven⟩
  · exact .inl (hle.trans_lt h)
  · rw [h] at hle
    rcases hle.lt_or_eq with hlt | heq
    · exact .inl hlt
    · exact .inr ⟨heq, heven⟩

/-- No whole number is nearer. -/
theorem le_abs_sub (h : IsRounded q n) (k : ℕ) : |q - n| ≤ |q - k| := by
  rcases eq_or_ne n k with rfl | hne
  · exact le_rfl
  · have hone := one_le_abs_sub_add (Int.ofNat_injective.ne hne) q
    have hhalf := h.abs_sub_le_half
    rw [Int.ofNat_eq_natCast, Int.ofNat_eq_natCast, Int.cast_natCast, Int.cast_natCast] at hone
    linarith

theorem unique {m : ℕ} (h : IsRounded q n) (h' : IsRounded q m) : n = m :=
  Int.ofNat_injective ((isRoundedInt_natCast.mpr h).unique (isRoundedInt_natCast.mpr h'))

end IsRounded

section

variable {x y q p : ℚ} {n : ℕ}

/-- Distances from a multiple of the unit `1 / p`, counted in these units. -/
theorem abs_mul_sub (hq : q * p = n) (hp : 0 ≤ p) : |x * p - n| = |q - x| * p := by
  rw [← hq, ← sub_mul, abs_mul, abs_of_nonneg hp, abs_sub_comm]

/-- What is rounded to a multiple `q` of a unit of at most one is at most half of one away. -/
theorem IsRounded.abs_sub_le (h : IsRounded (x * p) n) (hq : q * p = n) (hp : 1 ≤ p) :
    |q - x| ≤ 1 / 2 := by
  calc |q - x| ≤ |q - x| * p := le_mul_of_one_le_right (abs_nonneg _) hp
    _ = |x * p - n| := (abs_mul_sub hq (zero_le_one.trans hp)).symm
    _ ≤ 1 / 2 := h.abs_sub_le_half

/-- What is not farther from this multiple is rounded to it, too. -/
theorem IsRounded.of_near (h : IsRounded (x * p) n) (hq : q * p = n) (hp : 0 ≤ p)
    (hnear : |q - y| ≤ |q - x|) : IsRounded (y * p) n := by
  apply h.of_le
  rw [abs_mul_sub hq hp, abs_mul_sub hq hp]
  exact mul_le_mul_of_nonneg_right hnear hp

end

/-- Rounding by the remainder of a division gives the nearest whole number. -/
theorem isRounded_roundHalfEven (num : ℕ) {den : ℕ} (h : 0 < den) :
    IsRounded (num / den) (roundHalfEven num den) := by
  have hden : (0 : ℚ) < den := by exact_mod_cast h
  have hsplit : (num : ℚ) = den * (num / den : ℕ) + (num % den : ℕ) := by
    exact_mod_cast (Nat.div_add_mod num den).symm
  have hrest := Nat.mod_lt num h
  unfold roundHalfEven
  generalize num / den = below at *
  generalize num % den = rest at *
  -- What is left of the quotient is compared with a half as the remainder is with its double.
  have hlt : (rest : ℚ) / den < 1 / 2 ↔ 2 * rest < den := by
    rw [div_lt_div_iff₀ hden two_pos, one_mul, mul_comm]
    exact_mod_cast Iff.rfl
  have heq : (rest : ℚ) / den = 1 / 2 ↔ 2 * rest = den := by
    rw [div_eq_div_iff hden.ne' two_ne_zero, one_mul, mul_comm]
    exact_mod_cast Iff.rfl
  have hq : (num : ℚ) / den = below + rest / den := by
    rw [hsplit]
    field_simp
  have hpos : (0 : ℚ) ≤ rest / den := div_nonneg (Nat.cast_nonneg _) hden.le
  have hone : (rest : ℚ) / den < 1 := by
    rw [div_lt_one hden]
    exact_mod_cast hrest
  rw [IsRounded, hq]
  split
  · next hbelow =>
    rw [add_sub_cancel_left, abs_of_nonneg hpos, hlt, heq, Nat.even_iff]
    exact hbelow
  · next habove =>
    rw [not_or, not_and, ← hlt, ← heq] at habove
    have habs : |(below : ℚ) + rest / den - (below + 1 : ℕ)| = 1 - rest / den := by
      rw [abs_sub_comm, abs_of_nonneg] <;> push_cast <;> linarith
    rw [habs, Nat.even_add_one, Nat.even_iff]
    rcases (not_lt.mp habove.1).lt_or_eq with hgt | hhalf
    · exact .inl (by linarith)
    · exact .inr ⟨by linarith, habove.2 hhalf.symm⟩

theorem roundHalfEven_eq_iff {num den n : ℕ} (h : 0 < den) :
    roundHalfEven num den = n ↔ IsRounded (num / den) n := by
  constructor
  · rintro rfl
    exact isRounded_roundHalfEven num h
  · exact (isRounded_roundHalfEven num h).unique

end Calculator.Decimal
