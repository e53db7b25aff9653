import Calculator.Decimal.Numeral
import Calculator.Decimal.Shortest
import Calculator.Proofs.Binary64.Code
import Calculator.Proofs.Decimal.Nearest

/-!
# A double in full is read back

The search for few digits tries decimals until one has the code in question, and ends with
the exact magnitude if none has. That has the code as well, since no other code stands for
it (`code_exact`). So whatever is found has the code (`code_shortest`), and the text of a
double in full denotes the same number, infinity, or no number, with the same sign:

    exists_readNumber?_full : ∃ y, readNumber? (full x) = some y ∧ value y = value x
-/

namespace Calculator.Decimal

open Binary64 (infinity one unitPlaces value)

-- Powers of natural numbers are those of the core library, whatever else is imported.
attribute [local instance (2000)] instPowNat

/-! ### The decimal that is found -/

/-- Powers of five make up for the powers of two by which tens differ from twos. -/
theorem magnitude_mul_five_pow (negative : Bool) (u places : ℕ) :
    (⟨negative, u * 5 ^ places, -(places : ℤ)⟩ : Decimal).magnitude = u / (2 ^ places : ℕ) := by
  have hfive : ((5 ^ places : ℕ) : ℚ) ≠ 0 := by
    exact_mod_cast (Nat.pow_pos (by decide) : 0 < 5 ^ places).ne'
  rw [magnitude_of_nonpos rfl]
  dsimp only
  rw [show 10 = 2 * 5 from rfl, Nat.mul_pow, Nat.cast_mul, Nat.cast_mul,
    mul_div_mul_right _ _ hfive]

theorem exact_eq (code : ℕ) :
    exact code = ⟨false, Binary64.units code * 5 ^ unitPlaces, -(unitPlaces : ℤ)⟩ := by
  have hplaces : ((1074 : ℕ) : ℤ) = 1074 := rfl
  rw [Binary64.unitPlaces_eq, hplaces, exact]

theorem magnitude_exact (code : ℕ) : (exact code).magnitude = Binary64.magnitude code := by
  rw [exact_eq, magnitude_mul_five_pow]
  rfl

/-- The exact magnitude of a code is read as that code. -/
theorem code_exact {code : ℕ} (h : code < infinity) : (exact code).code = code := by
  obtain ⟨code', hcode', hnearest⟩ := exists_code_eq (exact code)
  rw [magnitude_exact] at hnearest
  rw [hcode', hnearest.eq_of_magnitude, Nat.min_eq_right h.le]

/-- A search for a code finds it, if what it ends with has it. -/
theorem code_getD_find? {code : ℕ} {d : Decimal} (h : d.code = code) (ds : List Decimal) :
    ((ds.find? fun candidate => candidate.code == code).getD d).code = code := by
  cases hfind : ds.find? fun candidate => candidate.code == code with
  | none => exact h
  | some candidate => simpa using List.find?_some hfind

theorem code_shortest {code : ℕ} (h : code < infinity) : (shortest code).code = code := by
  unfold shortest
  exact code_getD_find? (code_exact h) _

/-! ### The text -/

/-- The code does not depend on the sign. -/
theorem code_with_negative (d : Decimal) (negative : Bool) :
    ({ d with negative } : Decimal).code = d.code := rfl

/-- A double in full is read as a double that stands for the same. -/
theorem exists_readNumber?_full (x : Float) :
    ∃ y, readNumber? (full x) = some y ∧ value y = value x := by
  unfold full
  cases hx : value x with
  | nan => exact ⟨0.0 / 0.0, rfl, by decide +kernel⟩
  | infinite negative =>
    refine ⟨Binary64.ofCode negative infinity, ?_, ?_⟩
    · cases negative <;> rfl
    · cases negative <;> decide +kernel
  | finite negative code =>
    obtain ⟨hfinite, -, -⟩ := Binary64.value_eq_finite_iff.mp hx
    refine ⟨_, readNumber?_text _, ?_⟩
    rw [toFloat, code_with_negative, code_shortest hfinite, Binary64.value_ofCode hfinite]

end Calculator.Decimal
