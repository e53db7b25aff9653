import Calculator.Proofs.Decimal.Fixed
import Calculator.Proofs.Decimal.Nearest
import Calculator.Proofs.Evaluation.Stack
import Calculator.Proofs.Grammar.Conversion

/-!
# What is shown is kept

A displayed number, typed in again, is shown as it was (`exists_ofText_display`), though
the double that is read need not be the one that was shown.

Both are rounded to the same decimal. The displayed decimal has so many places that the
double `x` is at most half a place away from it, and the double `y` that is read back is
as near to the decimal as any other double, so it is not farther from it than `x`. Then `y`
is rounded to the same decimal, even where `x` is half-way between two of them: a half that
was rounded to an even number is rounded to it from both sides (`IsRounded.of_le`).
-/

namespace Calculator.Decimal

open Binary64 (infinity)

-- Powers of natural numbers are those of the core library, whatever else is imported.
attribute [local instance (2000)] instPowNat

/-! ### Two roundings -/

/-- The nearest double to a displayed number is finite and displayed in the same way. -/
theorem scaled_code {d : Decimal} {code places : ℕ} (h : code < infinity)
    (hd : d.magnitude = scaled code places / (10 ^ places : ℕ)) :
    d.code < infinity ∧ scaled d.code places = scaled code places := by
  obtain ⟨code', hcode', hnearest⟩ := exists_code_eq d
  have hone : (1 : ℚ) ≤ (10 ^ places : ℕ) := by exact_mod_cast Nat.one_le_pow places 10 (by decide)
  have hpos := ten_pow_pos places
  have hq : d.magnitude * (10 ^ places : ℕ) = scaled code places := by
    rw [hd, div_mul_cancel₀ _ hpos.ne']
  have hrounded := scaled_eq_iff.mp (Eq.refl (scaled code places))
  have hnear := hnearest code
  have hfinite : code' < infinity := by
    apply Binary64.lt_infinity_of_near h
    have hhalf := hrounded.abs_sub_le hq hone
    have hbelow := neg_le_of_abs_le (hnear.trans hhalf)
    have habove := le_of_abs_le hhalf
    linarith
  rw [hcode', Nat.min_eq_right hfinite.le]
  exact ⟨hfinite, scaled_eq_iff.mpr (hrounded.of_near hq hpos.le hnear)⟩

/-! ### The display of a finite double -/

theorem writtenAs_display {x : Float} (h : x.isFinite = true) (places : ℕ) :
    (Expr.number (display x places)).WrittenAs (display x places) := by
  obtain ⟨negative, code, -, hx⟩ := exists_display_eq h places
  rw [hx]
  exact writtenAs_text _

/-- A displayed number is read as a double that is displayed in the same way. -/
theorem exists_readNumber?_display {x : Float} (h : x.isFinite = true) (places : ℕ) :
    ∃ y, readNumber? (display x places) = some y ∧ display y places = display x places := by
  obtain ⟨negative, code, hcode, hx⟩ := exists_display_eq h places
  let d := rounded negative code places
  obtain ⟨hfinite, hscaled⟩ := scaled_code hcode (magnitude_rounded negative code places)
  have hkept : rounded d.negative d.code places = d := by
    rw [rounded, hscaled]
    simp only [d, rounded, Bool.and_assoc, Bool.and_self]
  refine ⟨d.toFloat, ?_, ?_⟩
  · rw [hx, readNumber?_text]
  · rw [hx, display, toFloat, Binary64.value_ofCode hfinite]
    exact congrArg text hkept

end Calculator.Decimal

namespace Calculator.Evaluation

/-- A displayed number, evaluated for a display of as many digits, is its own postfix form, has the
value that is read from it, and is displayed as it was. -/
theorem exists_ofText_display {x : Float} (h : x.isFinite = true) (digits : ℕ) :
    ∃ e, ofText (Decimal.display x digits) digits = .ok e ∧
      readNumber? (Decimal.display x digits) = some e.value ∧
        e.rpn = Decimal.display x digits ∧ e.display = Decimal.display x digits ∧
          e.display = Decimal.display e.value digits := by
  obtain ⟨y, hread, hdisplay⟩ := Decimal.exists_readNumber?_display h digits
  have hconvert := (Decimal.writtenAs_display h digits).outcome_ofText
  have hevaluate := Rpn.outcome_evaluate_rpn (e := .number (Decimal.display x digits)) hread
  let tokens : Rpn := [.number (Decimal.display x digits)]
  refine ⟨⟨y, Decimal.display y digits, Rpn.text tokens⟩, ?_, hread, rfl, hdisplay, rfl⟩
  rw [ofText, hconvert]
  change ((Rpn.evaluate _).outcome.mapError CalcError.eval).bind _ = _
  rw [hevaluate]
  rfl

/-- An eighth is half-way between two decimals of two places: it is shown as the even one of them,
and so is the other double that is read from there. -/
theorem exists_ofText_display_half :
    ∃ x : Float, x.isFinite = true ∧ Decimal.display x 2 = "-0.12" ∧ readNumber? "-0.12" ≠ some x ∧
      ∃ e, ofText "-0.12" 2 = .ok e ∧ readNumber? "-0.12" = some e.value ∧ e.rpn = "-0.12" ∧
        e.display = "-0.12" ∧ e.display = Decimal.display e.value 2 := by
  have hfinite : (Float.ofBits 0xbfc0000000000000).isFinite = true := by decide +kernel
  have hdisplay : Decimal.display (Float.ofBits 0xbfc0000000000000) 2 = "-0.12" := by decide +kernel
  have hne : readNumber? "-0.12" ≠ some (Float.ofBits 0xbfc0000000000000) := by decide +kernel
  have hkept := exists_ofText_display hfinite 2
  rw [hdisplay] at hkept
  exact ⟨_, hfinite, hdisplay, hne, hkept⟩

end Calculator.Evaluation
