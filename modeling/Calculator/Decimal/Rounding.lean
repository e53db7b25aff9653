/-!
# Rounding a quotient

Both ways between decimal and binary numbers round once: an exact quotient of two
natural numbers goes to the nearest natural number, and from half-way to the even
one.
-/

namespace Calculator.Decimal

/-- The natural number nearest to `num / den`, the even one of two that are equally near. -/
def roundHalfEven (num den : Nat) : Nat :=
  if 2 * (num % den) < den ∨ (2 * (num % den) = den ∧ num / den % 2 = 0) then num / den
  else num / den + 1

/-- The rounded quotient is one of the two whole neighbours. -/
theorem roundHalfEven_mem (num den : Nat) :
    roundHalfEven num den = num / den ∨ roundHalfEven num den = num / den + 1 := by
  unfold roundHalfEven
  split
  · exact Or.inl rfl
  · exact Or.inr rfl

end Calculator.Decimal
