/-!
# Classes of characters given by ranges of code points

The Unicode properties that the calculator consults are finite unions of closed
ranges of code points; the ranges here are those of Unicode 17.0. A class is
written as the list of its ranges, and membership is a walk along that list:

    inRanges ranges c = true ↔ ∃ range ∈ ranges, range.1 ≤ c.toNat ∧ c.toNat ≤ range.2
-/

namespace Calculator.Text

/-- Whether the code point of `c` lies in one of the closed ranges `(first, last)`. -/
def inRanges (ranges : List (Nat × Nat)) (c : Char) : Bool :=
  ranges.any fun range => range.1 ≤ c.toNat && c.toNat ≤ range.2

theorem inRanges_eq_true_iff {ranges : List (Nat × Nat)} {c : Char} :
    inRanges ranges c = true ↔ ∃ range ∈ ranges, range.1 ≤ c.toNat ∧ c.toNat ≤ range.2 := by
  simp [inRanges]

/-- A character outside every range is outside the class. -/
theorem inRanges_eq_false_iff {ranges : List (Nat × Nat)} {c : Char} :
    inRanges ranges c = false ↔ ∀ range ∈ ranges, c.toNat < range.1 ∨ range.2 < c.toNat := by
  rw [← Bool.not_eq_true, inRanges_eq_true_iff]
  constructor
  · intro h range hr
    rcases Nat.lt_or_ge c.toNat range.1 with hlt | hge
    · exact Or.inl hlt
    · exact Or.inr (Nat.lt_of_not_le fun hle => h ⟨range, hr, hge, hle⟩)
  · rintro h ⟨range, hr, hle, hge⟩
    rcases h range hr with hlt | hlt <;> omega

end Calculator.Text
