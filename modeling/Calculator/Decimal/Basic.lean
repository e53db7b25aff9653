/-!
# Decimal numbers

A decimal is a signed natural number times a power of ten. It is written without
an exponent and as short as it can be: no zero in front of the integer part, none
at the end of the fraction, and no point in front of nothing.
-/

namespace Calculator

/-- The number `± coefficient * 10 ^ exponent`; zero keeps its sign. -/
structure Decimal where
  negative : Bool
  coefficient : Nat
  exponent : Int
  deriving DecidableEq

namespace Decimal

-- Powers of natural numbers are those of the core library, whatever else is imported.
attribute [local instance (2000)] instPowNat

/-- The last `places` digits of `n`, with zeros in front where `n` has fewer. -/
def lastDigits : (places n : Nat) → List Char
  | 0, _ => []
  | places + 1, n => lastDigits places (n / 10) ++ [Nat.digitChar (n % 10)]

/-- The digits up to the last that is not zero. -/
def trimZeros (digits : List Char) : List Char :=
  (digits.reverse.dropWhile (· == '0')).reverse

/-- The point and the digits behind it, or nothing where no digit is left. -/
def fraction : List Char → List Char
  | [] => []
  | digit :: digits => '.' :: digit :: digits

/-- The characters of a number of hundredths, thousandths, …: `n / 10 ^ places`. -/
def positional (n places : Nat) : List Char :=
  Nat.toDigits 10 (n / 10 ^ places) ++ fraction (trimZeros (lastDigits places n))

/-- The decimal in full, with a minus sign if it is negative. -/
def text (d : Decimal) : String :=
  let digits := positional (d.coefficient * 10 ^ d.exponent.toNat) (-d.exponent).toNat
  String.ofList (if d.negative then '-' :: digits else digits)

example : (⟨true, 1250, -3⟩ : Decimal).text = "-1.25" := by decide +kernel

example : (⟨false, 3, 2⟩ : Decimal).text = "300" := by decide +kernel

example : (⟨true, 0, -2⟩ : Decimal).text = "-0" := by decide +kernel

/-! ### Digits -/

@[simp] theorem length_lastDigits (places n : Nat) : (lastDigits places n).length = places := by
  induction places generalizing n with
  | zero => rfl
  | succ places ih => simp [lastDigits, ih]

theorem isDigit_of_mem_lastDigits {places n : Nat} {c : Char} (h : c ∈ lastDigits places n) :
    c.isDigit = true := by
  induction places generalizing n with
  | zero => simp [lastDigits] at h
  | succ places ih =>
    rcases List.mem_append.mp h with h | h
    · exact ih h
    · rw [List.mem_singleton.mp h, Nat.isDigit_digitChar, decide_eq_true_iff]
      exact Nat.mod_lt _ (by decide)

/-- Reading the last digits back gives the remainder. -/
theorem ofDigitChars_lastDigits (places n : Nat) :
    Nat.ofDigitChars 10 (lastDigits places n) 0 = n % 10 ^ places := by
  induction places generalizing n with
  | zero => simp [lastDigits, Nat.mod_one]
  | succ places ih =>
    have hlt : n % 10 < 10 := Nat.mod_lt _ (by decide)
    rw [lastDigits, Nat.ofDigitChars_append, ih, Nat.ofDigitChars_cons_digitChar_of_lt_ten hlt,
      Nat.ofDigitChars_nil, Nat.pow_succ', Nat.mod_mul]
    exact Nat.add_comm _ _

end Decimal

end Calculator
