import Calculator.Proofs.Numeral.Plain
import Mathlib.Algebra.Order.Field.Rat
import Mathlib.Data.List.TakeWhile
import Mathlib.Tactic.FieldSimp

/-!
# Reading back what is written

The text of a decimal is one number of an expression (`writtenAs_text`), and read as a
numeral it stands for the same number with the same sign, zero included:

    exists_ofText?_text : ∃ d', Numeral.ofText? d.text = some (.decimal d') ∧
      d'.negative = d.negative ∧ d'.magnitude = d.magnitude

Zeros at the end of the fraction are lost on the way, so that `d'` need not be `d`.
-/

namespace Calculator.Decimal

-- Powers of natural numbers are those of the core library, whatever else is imported.
attribute [local instance (2000)] instPowNat

/-- The number for which a decimal stands, apart from its sign. -/
def magnitude (d : Decimal) : ℚ :=
  d.coefficient * (10 : ℚ) ^ d.exponent

/-- Powers of ten may be divided by. -/
theorem ten_pow_pos (n : ℕ) : (0 : ℚ) < (10 ^ n : ℕ) := by
  exact_mod_cast Nat.pow_pos (by decide)

variable {d : Decimal} {n : ℕ}

theorem magnitude_of_nonneg (h : d.exponent = n) : d.magnitude = (d.coefficient * 10 ^ n : ℕ) := by
  rw [magnitude, h, zpow_natCast]
  push_cast
  rfl

theorem magnitude_of_nonpos (h : d.exponent = -(n : ℤ)) :
    d.magnitude = d.coefficient / (10 ^ n : ℕ) := by
  rw [magnitude, h, zpow_neg, zpow_natCast, ← div_eq_mul_inv]
  push_cast
  rfl

/-- In positional notation no power of ten is left over. -/
theorem magnitude_eq_div (d : Decimal) :
    d.magnitude = (d.coefficient * 10 ^ d.exponent.toNat : ℕ) / (10 ^ (-d.exponent).toNat : ℕ) := by
  rcases Int.le_total 0 d.exponent with h | h
  · obtain ⟨n, hn⟩ := Int.eq_ofNat_of_zero_le h
    rw [magnitude_of_nonneg hn, hn]
    simp
  · obtain ⟨n, hn⟩ := Int.eq_ofNat_of_zero_le (Int.neg_nonneg_of_nonpos h)
    rw [magnitude_of_nonpos (n := n) (by omega), hn, Int.toNat_of_nonpos h]
    simp

/-! ### Digits -/

/-- Trimming keeps the digits in front of some zeros. -/
theorem exists_trimZeros_append (digits : List Char) :
    ∃ k, digits = trimZeros digits ++ List.replicate k '0' := by
  let zeros := digits.reverse.takeWhile (· == '0')
  have hzeros : zeros = List.replicate zeros.length '0' :=
    List.eq_replicate_of_mem fun c hc => by simpa using List.mem_takeWhile_imp hc
  refine ⟨zeros.length, ?_⟩
  calc digits = (zeros ++ digits.reverse.dropWhile (· == '0')).reverse := by
        rw [List.takeWhile_append_dropWhile, List.reverse_reverse]
    _ = trimZeros digits ++ zeros.reverse := List.reverse_append
    _ = trimZeros digits ++ List.replicate zeros.length '0' := by
        rw [hzeros, List.reverse_replicate, List.length_replicate]

theorem trimZeros_append_replicate (cs : List Char) (k : ℕ) :
    trimZeros (cs ++ List.replicate k '0') = trimZeros cs := by
  have hzeros : ∀ c ∈ List.replicate k '0', (c == '0') = true := by
    intro c hc
    rw [List.eq_of_mem_replicate hc]
    rfl
  rw [trimZeros, trimZeros, List.reverse_append, List.reverse_replicate,
    List.dropWhile_append_of_pos hzeros]

theorem trimZeros_concat (cs : List Char) {c : Char} (h : c ≠ '0') :
    trimZeros (cs ++ [c]) = cs ++ [c] := by
  have hstop : (c :: cs.reverse).dropWhile (· == '0') = c :: cs.reverse :=
    List.dropWhile_cons_of_neg (by rwa [beq_iff_eq])
  rw [trimZeros, List.reverse_concat, hstop, ← List.reverse_concat, List.reverse_reverse]

theorem getLast?_trimZeros (digits : List Char) : (trimZeros digits).getLast? ≠ some '0' := by
  rw [trimZeros, List.getLast?_reverse]
  intro hlast
  have hnot := List.head?_dropWhile_not (· == '0') digits.reverse
  rw [hlast] at hnot
  exact absurd hnot (by decide)

/-- The digits on both sides of the point, and the zeros that are left out, are those of `n`. -/
theorem exists_ofDigitChars_mul_pow (n places : ℕ) :
    ∃ k, (trimZeros (lastDigits places n)).length + k = places ∧
      Nat.ofDigitChars 10
        (Nat.toDigits 10 (n / 10 ^ places) ++ trimZeros (lastDigits places n)) 0 * 10 ^ k = n := by
  obtain ⟨k, hk⟩ := exists_trimZeros_append (lastDigits places n)
  have hlength := congrArg List.length hk
  rw [length_lastDigits, List.length_append, List.length_replicate] at hlength
  refine ⟨k, hlength.symm, ?_⟩
  rw [Nat.mul_comm, ← Nat.ofDigitChars_replicate_zero, ← Nat.ofDigitChars_append, List.append_assoc,
    ← hk, Nat.ofDigitChars_append, Nat.ofDigitChars_ten_toDigits,
    Nat.ofDigitChars_eq_ofDigitChars_zero, length_lastDigits, ofDigitChars_lastDigits]
  exact Nat.div_add_mod n (10 ^ places)

/-- They stand for `n / 10 ^ places`. -/
theorem ofDigitChars_div_pow (n places : ℕ) :
    (Nat.ofDigitChars 10
      (Nat.toDigits 10 (n / 10 ^ places) ++ trimZeros (lastDigits places n)) 0 : ℚ) /
        (10 ^ (trimZeros (lastDigits places n)).length : ℕ) = n / (10 ^ places : ℕ) := by
  obtain ⟨k, hplaces, hn⟩ := exists_ofDigitChars_mul_pow n places
  generalize (trimZeros (lastDigits places n)).length = length at *
  generalize Nat.ofDigitChars 10 _ 0 = m at *
  subst hn hplaces
  rw [Nat.pow_add]
  push_cast
  field_simp

theorem isDigit_of_mem_trimZeros {n places : ℕ} {c : Char}
    (h : c ∈ trimZeros (lastDigits places n)) : c.isDigit = true := by
  obtain ⟨k, hk⟩ := exists_trimZeros_append (lastDigits places n)
  have hmem : c ∈ lastDigits places n := hk ▸ List.mem_append_left _ h
  exact isDigit_of_mem_lastDigits hmem

theorem isDigit_of_mem_toDigits {n : ℕ} {c : Char} (h : c ∈ Nat.toDigits 10 n) :
    c.isDigit = true :=
  Nat.isDigit_of_mem_toDigits (by decide) (by decide) h

theorem lastDigits_zero (places : ℕ) : lastDigits places 0 = List.replicate places '0' := by
  induction places with
  | zero => rfl
  | succ places ih =>
    rw [lastDigits, Nat.zero_div, ih, List.replicate_succ']
    rfl

/-! ### Positional notation -/

theorem isNumberChar_of_mem_positional {n places : ℕ} {c : Char} (h : c ∈ positional n places) :
    isNumberChar c = true := by
  rcases List.mem_append.mp h with hwhole | hfraction
  · simp [isNumberChar, isDigit_of_mem_toDigits hwhole]
  · cases htrim : trimZeros (lastDigits places n) with
    | nil => simp [htrim, fraction] at hfraction
    | cons d ds =>
      rw [htrim] at hfraction
      rcases List.mem_cons.mp hfraction with rfl | hc
      · rfl
      · simp [isNumberChar, isDigit_of_mem_trimZeros (htrim ▸ hc)]

/-- A point and digits behind it are read as these digits. -/
theorem fraction_fraction {digits : List Char} (h : ∀ c ∈ digits, c.isDigit = true) :
    Numeral.fraction (fraction digits) = (digits, []) := by
  cases digits with
  | nil => rfl
  | cons d ds =>
    have htake := List.takeWhile_eq_self_iff.mpr h
    have hdrop := List.dropWhile_eq_nil_iff.mpr h
    simp only [fraction, Numeral.fraction, htake, hdrop]

/-- The fraction begins where the digits of the integer part end. -/
theorem takeWhile_append_fraction {whole : List Char} (h : ∀ c ∈ whole, c.isDigit = true)
    (digits : List Char) : (whole ++ fraction digits).takeWhile Char.isDigit = whole := by
  have hstop : (fraction digits).takeWhile Char.isDigit = [] := by
    cases digits <;> rfl
  rw [List.takeWhile_append_of_pos h, hstop, List.append_nil]

theorem dropWhile_append_fraction {whole : List Char} (h : ∀ c ∈ whole, c.isDigit = true)
    (digits : List Char) :
    (whole ++ fraction digits).dropWhile Char.isDigit = fraction digits := by
  rw [List.dropWhile_append_of_pos h]
  cases digits <;> rfl

theorem fraction_injective {places places' : List Char} (h : fraction places = fraction places') :
    places = places' := by
  cases places with
  | nil =>
    cases places' with
    | nil => rfl
    | cons => cases h
  | cons =>
    cases places' with
    | nil => cases h
    | cons =>
      cases h
      rfl

/-- Digits on both sides of the point can be told apart. -/
theorem append_fraction_inj {whole whole' places places' : List Char}
    (h : ∀ c ∈ whole, c.isDigit = true) (h' : ∀ c ∈ whole', c.isDigit = true)
    (heq : whole ++ fraction places = whole' ++ fraction places') :
    whole = whole' ∧ places = places' := by
  have htake := congrArg (List.takeWhile Char.isDigit) heq
  have hdrop := congrArg (List.dropWhile Char.isDigit) heq
  rw [takeWhile_append_fraction h, takeWhile_append_fraction h'] at htake
  rw [dropWhile_append_fraction h, dropWhile_append_fraction h'] at hdrop
  exact ⟨htake, fraction_injective hdrop⟩

/-- Digits and a fraction are read digit by digit. -/
theorem decimal?_append_fraction (negative : Bool) {whole digits : List Char}
    (hne : whole ≠ []) (hwhole : ∀ c ∈ whole, c.isDigit = true)
    (hdigits : ∀ c ∈ digits, c.isDigit = true) :
    Numeral.decimal? negative (whole ++ fraction digits) =
      some ⟨negative, Nat.ofDigitChars 10 (whole ++ digits) 0, -digits.length⟩ := by
  have hall : (whole ++ digits).all Char.isDigit = true := by
    rw [List.all_append, List.all_eq_true.mpr hwhole, List.all_eq_true.mpr hdigits]
    rfl
  have hnatural : Numeral.natural? (whole ++ digits) =
      some (Nat.ofDigitChars 10 (whole ++ digits) 0) :=
    if_pos ⟨List.append_ne_nil_of_left_ne_nil hne digits, hall⟩
  unfold Numeral.decimal?
  rw [takeWhile_append_fraction hwhole, dropWhile_append_fraction hwhole, fraction_fraction hdigits]
  simp only [hnatural, Numeral.exponent?, Int.zero_sub]

/-- What is written in positional notation is read as the same quotient. -/
theorem exists_decimal?_positional (negative : Bool) (n places : ℕ) :
    ∃ d, Numeral.decimal? negative (positional n places) = some d ∧ d.negative = negative ∧
      d.magnitude = n / (10 ^ places : ℕ) := by
  refine ⟨_, decimal?_append_fraction negative Nat.toDigits_ne_nil
    (fun c hc => isDigit_of_mem_toDigits hc) (fun c hc => isDigit_of_mem_trimZeros hc), rfl, ?_⟩
  rw [magnitude_of_nonpos rfl, ofDigitChars_div_pow]

/-- Only zero is written as one zero. -/
theorem positional_eq_zero_iff {n places : ℕ} : positional n places = ['0'] ↔ n = 0 := by
  constructor
  · intro hzero
    obtain ⟨k, -, hn⟩ := exists_ofDigitChars_mul_pow n places
    have hone : positional n places = ['0'] ++ fraction [] := hzero
    obtain ⟨hwhole, hplaces⟩ := append_fraction_inj (fun _ => isDigit_of_mem_toDigits)
      (List.forall_mem_singleton.mpr rfl) hone
    rw [hwhole, hplaces] at hn
    rw [← hn]
    exact Nat.zero_mul _
  · rintro rfl
    have hplaces : trimZeros (lastDigits places 0) = [] := by
      rw [lastDigits_zero]
      exact trimZeros_append_replicate [] places
    rw [positional, Nat.zero_div, hplaces]
    rfl

/-! ### The text of a decimal -/

theorem isUnsigned_positional (n places : ℕ) : IsUnsigned (positional n places) := by
  obtain ⟨d, hd, -⟩ := exists_decimal?_positional false n places
  rw [← Numeral.isSome_decimal?_iff fun c hc => isNumberChar_of_mem_positional hc, hd]
  rfl

/-- The text of a number of hundredths, thousandths, … -/
theorem text_of_places (negative : Bool) (n places : ℕ) :
    (⟨negative, n, -places⟩ : Decimal).text =
      String.ofList (if negative then '-' :: positional n places else positional n places) := by
  have hshift : (-(places : ℤ)).toNat = 0 := by omega
  have hplaces : (- -(places : ℤ)).toNat = places := by omega
  rw [text, hshift, hplaces, Nat.pow_zero, Nat.mul_one]

/-- Reading the text of a decimal gives its sign and its magnitude back. -/
theorem exists_ofText?_text (d : Decimal) :
    ∃ d', Numeral.ofText? d.text = some (.decimal d') ∧ d'.negative = d.negative ∧
      d'.magnitude = d.magnitude := by
  obtain ⟨d', hread, hnegative, hmagnitude⟩ := exists_decimal?_positional d.negative
    (d.coefficient * 10 ^ d.exponent.toNat) (-d.exponent).toNat
  refine ⟨d', ?_, hnegative, ?_⟩
  · unfold text
    rw [Numeral.ofText?_ofList _ fun c hc => isNumberChar_of_mem_positional hc, hread]
    rfl
  · rw [hmagnitude, magnitude_eq_div]

/-- An unsigned number, behind a minus sign or not, is an expression. -/
theorem writtenAs_number (negative : Bool) {cs : List Char} (h : IsUnsigned cs) :
    (Expr.number (String.ofList (if negative then '-' :: cs else cs))).WrittenAs
      (String.ofList (if negative then '-' :: cs else cs)) := by
  rw [Expr.WrittenAs, String.toList_ofList]
  refine Expr.Written.mono ?_ le_rfl (show 1 ≤ 4 by decide)
  cases negative with
  | false => exact .unsigned h
  | true => exact .signed h

/-- The text of a decimal is an expression that is one number. -/
theorem writtenAs_text (d : Decimal) : (Expr.number d.text).WrittenAs d.text :=
  writtenAs_number d.negative (isUnsigned_positional _ _)

end Calculator.Decimal
