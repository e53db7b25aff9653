import Calculator.Proofs.Decimal.Rounding
import Calculator.Proofs.Decimal.Text

/-!
# The form of a written decimal

A decimal is written as a sign, the digits of its integer part and those behind the point
(`Layout`). No digit is superfluous (`Layout.IsCanonical`), and the parts can be read off the
text in one way only:

    eq_of_text_eq : l.IsCanonical digits → l'.IsCanonical digits' → l.text = l'.text → l = l'

So a text stands for one number. The digits of a whole number of hundredths, thousandths, …
are the canonical layout of this number (`ofInt`).
-/

namespace Calculator.Decimal

-- Powers of natural numbers are those of the core library, whatever else is imported.
attribute [local instance (2000)] instPowNat

/-- The parts of a written number. -/
structure Layout where
  negative : Bool
  /-- The digits of the integer part. -/
  whole : List Char
  /-- The digits behind the point. -/
  places : List Char

namespace Layout

/-- The parts one after the other, without a point if no digit is behind it. -/
def text (l : Layout) : String :=
  let unsigned := l.whole ++ fraction l.places
  String.ofList (if l.negative then '-' :: unsigned else unsigned)

/-- The number for which the parts stand. -/
def value (l : Layout) : ℚ :=
  signed l.negative
    (Nat.ofDigitChars 10 (l.whole ++ l.places) 0 / (10 ^ l.places.length : ℕ))

/-- Digits on both sides of the point, none of which could be left out, and at most `digits` behind
it. -/
structure IsCanonical (l : Layout) (digits : ℕ) : Prop where
  whole_ne_nil : l.whole ≠ []
  isDigit_whole : ∀ c ∈ l.whole, c.isDigit = true
  /-- Only zero itself begins with a zero. -/
  head?_whole : l.whole.head? = some '0' → l.whole = ['0']
  isDigit_places : ∀ c ∈ l.places, c.isDigit = true
  length_places_le : l.places.length ≤ digits
  getLast?_places : l.places.getLast? ≠ some '0'

/-! ### Reading a text -/

/-- A sign is no digit, so it can be told from what is behind it. -/
theorem ne_cons_sign {whole : List Char} (hne : whole ≠ [])
    (hdigit : ∀ c ∈ whole, c.isDigit = true) (rest cs : List Char) :
    whole ++ rest ≠ '-' :: cs := by
  cases whole with
  | nil => exact absurd rfl hne
  | cons c whole =>
    intro h
    cases h
    exact absurd (hdigit '-' List.mem_cons_self) (by decide)

/-- The parts can be read off the text. -/
theorem IsCanonical.eq_of_text_eq {l l' : Layout} {digits digits' : ℕ} (h : l.IsCanonical digits)
    (h' : l'.IsCanonical digits') (htext : l.text = l'.text) : l = l' := by
  obtain ⟨negative, whole, places⟩ := l
  obtain ⟨negative', whole', places'⟩ := l'
  have hlist := String.ofList_injective htext
  cases negative with
  | false =>
    cases negative' with
    | false =>
      obtain ⟨rfl, rfl⟩ := append_fraction_inj h.isDigit_whole h'.isDigit_whole hlist
      rfl
    | true => exact absurd hlist (ne_cons_sign h.whole_ne_nil h.isDigit_whole _ _)
  | true =>
    cases negative' with
    | false => exact absurd hlist.symm (ne_cons_sign h'.whole_ne_nil h'.isDigit_whole _ _)
    | true =>
      obtain ⟨rfl, rfl⟩ :=
        append_fraction_inj h.isDigit_whole h'.isDigit_whole (List.cons_injective hlist)
      rfl

/-! ### Digits of natural numbers -/

/-- The digits of a positive number do not begin with a zero. -/
theorem head?_toDigits_ne {n : ℕ} (h : 0 < n) : (Nat.toDigits 10 n).head? ≠ some '0' := by
  induction n using Nat.strong_induction_on with
  | _ n ih =>
    rcases Nat.lt_or_ge n 10 with hlt | hge
    · rw [Nat.toDigits_of_lt_base hlt, List.head?_cons]
      intro hzero
      have hdigit : n.digitChar = '0' := Option.some_injective _ hzero
      rw [Nat.digitChar_eq_zero] at hdigit
      omega
    · -- The leading digit is that of the number without its last digit.
      have hfront := ih (n / 10) (by omega) (by omega)
      rw [Nat.toDigits_of_base_le (by decide) hge,
        List.head?_append_of_ne_nil _ Nat.toDigits_ne_nil]
      exact hfront

/-! ### Whole numbers of small units -/

/-- The layout of `n / 10 ^ places`. -/
def ofInt (n : ℤ) (places : ℕ) : Layout where
  negative := decide (n < 0)
  whole := Nat.toDigits 10 (n.natAbs / 10 ^ places)
  places := trimZeros (lastDigits places n.natAbs)

theorem isCanonical_ofInt (n : ℤ) (places : ℕ) : (ofInt n places).IsCanonical places where
  whole_ne_nil := Nat.toDigits_ne_nil
  isDigit_whole := fun _ => isDigit_of_mem_toDigits
  head?_whole := by
    intro hhead
    have hzero : n.natAbs / 10 ^ places = 0 := by
      by_contra hne
      exact head?_toDigits_ne (Nat.pos_of_ne_zero hne) hhead
    rw [ofInt, hzero]
    rfl
  isDigit_places := fun _ => isDigit_of_mem_trimZeros
  length_places_le := by
    obtain ⟨k, hlength, -⟩ := exists_ofDigitChars_mul_pow n.natAbs places
    exact Nat.le.intro hlength
  getLast?_places := getLast?_trimZeros _

theorem signed_natAbs (n : ℤ) : signed (decide (n < 0)) n.natAbs = n := by
  rw [signed, Nat.cast_natAbs]
  by_cases h : n < 0
  · rw [if_pos (decide_eq_true h), abs_of_neg h, Int.cast_neg, neg_neg]
  · rw [if_neg (by simpa using h), abs_of_nonneg (not_lt.mp h)]

theorem value_ofInt (n : ℤ) (places : ℕ) : (ofInt n places).value = n / (10 ^ places : ℕ) := by
  have hvalue := ofDigitChars_div_pow n.natAbs places
  unfold value ofInt
  dsimp only
  rw [hvalue, div_eq_mul_inv, ← signed_mul, signed_natAbs, ← div_eq_mul_inv]

/-- This is how the decimal `n / 10 ^ places` is written. -/
theorem text_ofInt (n : ℤ) (places : ℕ) :
    (ofInt n places).text = (⟨decide (n < 0), n.natAbs, -places⟩ : Decimal).text := by
  rw [text_of_places]
  rfl

theorem text_ofInt_inj {m n : ℤ} {places : ℕ} :
    (ofInt m places).text = (ofInt n places).text ↔ m = n := by
  constructor
  · intro htext
    have hlayout := (isCanonical_ofInt m places).eq_of_text_eq (isCanonical_ofInt n places) htext
    have hvalue := congrArg value hlayout
    rw [value_ofInt, value_ofInt, div_left_inj' (ten_pow_pos places).ne'] at hvalue
    exact_mod_cast hvalue
  · rintro rfl
    rfl

/-- Zero has no sign. -/
theorem text_ofInt_ne (n : ℤ) (places : ℕ) : (ofInt n places).text ≠ "-0" := by
  let minusZero : Layout := ⟨true, ['0'], []⟩
  have hcanonical : minusZero.IsCanonical places :=
    { whole_ne_nil := List.cons_ne_nil _ _
      isDigit_whole := List.forall_mem_singleton.mpr rfl
      head?_whole := fun _ => rfl
      isDigit_places := List.forall_mem_nil _
      length_places_le := Nat.zero_le places
      getLast?_places := nofun }
  have hzero : minusZero.value = 0 := by
    have hdigits : Nat.ofDigitChars 10 ['0'] 0 = 0 := rfl
    simp [minusZero, value, hdigits]
  intro htext
  have hlayout := (isCanonical_ofInt n places).eq_of_text_eq hcanonical htext
  have hnegative : n < 0 := of_decide_eq_true (congrArg negative hlayout)
  rw [← hlayout, value_ofInt, div_eq_zero_iff, or_iff_left (ten_pow_pos places).ne',
    Int.cast_eq_zero] at hzero
  exact hnegative.ne hzero

end Layout

end Calculator.Decimal
