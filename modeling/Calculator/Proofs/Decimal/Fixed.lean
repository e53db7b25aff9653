import Calculator.Decimal.Fixed
import Calculator.Proofs.Binary64.Exact
import Calculator.Proofs.Decimal.Canonical

/-!
# What the display shows

A finite double is shown as the multiple of a power of ten that is nearest to it (`RoundsTo`),
written in canonical form. This number is found from its text, and has a sign just if it is
negative, so that doubles are shown alike just if the same multiple is nearest to them:

    exists_layout_display : x.isFinite = true → ∃ r, (∀ q, RoundsTo (toRat x) digits q ↔ q = r) ∧ …

The text is the one with all places, from whose end zeros and the point have been taken as long
as there was a point (`display_eq_trim`).
-/

namespace Calculator.Decimal

open Binary64 (infinity toRat)

-- Powers of natural numbers are those of the core library, whatever else is imported.
attribute [local instance (2000)] instPowNat

/-! ### Rounding to a number of places -/

/-- `r` is the multiple of `10 ^ -places` nearest to `q`, the even multiple of two that are equally
near. -/
def RoundsTo (q : ℚ) (places : ℕ) (r : ℚ) : Prop :=
  ∃ n : ℤ, IsRoundedInt (q * (10 ^ places : ℕ)) n ∧ r = n / (10 ^ places : ℕ)

theorem roundsTo_iff {q r : ℚ} {places : ℕ} {n : ℤ} (h : IsRoundedInt (q * (10 ^ places : ℕ)) n) :
    RoundsTo q places r ↔ r = n / (10 ^ places : ℕ) := by
  constructor
  · rintro ⟨m, hm, rfl⟩
    rw [hm.unique h]
  · intro hr
    exact ⟨n, h, hr⟩

/-- What the display shows is the magnitude, in units of the last place, as a rounded number. -/
theorem scaled_eq_iff {code places n : ℕ} :
    scaled code places = n ↔ IsRounded (Binary64.magnitude code * (10 ^ places : ℕ)) n := by
  have hone : scaled code places =
      roundHalfEven (Binary64.units code * 10 ^ places) Binary64.one := by
    unfold scaled Binary64.one Binary64.unitPlaces
    rfl
  have hpos : 0 < Binary64.one := Nat.two_pow_pos _
  rw [hone, roundHalfEven_eq_iff hpos, Binary64.magnitude, Nat.cast_mul, div_mul_eq_mul_div]

theorem magnitude_rounded (negative : Bool) (code places : ℕ) :
    (rounded negative code places).magnitude = scaled code places / (10 ^ places : ℕ) := by
  unfold rounded
  generalize scaled code places = n
  exact magnitude_of_nonpos rfl

theorem display_of_value {x : Float} {negative : Bool} {code : ℕ}
    (h : Binary64.value x = .finite negative code) (places : ℕ) :
    display x places = (rounded negative code places).text := by
  unfold display
  rw [h]

theorem exists_display_eq {x : Float} (h : x.isFinite = true) (places : ℕ) :
    ∃ negative code, code < infinity ∧ display x places = (rounded negative code places).text := by
  obtain ⟨negative, code, hcode, hvalue⟩ := (Binary64.isFinite_iff x).mp h
  exact ⟨negative, code, hcode, display_of_value hvalue places⟩

/-- With the sign in front of the coefficient, a zero has none by itself. -/
theorem rounded_eq (negative : Bool) (code places : ℕ) {n : ℤ}
    (h : n = if negative then -(scaled code places : ℤ) else scaled code places) :
    rounded negative code places = ⟨decide (n < 0), n.natAbs, -places⟩ := by
  unfold rounded
  generalize scaled code places = m at *
  subst h
  cases negative with
  | false => simp
  | true =>
    have hlt : (m != 0) = decide (-(m : ℤ) < 0) := by
      rw [Bool.eq_iff_iff, bne_iff_ne, decide_eq_true_iff]
      omega
    dsimp only
    rw [Bool.true_and, hlt, if_pos rfl, Int.natAbs_neg, Int.natAbs_natCast]

/-- A finite double is shown as a whole number of units of the last place. -/
theorem exists_display_eq_ofInt {x : Float} (h : x.isFinite = true) (places : ℕ) :
    ∃ n : ℤ, IsRoundedInt (toRat x * (10 ^ places : ℕ)) n ∧
      display x places = (Layout.ofInt n places).text := by
  obtain ⟨negative, code, -, hvalue⟩ := (Binary64.isFinite_iff x).mp h
  refine ⟨if negative then -(scaled code places : ℤ) else scaled code places, ?_, ?_⟩
  · rw [Binary64.toRat_of_value hvalue, signed_mul]
    exact (scaled_eq_iff.mp rfl).signed negative
  · rw [display_of_value hvalue, rounded_eq negative code places rfl, Layout.text_ofInt]

/-! ### The display of a finite double -/

/-- The integer part of a number is written in full. -/
theorem whole_ofInt (n : ℤ) (places : ℕ) :
    (Layout.ofInt n places).whole = Nat.toDigits 10 ⌊|(n : ℚ) / (10 ^ places : ℕ)|⌋₊ := by
  have habs : |(n : ℚ) / (10 ^ places : ℕ)| = (n.natAbs : ℚ) / (10 ^ places : ℕ) := by
    rw [abs_div, Nat.abs_cast, Nat.cast_natAbs, Int.cast_abs]
  rw [habs, Nat.floor_div_eq_div]
  rfl

/-- A finite double is rounded in one way only, and shown in one way only: its text has exactly one
canonical layout, whose parts stand for the rounded number, with a sign just if this is negative and
all digits of the integer part. -/
theorem exists_layout_display {x : Float} (h : x.isFinite = true) (digits : ℕ) :
    ∃ r : ℚ, (∀ q, RoundsTo (toRat x) digits q ↔ q = r) ∧
      (∃ l : Layout, (∀ l' : Layout, l'.IsCanonical digits ∧ display x digits = l'.text ↔ l' = l) ∧
        l.value = r ∧ (l.negative = true ↔ r < 0) ∧ l.whole = Nat.toDigits 10 ⌊|r|⌋₊) ∧
      display x digits ≠ "-0" ∧
      ∀ y : Float, y.isFinite = true →
        (display y digits = display x digits ↔ RoundsTo (toRat y) digits r) := by
  obtain ⟨n, hn, hx⟩ := exists_display_eq_ofInt h digits
  have hcanonical := Layout.isCanonical_ofInt n digits
  have hvalue := Layout.value_ofInt n digits
  have hpow := ten_pow_pos digits
  refine ⟨n / (10 ^ digits : ℕ), fun q => roundsTo_iff hn,
    ⟨Layout.ofInt n digits, fun l' => ?_, hvalue, ?_, whole_ofInt n digits⟩, ?_, fun y hy => ?_⟩
  · constructor
    · rintro ⟨hl', htext⟩
      exact hl'.eq_of_text_eq hcanonical (htext.symm.trans hx)
    · rintro rfl
      exact ⟨hcanonical, hx⟩
  · rw [div_lt_iff₀ hpow, zero_mul, Int.cast_lt_zero]
    exact decide_eq_true_iff
  · rw [hx]
    exact Layout.text_ofInt_ne n digits
  · obtain ⟨m, hm, hy'⟩ := exists_display_eq_ofInt hy digits
    rw [hx, hy', Layout.text_ofInt_inj, roundsTo_iff hm, div_left_inj' hpow.ne', Int.cast_inj]
    exact eq_comm

/-- An eighth is half-way between two decimals of two places, and is shown as the even one. -/
theorem roundsTo_eighth :
    (Float.ofBits 0x3fc0000000000000).isFinite = true ∧
      display (Float.ofBits 0x3fc0000000000000) 2 = "0.12" ∧
      RoundsTo (toRat (Float.ofBits 0x3fc0000000000000)) 2 (3 / 25) := by
  have hfinite : (Float.ofBits 0x3fc0000000000000).isFinite = true := by decide +kernel
  have hdisplay : display (Float.ofBits 0x3fc0000000000000) 2 = "0.12" := by decide +kernel
  have htext : (Layout.ofInt 12 2).text = "0.12" := by decide +kernel
  obtain ⟨r, hr, ⟨l, hl, hvalue, -, -⟩, -, -⟩ := exists_layout_display hfinite 2
  have hlayout : Layout.ofInt 12 2 = l :=
    (hl _).mp ⟨Layout.isCanonical_ofInt 12 2, hdisplay.trans htext.symm⟩
  refine ⟨hfinite, hdisplay, (hr _).mpr ?_⟩
  rw [← hvalue, ← hlayout, Layout.value_ofInt]
  norm_num

/-! ### The text with all its places -/

/-- A number with all its places, zeros at the end included, behind its sign. -/
def padded (negative : Bool) (n places : ℕ) : List Char :=
  (if negative then ['-'] else []) ++ Nat.toDigits 10 (n / 10 ^ places) ++
    if places = 0 then [] else '.' :: lastDigits places n

/-- Takes the zeros off the end of a text with a point, and then the point if nothing is left behind
it. -/
def trim (cs : List Char) : List Char :=
  if '.' ∈ cs then
    let kept := trimZeros cs
    if kept.getLast? = some '.' then kept.dropLast else kept
  else cs

/-- Takes the sign off a zero. -/
def unsignZero (cs : List Char) : List Char :=
  if cs = ['-', '0'] then ['0'] else cs

/-- Trimming does not go beyond the point. -/
theorem trim_append_point (cs : List Char) {digits : List Char}
    (h : ∀ c ∈ digits, c.isDigit = true) :
    trim (cs ++ '.' :: digits) = cs ++ fraction (trimZeros digits) := by
  obtain ⟨k, hk⟩ := exists_trimZeros_append digits
  have hlast := getLast?_trimZeros digits
  have hdigit : ∀ c ∈ trimZeros digits, c.isDigit = true := by
    intro c hc
    apply h
    rw [hk]
    exact List.mem_append_left _ hc
  have hkept : trimZeros (cs ++ '.' :: digits) = trimZeros (cs ++ '.' :: trimZeros digits) := by
    calc trimZeros (cs ++ '.' :: digits)
        = trimZeros ((cs ++ '.' :: trimZeros digits) ++ List.replicate k '0') := by
          rw [List.append_assoc, List.cons_append, ← hk]
      _ = trimZeros (cs ++ '.' :: trimZeros digits) := trimZeros_append_replicate _ k
  have hpoint : '.' ∈ cs ++ '.' :: digits := List.mem_append_right cs List.mem_cons_self
  rw [trim, if_pos hpoint, hkept]
  generalize trimZeros digits = kept at *
  rcases List.eq_nil_or_concat' kept with rfl | ⟨front, c, rfl⟩
  · rw [trimZeros_concat cs (by decide)]
    dsimp only
    rw [List.getLast?_concat, if_pos rfl, List.dropLast_concat]
    exact (List.append_nil cs).symm
  · have hzero : c ≠ '0' := by
      rintro rfl
      exact hlast List.getLast?_concat
    have hne : some c ≠ some '.' := by
      intro heq
      cases heq
      exact absurd (hdigit '.' List.mem_concat_self) (by decide)
    have hsplit : cs ++ '.' :: (front ++ [c]) = (cs ++ '.' :: front) ++ [c] := by simp
    have hfraction : fraction (front ++ [c]) = '.' :: (front ++ [c]) := by
      cases front <;> rfl
    rw [hfraction, hsplit, trimZeros_concat _ hzero]
    dsimp only
    rw [List.getLast?_concat, if_neg hne]

theorem trim_of_not_mem {cs : List Char} (h : '.' ∉ cs) : trim cs = cs :=
  if_neg h

/-- Zeros in front of the point are kept, be there a point or not. -/
theorem trim_padded (negative : Bool) (n places : ℕ) :
    trim (padded negative n places) = (if negative then ['-'] else []) ++ positional n places := by
  have hsign : '.' ∉ if negative then ['-'] else [] := by
    cases negative <;> decide
  rw [padded, positional]
  generalize (if negative then ['-'] else []) = sign at *
  cases places with
  | zero =>
    have hpoint : '.' ∉ sign ++ Nat.toDigits 10 (n / 10 ^ 0) := by
      rw [List.mem_append, not_or]
      exact ⟨hsign, fun hmem => absurd (isDigit_of_mem_toDigits hmem) (by decide)⟩
    rw [if_pos rfl, List.append_nil, trim_of_not_mem hpoint]
    exact congrArg (sign ++ ·) (List.append_nil _).symm
  | succ places =>
    rw [if_neg places.succ_ne_zero, trim_append_point _ fun _ => isDigit_of_mem_lastDigits,
      List.append_assoc]

/-- The display is the text with all places, trimmed. -/
theorem display_eq_trim {x : Float} {negative : Bool} {code : ℕ}
    (h : Binary64.value x = .finite negative code) (places : ℕ) :
    display x places =
      String.ofList (unsignZero (trim (padded negative (scaled code places) places))) := by
  rw [display_of_value h, trim_padded, rounded]
  generalize scaled code places = n
  rw [text_of_places]
  cases negative with
  | false =>
    have hne : positional n places ≠ ['-', '0'] := by
      apply Layout.ne_cons_sign Nat.toDigits_ne_nil
      exact fun _ => isDigit_of_mem_toDigits
    exact congrArg String.ofList (if_neg hne).symm
  | true =>
    show _ = String.ofList (unsignZero ('-' :: positional n places))
    by_cases hzero : n = 0
    · have hshown : positional n places = ['0'] := positional_eq_zero_iff.mpr hzero
      rw [hshown, hzero]
      rfl
    · have hne : '-' :: positional n places ≠ ['-', '0'] := by
        rwa [ne_eq, List.cons_inj_right, positional_eq_zero_iff]
      have hsigned : (true && n != 0) = true := bne_iff_ne.mpr hzero
      rw [unsignZero, if_neg hne, if_pos hsigned]

end Calculator.Decimal
