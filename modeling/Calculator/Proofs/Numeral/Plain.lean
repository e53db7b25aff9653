import Calculator.Decimal.Numeral
import Calculator.Grammar
import Mathlib.Data.List.TakeWhile

/-!
# Numerals of digits and points

The numbers of an expression are written with digits and points only, and with a
minus sign in front at most. Of such texts the numerals are those with a digit and
without a second point:

    isSome_ofText?_iff        : (Numeral.ofText? (String.ofList cs)).isSome ↔ IsUnsigned cs
    isSome_ofText?_minus_iff  : the same with a minus sign in front
-/

namespace Calculator.Numeral

/-! ### Digits up to a point -/

theorem eq_point_of_isNumberChar {c : Char} (h : isNumberChar c = true)
    (hdigit : c.isDigit = false) : c = '.' := by
  simpa [isNumberChar, hdigit] using h

theorem count_point_of_digits {cs : List Char} (h : ∀ c ∈ cs, c.isDigit = true) :
    cs.count '.' = 0 := by
  apply List.count_eq_zero.mpr
  intro hmem
  exact absurd (h '.' hmem) (by decide)

/-- Digits and points are digits only, or digits up to a point. -/
theorem digits_or_point {cs : List Char} (h : ∀ c ∈ cs, isNumberChar c = true) :
    (cs.takeWhile Char.isDigit = cs ∧ cs.dropWhile Char.isDigit = []) ∨
      ∃ rest, cs.dropWhile Char.isDigit = '.' :: rest ∧
        cs = cs.takeWhile Char.isDigit ++ '.' :: rest := by
  have hsplit : cs.takeWhile Char.isDigit ++ cs.dropWhile Char.isDigit = cs :=
    List.takeWhile_append_dropWhile
  cases hdrop : cs.dropWhile Char.isDigit with
  | nil =>
    left
    rw [hdrop, List.append_nil] at hsplit
    exact ⟨hsplit, rfl⟩
  | cons c rest =>
    right
    have hmem : c ∈ cs := hsplit ▸ List.mem_append_right _ (hdrop ▸ List.mem_cons_self)
    have hc : c.isDigit = false := by
      have hstop := List.head?_dropWhile_not Char.isDigit cs
      rw [hdrop] at hstop
      exact hstop
    obtain rfl := eq_point_of_isNumberChar (h c hmem) hc
    exact ⟨rest, rfl, by rw [← hdrop, hsplit]⟩

theorem isSome_natural?_iff {digits : List Char} (h : ∀ c ∈ digits, c.isDigit = true) :
    (natural? digits).isSome = true ↔ digits ≠ [] := by
  have hall : digits.all Char.isDigit = true := List.all_eq_true.mpr h
  by_cases hnil : digits = []
  · simp [natural?, hnil]
  · simp [natural?, hnil, hall]

/-- A decimal is there as soon as its digits and its power of ten are. -/
theorem isSome_decimal? (negative : Bool) (body : List Char) :
    (decimal? negative body).isSome =
      ((natural? (body.takeWhile Char.isDigit ++ (fraction (body.dropWhile Char.isDigit)).1)).isSome
        && (exponent? (fraction (body.dropWhile Char.isDigit)).2).isSome) := by
  unfold decimal?
  generalize fraction (body.dropWhile Char.isDigit) = parts
  obtain ⟨places, rest⟩ := parts
  cases hn : natural? (body.takeWhile Char.isDigit ++ places) <;>
    cases he : exponent? rest <;> simp [hn, he]

/-- Behind the digits of the fraction no point may follow. -/
theorem isSome_exponent?_iff {cs : List Char} (h : ∀ c ∈ cs, isNumberChar c = true) :
    (exponent? cs).isSome = true ↔ cs = [] := by
  cases cs with
  | nil => simp [exponent?]
  | cons c cs =>
    have hc : isNumberChar c = true := h c List.mem_cons_self
    have he : ¬(c = 'e' ∨ c = 'E') := by
      rintro (rfl | rfl) <;> exact absurd hc (by decide)
    simp [exponent?, he]

/-- Digits up to a point are an unsigned number if digits only follow, and there is one. -/
theorem isUnsigned_point_iff {whole rest : List Char} (hwhole : ∀ c ∈ whole, c.isDigit = true)
    (hrest : ∀ c ∈ rest, isNumberChar c = true) :
    IsUnsigned (whole ++ '.' :: rest) ↔
      (∀ c ∈ rest, c.isDigit = true) ∧ whole ++ rest ≠ [] := by
  have hcount : (whole ++ '.' :: rest).count '.' = rest.count '.' + 1 := by
    rw [List.count_append, count_point_of_digits hwhole, List.count_cons_self, Nat.zero_add]
  constructor
  · intro h
    obtain ⟨-, ⟨c, hc, hdigit⟩, hle⟩ := h
    have hnone : '.' ∉ rest := List.count_eq_zero.mp (by omega)
    refine ⟨fun d hd => ?_, ?_⟩
    · by_cases hdot : d.isDigit = true
      · exact hdot
      · rw [eq_point_of_isNumberChar (hrest d hd) (by simpa using hdot)] at hd
        exact absurd hd hnone
    · apply List.ne_nil_of_mem (a := c)
      rcases List.mem_append.mp hc with hc | hc
      · exact List.mem_append_left _ hc
      · rcases List.mem_cons.mp hc with rfl | hc
        · exact absurd hdigit (by decide)
        · exact List.mem_append_right _ hc
  · intro h
    obtain ⟨hdigits, hne⟩ := h
    obtain ⟨c, hc⟩ := List.exists_mem_of_ne_nil _ hne
    refine ⟨fun d hd => ?_, ⟨c, ?_, ?_⟩, ?_⟩
    · rcases List.mem_append.mp hd with hd | hd
      · simp [isNumberChar, hwhole d hd]
      · rcases List.mem_cons.mp hd with rfl | hd
        · rfl
        · exact hrest d hd
    · rcases List.mem_append.mp hc with hc | hc
      · exact List.mem_append_left _ hc
      · exact List.mem_append_right _ (List.mem_cons_of_mem _ hc)
    · rcases List.mem_append.mp hc with hc | hc
      · exact hwhole c hc
      · exact hdigits c hc
    · rw [hcount, count_point_of_digits hdigits]

theorem isSome_decimal?_iff {negative : Bool} {cs : List Char}
    (h : ∀ c ∈ cs, isNumberChar c = true) :
    (decimal? negative cs).isSome = true ↔ IsUnsigned cs := by
  rw [isSome_decimal?, Bool.and_eq_true]
  have hdigits : ∀ (ds : List Char), ∀ c ∈ ds.takeWhile Char.isDigit, c.isDigit = true :=
    fun ds c hc => List.mem_takeWhile_imp hc
  rcases digits_or_point h with ⟨hwhole, hdrop⟩ | ⟨rest, hdrop, hcs⟩
  · have hall := hdigits cs
    rw [hwhole] at hall
    have hnil : fraction ([] : List Char) = ([], []) := rfl
    rw [hwhole, hdrop, hnil, List.append_nil, isSome_natural?_iff hall]
    constructor
    · intro h
      obtain ⟨hne, -⟩ := h
      obtain ⟨c, hc⟩ := List.exists_mem_of_ne_nil _ hne
      refine ⟨h, ⟨c, hc, hall c hc⟩, ?_⟩
      rw [count_point_of_digits hall]
      exact Nat.zero_le 1
    · intro h
      obtain ⟨-, ⟨c, hc, -⟩, -⟩ := h
      exact ⟨List.ne_nil_of_mem hc, rfl⟩
  · have hrest : ∀ c ∈ rest, isNumberChar c = true := by
      intro c hc
      apply h c
      rw [hcs]
      exact List.mem_append_right _ (List.mem_cons_of_mem _ hc)
    have hpoint := isUnsigned_point_iff (hdigits cs) hrest
    rw [← hcs] at hpoint
    rw [hdrop, hpoint, fraction, isSome_natural?_iff, isSome_exponent?_iff,
      List.dropWhile_eq_nil_iff]
    · constructor
      · intro h
        obtain ⟨hne, hall⟩ := h
        rw [List.takeWhile_eq_self_iff.mpr hall] at hne
        exact ⟨hall, hne⟩
      · intro h
        obtain ⟨hall, hne⟩ := h
        rw [List.takeWhile_eq_self_iff.mpr hall]
        exact ⟨hne, hall⟩
    · exact fun c hc => hrest c (List.dropWhile_subset _ hc)
    · intro c hc
      rcases List.mem_append.mp hc with hc | hc
      · exact hdigits cs c hc
      · exact hdigits rest c hc

/-! ### No word is made of digits and points -/

theorem toLower_of_isNumberChar {c : Char} (h : isNumberChar c = true) : c.toLower = c := by
  have hupper : ¬(c.val ≥ 'A'.val ∧ c.val ≤ 'Z'.val) := by
    intro h
    obtain ⟨hA, -⟩ := h
    simp only [isNumberChar, Char.isDigit, Bool.or_eq_true, Bool.and_eq_true, decide_eq_true_eq,
      beq_iff_eq] at h
    rcases h with ⟨-, h9⟩ | rfl
    · exact absurd (UInt32.le_trans hA h9) (by decide)
    · exact absurd hA (by decide)
  unfold Char.toLower
  rw [dif_neg hupper]

theorem ofList_map_toLower_ne {cs : List Char} (h : ∀ c ∈ cs, isNumberChar c = true)
    (word : String) (letter : Char) (hletter : letter ∈ word.toList)
    (hname : isNumberChar letter = false) : String.ofList (cs.map Char.toLower) ≠ word := by
  rintro rfl
  have hmap : cs.map Char.toLower = cs := by
    rw [List.map_congr_left fun c hc => toLower_of_isNumberChar (h c hc), List.map_id']
  rw [String.toList_ofList, hmap] at hletter
  rw [h letter hletter] at hname
  exact absurd hname (by simp)

/-- Behind its sign, a text of digits and points is read as a decimal, if at all. -/
theorem ofText?_of_signed {text : String} {negative : Bool} {body : List Char}
    (hsigned : signed text.toList = (negative, body)) (h : ∀ c ∈ body, isNumberChar c = true) :
    ofText? text = (decimal? negative body).map .decimal := by
  have hinf := ofList_map_toLower_ne h "inf" 'i' (by decide) (by decide)
  have hinfinity := ofList_map_toLower_ne h "infinity" 'i' (by decide) (by decide)
  have hnan := ofList_map_toLower_ne h "nan" 'n' (by decide) (by decide)
  simp only [ofText?, hsigned, hinf, hinfinity, hnan, or_self, ↓reduceIte]

/-- Digits and points have no sign in front of them. -/
theorem signed_of_isNumberChar {cs : List Char} (h : ∀ c ∈ cs, isNumberChar c = true) :
    signed cs = (false, cs) := by
  unfold signed
  split
  · exact absurd (h '-' List.mem_cons_self) (by decide)
  · exact absurd (h '+' List.mem_cons_self) (by decide)
  · rfl

/-- Digits and points behind a minus sign, or without one, are read as a decimal, if at all. -/
theorem ofText?_ofList (negative : Bool) {cs : List Char} (h : ∀ c ∈ cs, isNumberChar c = true) :
    ofText? (String.ofList (if negative then '-' :: cs else cs)) =
      (decimal? negative cs).map .decimal := by
  refine ofText?_of_signed ?_ h
  rw [String.toList_ofList]
  cases negative with
  | false => exact signed_of_isNumberChar h
  | true => rfl

/-- Digits and points without a sign are a numeral just if they are an unsigned number. -/
theorem isSome_ofText?_iff {cs : List Char} (h : ∀ c ∈ cs, isNumberChar c = true) :
    (ofText? (String.ofList cs)).isSome = true ↔ IsUnsigned cs := by
  have hdecimal := ofText?_ofList false h
  rw [if_neg Bool.false_ne_true] at hdecimal
  rw [hdecimal, Option.isSome_map]
  exact isSome_decimal?_iff h

/-- A minus sign in front changes nothing about that. -/
theorem isSome_ofText?_minus_iff {cs : List Char} (h : ∀ c ∈ cs, isNumberChar c = true) :
    (ofText? (String.ofList ('-' :: cs))).isSome = true ↔ IsUnsigned cs := by
  have hdecimal := ofText?_ofList true h
  rw [if_pos rfl] at hdecimal
  rw [hdecimal, Option.isSome_map]
  exact isSome_decimal?_iff h

end Calculator.Numeral
