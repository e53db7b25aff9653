import Calculator.Text.Capitals
import Calculator.Text.Cased
import Calculator.Text.CaseIgnorable

/-!
# Small letters

The full lowercase mapping of Unicode on a text. All characters but one are
mapped on their own, most of them to a single character, the dotted capital I to
two. The capital sigma looks around: at the end of a word it becomes `ς`, and
elsewhere `σ`.
-/

namespace Calculator.Text

/-- The small letters of a character by itself: itself unless it is a capital. -/
def lowerChar (c : Char) : List Char :=
  if c = 'İ' then ['i', '\u0307']
  else match capitals.find? (·.contains c.toNat) with
    | some run => [Char.ofNat (run.lower c.toNat)]
    | none => [c]

/-! ### The capital sigma -/

/-- Whether the first character of `cs` that is not case-ignorable is cased. -/
def meetsCased (cs : List Char) : Bool :=
  (cs.dropWhile isCaseIgnorable).head?.any isCased

/-- The small letter of a capital sigma, given the characters before it, nearest first, and those
after it: it is final behind a letter that no letter follows. -/
def lowerSigma (before after : List Char) : Char :=
  if meetsCased before && !meetsCased after then 'ς' else 'σ'

/-! ### Texts -/

/-- The small letters of `cs`, where `before` holds the characters in front of it, nearest first. -/
def lowerAfter (before : List Char) : List Char → List Char
  | [] => []
  | c :: cs =>
    (if c = 'Σ' then [lowerSigma before cs] else lowerChar c) ++ lowerAfter (c :: before) cs

/-- The small letters of a whole text. -/
def lower (cs : List Char) : List Char :=
  lowerAfter [] cs

-- The sigma at the end of a word differs from the others, also before a mark that is no letter.
example : lower "ΣΑΣ ΣΑΣ.".toList = "σας σας.".toList := by decide +kernel

example : lower "İ".toList = ['i', '\u0307'] := by decide +kernel

/-! ### Character by character -/

/-- A character is the dotted capital I, or none of the capitals, or in a run of them. -/
theorem lowerChar_cases (c : Char) :
    lowerChar c = ['i', '\u0307'] ∨
      (c ≠ 'İ' ∧ capitals.find? (·.contains c.toNat) = none ∧ lowerChar c = [c]) ∨
      ∃ run ∈ capitals, run.contains c.toNat = true ∧
        lowerChar c = [Char.ofNat (run.lower c.toNat)] := by
  unfold lowerChar
  split
  · exact .inl rfl
  · next hdotted =>
    cases hfind : capitals.find? (·.contains c.toNat) with
    | none => exact .inr (.inl ⟨hdotted, rfl, rfl⟩)
    | some run =>
      have hcontains := List.find?_some hfind
      exact .inr (.inr ⟨run, List.mem_of_find?_eq_some hfind, hcontains, rfl⟩)

/-- Without a sigma there is nothing to look around for. -/
theorem lower_eq_map {f : Char → Char} {cs : List Char}
    (h : ∀ c ∈ cs, c ≠ 'Σ' ∧ lowerChar c = [f c]) : lower cs = cs.map f := by
  have hafter : ∀ before, lowerAfter before cs = cs.map f := by
    induction cs with
    | nil => exact fun _ => rfl
    | cons c cs ih =>
      intro before
      obtain ⟨hsigma, hlower⟩ := h c List.mem_cons_self
      rw [lowerAfter, if_neg hsigma, hlower, List.map_cons,
        ih fun d hd => h d (List.mem_cons_of_mem c hd)]
      rfl
  exact hafter []

/-! ### ASCII -/

/-- Of the runs of capitals, only the first begins in ASCII. -/
theorem find?_capitals_of_ascii {code : Nat} (h : code < 128) :
    capitals.find? (·.contains code) = (capitals.take 1).find? (·.contains code) := by
  have hlater : ∀ run ∈ capitals.drop 1, 128 ≤ run.first := by decide +kernel
  have hnone : (capitals.drop 1).find? (·.contains code) = none := by
    rw [List.find?_eq_none]
    intro run hrun hcontains
    have hle := hlater run hrun
    obtain ⟨hfirst, -, -⟩ := CaseRun.contains_eq_true_iff.mp hcontains
    omega
  calc capitals.find? (·.contains code)
    _ = (capitals.take 1 ++ capitals.drop 1).find? (·.contains code) := by
      rw [List.take_append_drop]
    _ = (capitals.take 1).find? (·.contains code) := by
      rw [List.find?_append, hnone, Option.or_none]

theorem lowerChar_of_ascii {c : Char} (h : c.toNat < 128) : lowerChar c = [c.toLower] := by
  have all : ∀ n : Fin 128,
      (match (capitals.take 1).find? (·.contains n.val) with
        | some run => [Char.ofNat (run.lower n.val)]
        | none => [Char.ofNat n.val]) = [(Char.ofNat n.val).toLower] := by
    decide +kernel
  have hne : c ≠ 'İ' := by
    rintro rfl
    exact absurd h (by decide)
  rw [lowerChar, if_neg hne, find?_capitals_of_ascii h]
  simpa using all ⟨c.toNat, h⟩

/-- In ASCII the small letters are those of each character by itself. -/
theorem lower_of_ascii {cs : List Char} (h : ∀ c ∈ cs, c.toNat < 128) :
    lower cs = cs.map Char.toLower := by
  refine lower_eq_map fun c hc => ⟨?_, lowerChar_of_ascii (h c hc)⟩
  rintro rfl
  exact absurd (h _ hc) (by decide)

/-! ### Beyond ASCII -/

theorem CaseRun.le_of_contains {run : CaseRun} {code : Nat} (h : run.contains code = true) :
    run.first ≤ code ∧ code ≤ run.last := by
  obtain ⟨hfirst, hlast, -⟩ := contains_eq_true_iff.mp h
  exact ⟨hfirst, hlast⟩

/-- Every run of capitals is mapped to code points of characters. -/
theorem CaseRun.toNat_ofNat_lower {run : CaseRun} (hrun : run ∈ capitals) {code : Nat}
    (h : run.contains code = true) : (Char.ofNat (run.lower code)).toNat = run.lower code := by
  have hall : ∀ run ∈ capitals, run.image + (run.last - run.first) < 0xd800 ∨
      0xdfff < run.image ∧ run.image + (run.last - run.first) < 0x110000 := by
    decide +kernel
  have hvalid : (run.lower code).isValidChar := by
    have hbounds := hall run hrun
    have hle := le_of_contains h
    unfold Nat.isValidChar lower
    omega
  rw [Char.ofNat, dif_pos hvalid]
  rfl

/-- Of the capitals beyond ASCII, only the Kelvin sign has its small letter in ASCII. -/
theorem CaseRun.le_lower {run : CaseRun} (hrun : run ∈ capitals) {code : Nat}
    (h : run.contains code = true) (hcode : 128 ≤ code) (hkelvin : code ≠ 0x212a) :
    128 ≤ run.lower code := by
  have hall : ∀ run ∈ capitals,
      run.last < 128 ∨ (run.first = 0x212a ∧ run.last = 0x212a) ∨ 128 ≤ run.image := by
    decide +kernel
  have hrange := hall run hrun
  have hle := le_of_contains h
  unfold lower
  omega

/-- The dotted capital I becomes an `i`, but the mark behind it stays beyond ASCII. -/
theorem exists_mem_lowerChar {c : Char} (h : 128 ≤ c.toNat) (hkelvin : c.toNat ≠ 0x212a) :
    ∃ d ∈ lowerChar c, 128 ≤ d.toNat := by
  rcases lowerChar_cases c with hdotted | ⟨-, -, hself⟩ | ⟨run, hrun, hcontains, hlower⟩
  · rw [hdotted]
    exact ⟨'\u0307', by simp, by decide⟩
  · rw [hself]
    exact ⟨c, List.mem_singleton_self c, h⟩
  · rw [hlower]
    refine ⟨_, List.mem_singleton_self _, ?_⟩
    rw [CaseRun.toNat_ofNat_lower hrun hcontains]
    exact CaseRun.le_lower hrun hcontains h hkelvin

theorem le_lowerSigma (before after : List Char) : 128 ≤ (lowerSigma before after).toNat := by
  unfold lowerSigma
  split <;> decide

/-- Each character leaves its small letters in those of the text. -/
theorem exists_subset_lower {cs : List Char} {c : Char} (hc : c ∈ cs) :
    ∃ before after,
      (if c = 'Σ' then [lowerSigma before after] else lowerChar c) ⊆ lower cs := by
  have hafter : ∀ before, ∃ before' after',
      (if c = 'Σ' then [lowerSigma before' after'] else lowerChar c) ⊆ lowerAfter before cs := by
    induction hc with
    | head cs => exact fun before => ⟨before, cs, List.subset_append_left _ _⟩
    | tail d hc ih =>
      intro before
      obtain ⟨before', after', hsubset⟩ := ih (d :: before)
      exact ⟨before', after', List.subset_append_of_subset_right _ hsubset⟩
  exact hafter []

/-- What is beyond ASCII shows in the small letters of a text: as a character beyond ASCII, or as
the `k` of the Kelvin sign. -/
theorem exists_mem_lower {cs : List Char} {c : Char} (hc : c ∈ cs) (h : 128 ≤ c.toNat) :
    ∃ d ∈ lower cs, 128 ≤ d.toNat ∨ d = 'k' := by
  obtain ⟨before, after, hsubset⟩ := exists_subset_lower hc
  by_cases hsigma : c = 'Σ'
  · rw [if_pos hsigma] at hsubset
    exact ⟨_, hsubset (List.mem_singleton_self _), .inl (le_lowerSigma before after)⟩
  · rw [if_neg hsigma] at hsubset
    by_cases hkelvin : c.toNat = 0x212a
    · have hsmall : lowerChar c = ['k'] := by
        rw [← Char.ofNat_toNat c, hkelvin]
        decide +kernel
      rw [hsmall] at hsubset
      exact ⟨'k', hsubset (List.mem_singleton_self 'k'), .inr rfl⟩
    · obtain ⟨d, hd, hle⟩ := exists_mem_lowerChar h hkelvin
      exact ⟨d, hsubset hd, .inl hle⟩

end Calculator.Text
