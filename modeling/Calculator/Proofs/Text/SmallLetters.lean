import Calculator.Text.Blank
import Calculator.Text.Lowercase

/-!
# Small letters of small letters

Taking small letters leaves nothing to be done: what it gives are characters that it
leaves as they are (`IsSmall`), and of such characters it makes the same text again.

    lower_lower : lower (lower cs) = lower cs

That no image of a capital is a capital is a fact about the whole table. It is checked for
one run of capitals against another: their code points lie apart, or else they alternate
(`CaseRun.avoids`). Nor is an image blank.
-/

namespace Calculator.Text

/-! ### Runs of capitals -/

/-- The small letters of `run` are not in `run'`: they lie apart from it, or they are the letters
between those of `run'`. -/
def CaseRun.avoids (run run' : CaseRun) : Bool :=
  -- This is evaluated for all pairs of runs, where `Nat.blt` is quicker than deciding `<`.
  Nat.blt (run.image + (run.last - run.first)) run'.first || Nat.blt run'.last run.image ||
    run'.step == 2 && (run.step == 2 || run.first == run.last) &&
      (run.image + run'.first) % 2 == 1

theorem CaseRun.contains_lower_of_avoids {run run' : CaseRun} {code : Nat}
    (h : run.avoids run' = true) (hcode : run.contains code = true) :
    run'.contains (run.lower code) = false := by
  rw [Bool.eq_false_iff]
  intro hlower
  obtain ⟨hfirst, hlast, hstep⟩ := contains_eq_true_iff.mp hcode
  obtain ⟨hfirst', hlast', hstep'⟩ := contains_eq_true_iff.mp hlower
  unfold lower at hfirst' hlast' hstep'
  simp only [avoids, Bool.or_eq_true, Bool.and_eq_true, Nat.blt_eq, beq_iff_eq] at h
  rcases h with (hbelow | habove) | ⟨⟨htwo', htwo | hsingle⟩, hodd⟩
  · omega
  · omega
  · rw [htwo] at hstep
    rw [htwo'] at hstep'
    omega
  · rw [htwo'] at hstep'
    omega

/-- No small letter of a run is a capital. -/
theorem CaseRun.contains_lower {run run' : CaseRun} (hrun : run ∈ capitals)
    (hrun' : run' ∈ capitals) {code : Nat} (h : run.contains code = true) :
    run'.contains (run.lower code) = false := by
  have hall : (capitals.all fun run => capitals.all run.avoids) = true := by decide +kernel
  have havoids := List.all_eq_true.mp (List.all_eq_true.mp hall run hrun) run' hrun'
  exact contains_lower_of_avoids havoids h

/-- No small letter of a run is blank, or the dotted capital I. -/
theorem CaseRun.not_blank_lower {run : CaseRun} (hrun : run ∈ capitals) {code : Nat}
    (h : run.contains code = true) :
    isBlank (Char.ofNat (run.lower code)) = false ∧ Char.ofNat (run.lower code) ≠ 'İ' := by
  have hall : ∀ run ∈ capitals,
      (∀ range ∈ blankRanges,
        run.image + (run.last - run.first) < range.1 ∨ range.2 < run.image) ∧
      (run.image + (run.last - run.first) < 0x130 ∨ 0x130 < run.image) := by
    decide +kernel
  obtain ⟨hblank, hdotted⟩ := hall run hrun
  have hle := le_of_contains h
  have hcode : (Char.ofNat (run.lower code)).toNat = run.image + (code - run.first) :=
    toNat_ofNat_lower hrun h
  constructor
  · rw [isBlank, inRanges_eq_false_iff, hcode]
    intro range hrange
    have := hblank range hrange
    omega
  · intro heq
    rw [heq] at hcode
    have : 'İ'.toNat = 0x130 := rfl
    omega

/-! ### Characters -/

/-- A character that taking small letters leaves as it is, wherever it stands. -/
def IsSmall (c : Char) : Prop :=
  c ≠ 'Σ' ∧ lowerChar c = [c]

instance (c : Char) : Decidable (IsSmall c) :=
  inferInstanceAs (Decidable (_ ∧ _))

/-- A character outside of the table is its own small letter. -/
theorem isSmall_of_find? {c : Char} (hdotted : c ≠ 'İ')
    (h : capitals.find? (·.contains c.toNat) = none) : IsSmall c := by
  constructor
  · rintro rfl
    exact absurd h (by decide +kernel)
  · rw [lowerChar, if_neg hdotted, h]

/-- The small letters of a character are small, and blank only if it is. -/
theorem isSmall_of_mem_lowerChar {c d : Char} (h : d ∈ lowerChar c) :
    IsSmall d ∧ (isBlank c = false → isBlank d = false) := by
  rcases lowerChar_cases c with hdotted | ⟨hne, hfind, hself⟩ | ⟨run, hrun, hcontains, hlower⟩
  · have hletter : IsSmall 'i' ∧ isBlank 'i' = false := by decide +kernel
    have hmark : IsSmall '\u0307' ∧ isBlank '\u0307' = false := by decide +kernel
    simp only [hdotted, List.mem_cons, List.not_mem_nil, or_false] at h
    rcases h with rfl | rfl
    · exact ⟨hletter.1, fun _ => hletter.2⟩
    · exact ⟨hmark.1, fun _ => hmark.2⟩
  · rw [hself] at h
    obtain rfl := List.mem_singleton.mp h
    exact ⟨isSmall_of_find? hne hfind, id⟩
  · rw [hlower] at h
    obtain rfl := List.mem_singleton.mp h
    obtain ⟨hblank, hne⟩ := CaseRun.not_blank_lower hrun hcontains
    refine ⟨isSmall_of_find? hne ?_, fun _ => hblank⟩
    rw [CaseRun.toNat_ofNat_lower hrun hcontains, List.find?_eq_none]
    intro run' hrun'
    simp [CaseRun.contains_lower hrun hrun' hcontains]

/-- There are no ASCII capitals among them. -/
theorem IsSmall.isUpper_eq_false {c : Char} (h : IsSmall c) : c.isUpper = false := by
  rw [Bool.eq_false_iff]
  intro hupper
  have hall : ∀ n : Fin 128, (Char.ofNat n).isUpper = true →
      (Char.ofNat n).toLower ≠ Char.ofNat n := by
    decide +kernel
  have hascii : c.toNat < 128 := by
    have hbounds : 'A'.val ≤ c.val ∧ c.val ≤ 'Z'.val := of_decide_eq_true hupper
    exact Nat.lt_of_le_of_lt (UInt32.le_iff_toNat_le.mp hbounds.2) (by decide)
  have hlower := lowerChar_of_ascii hascii
  rw [h.2] at hlower
  have hne := hall ⟨c.toNat, hascii⟩
  rw [Char.ofNat_toNat] at hne
  exact hne hupper (List.singleton_inj.mp hlower).symm

/-! ### Texts -/

/-- What is in the small letters of a text comes from one of its characters, or is a sigma. -/
theorem mem_lower_cases {cs : List Char} {d : Char} (h : d ∈ lower cs) :
    (∃ c ∈ cs, d ∈ lowerChar c) ∨ d = 'σ' ∨ d = 'ς' := by
  have hafter : ∀ before, d ∈ lowerAfter before cs →
      (∃ c ∈ cs, d ∈ lowerChar c) ∨ d = 'σ' ∨ d = 'ς' := by
    clear h
    induction cs with
    | nil => simp [lowerAfter]
    | cons c cs ih =>
      intro before h
      rcases List.mem_append.mp h with hc | hcs
      · split at hc
        · rw [List.mem_singleton] at hc
          unfold lowerSigma at hc
          split at hc
          · exact .inr (.inr hc)
          · exact .inr (.inl hc)
        · exact .inl ⟨c, List.mem_cons_self, hc⟩
      · rcases ih _ hcs with ⟨e, he, hd⟩ | hsigma
        · exact .inl ⟨e, List.mem_cons_of_mem c he, hd⟩
        · exact .inr hsigma
  exact hafter [] h

theorem isSmall_of_mem_lower {cs : List Char} {d : Char} (h : d ∈ lower cs) : IsSmall d := by
  rcases mem_lower_cases h with ⟨c, -, hd⟩ | rfl | rfl
  · exact (isSmall_of_mem_lowerChar hd).1
  · decide +kernel
  · decide +kernel

/-- Small letters bring in no blanks. -/
theorem not_blank_of_mem_lower {cs : List Char} (hcs : ∀ c ∈ cs, isBlank c = false) {d : Char}
    (h : d ∈ lower cs) : isBlank d = false := by
  rcases mem_lower_cases h with ⟨c, hc, hd⟩ | rfl | rfl
  · exact (isSmall_of_mem_lowerChar hd).2 (hcs c hc)
  · decide
  · decide

/-- A text of small letters stays as it is. -/
theorem lower_of_isSmall {cs : List Char} (h : ∀ c ∈ cs, IsSmall c) : lower cs = cs := by
  rw [lower_eq_map (f := id) h, List.map_id]

/-- Taking small letters twice is taking them once. -/
theorem lower_lower (cs : List Char) : lower (lower cs) = lower cs :=
  lower_of_isSmall fun _ => isSmall_of_mem_lower

end Calculator.Text
