import Calculator.Proofs.Conversion.Diagnosis
import Calculator.Proofs.Evaluation.Stack
import Calculator.Proofs.Text.SmallLetters
import Calculator.Shell.Entry

/-!
# Prepared entries

Preparing an entry takes blanks and capitals out, and leaves neither, so that preparing it again
changes nothing; and blanks make no difference wherever they stand (`DiffersInBlanks`), as they are
gone before a capital sigma looks at its neighbours. An expression that can be evaluated is left as
it is: what was evaluated once can be typed in again.

Capitals are those of the whole of Unicode, and two of them have ASCII in their small letters: the
Kelvin sign becomes `k`, the dotted capital I an `i` with a mark behind it. No function has a `k` in
its name, and the mark is no character of an expression. Hence an entry is evaluated only if all
but its blanks is ASCII, and only by the plain small letters of that:

    ofText_prepare_eq_ok_iff :
      Evaluation.ofText (prepare entry) digits = .ok evaluation ↔
        (∀ c ∈ bare entry, c.toNat < 128) ∧
          Evaluation.ofText (String.ofList ((bare entry).map Char.toLower)) digits = .ok evaluation
-/

namespace Calculator

/-- No character of an expression is blank or a capital. -/
theorem IsExprChar.not_blank_and_small {c : Char} (h : IsExprChar c) :
    Text.isBlank c = false ∧ c.toLower = c := by
  have all : ∀ n : Fin 128, IsExprChar (Char.ofNat n) →
      Text.isBlank (Char.ofNat n) = false ∧ (Char.ofNat n).toLower = Char.ofNat n := by
    unfold IsExprChar
    decide +kernel
  simpa using all ⟨c.toNat, h.toNat_lt⟩ (by simpa using h)

/-! ### Letters -/

/-- A small letter in a sound lexeme belongs to the name of a function. -/
theorem Lexeme.IsSound.exists_mem_name {l : Lexeme} (h : l.IsSound) {c : Char} (hc : c ∈ l.chars)
    (hletter : isNameChar c = true) : ∃ f : Func, c ∈ f.name.toList := by
  have hnumber : isNumberChar c = false := isNumberChar_of_isNameChar hletter
  cases h with
  | unsigned h => exact absurd (h.1 c hc) (by simp [hnumber])
  | signed h =>
    rcases List.mem_cons.mp hc with rfl | hc
    · exact absurd hletter (by decide)
    · exact absurd (h.1 c hc) (by simp [hnumber])
  | function f => exact ⟨f, hc⟩
  | opening | closing =>
    rw [List.mem_singleton.mp hc] at hletter
    exact absurd hletter (by decide)
  | operator op =>
    rw [List.mem_singleton.mp hc] at hletter
    cases op <;> exact absurd hletter (by decide)

theorem Conversion.exists_mem_name_of_outcome_ofText {text : String} {tokens : Rpn}
    (h : (Rpn.ofText text).outcome = .ok tokens) {c : Char} (hc : c ∈ text.toList)
    (hletter : isNameChar c = true) : ∃ f : Func, c ∈ f.name.toList := by
  obtain ⟨hsound, -⟩ := Conversion.exists_outcome_ofText_iff.mp ⟨tokens, h⟩
  obtain ⟨l, hl, hc⟩ := Lexeme.exists_mem_cut none hc
  exact (hsound l hl).exists_mem_name hc hletter

/-- There is no `k` in an expression. -/
theorem Conversion.k_not_mem_of_outcome_ofText {text : String} {tokens : Rpn}
    (h : (Rpn.ofText text).outcome = .ok tokens) : 'k' ∉ text.toList := by
  intro hk
  obtain ⟨f, hf⟩ := Conversion.exists_mem_name_of_outcome_ofText h hk (by decide)
  cases f <;> exact absurd hf (by decide)

/-! ### Entries -/

namespace Shell.Entry

/-- The characters of an entry without its blanks. -/
def bare (entry : String) : List Char :=
  entry.toList.filter fun c => !Text.isBlank c

theorem toList_prepare (entry : String) : (prepare entry).toList = Text.lower (bare entry) :=
  String.toList_ofList

/-! ### Blanks -/

/-- The texts `cs` and `ds` differ in blanks only: from one to the other, some are put in and some
are taken out, anywhere. -/
inductive DiffersInBlanks : List Char → List Char → Prop
  | nil : DiffersInBlanks [] []
  | keep (c : Char) {cs ds : List Char} :
    DiffersInBlanks cs ds → DiffersInBlanks (c :: cs) (c :: ds)
  | insert {c : Char} {cs ds : List Char} :
    Text.isBlank c = true → DiffersInBlanks cs ds → DiffersInBlanks cs (c :: ds)
  | remove {c : Char} {cs ds : List Char} :
    Text.isBlank c = true → DiffersInBlanks cs ds → DiffersInBlanks (c :: cs) ds

theorem DiffersInBlanks.filter_eq {cs ds : List Char} (h : DiffersInBlanks cs ds) :
    (cs.filter fun c => !Text.isBlank c) = ds.filter fun c => !Text.isBlank c := by
  induction h with
  | nil => rfl
  | keep c _ ih => rw [List.filter_cons, List.filter_cons, ih]
  | insert hblank _ ih => simpa [hblank] using ih
  | remove hblank _ ih => simpa [hblank] using ih

theorem prepare_of_differsInBlanks {entry entry' : String}
    (h : DiffersInBlanks entry.toList entry'.toList) : prepare entry = prepare entry' := by
  rw [prepare, prepare, h.filter_eq]

theorem not_blank_of_mem_prepare {entry : String} {c : Char} (h : c ∈ (prepare entry).toList) :
    Text.isBlank c = false := by
  rw [toList_prepare] at h
  refine Text.not_blank_of_mem_lower (fun d hd => ?_) h
  simpa using (List.mem_filter.mp hd).2

/-! ### Preparing twice -/

theorem prepare_prepare (entry : String) : prepare (prepare entry) = prepare entry := by
  have hbare : bare (prepare entry) = (prepare entry).toList := by
    rw [bare, List.filter_eq_self]
    intro c hc
    rw [not_blank_of_mem_prepare hc]
    rfl
  show String.ofList (Text.lower (bare (prepare entry))) = prepare entry
  rw [hbare, toList_prepare, Text.lower_lower]
  rfl

/-- Preparing leaves neither blanks nor capitals, so that an entry is prepared once and for all; and
it makes no difference where there were blanks. -/
theorem prepare_prepare_and_congr (entry : String) :
    prepare (prepare entry) = prepare entry ∧
      (∀ c ∈ (prepare entry).toList, Text.isBlank c = false ∧ c.isUpper = false) ∧
      ∀ entry', DiffersInBlanks entry.toList entry'.toList → prepare entry' = prepare entry := by
  refine ⟨prepare_prepare entry, ?_, fun entry' h => (prepare_of_differsInBlanks h).symm⟩
  intro c hc
  refine ⟨not_blank_of_mem_prepare hc, ?_⟩
  rw [toList_prepare] at hc
  exact (Text.isSmall_of_mem_lower hc).isUpper_eq_false

-- The blank hides no letter from the sigma: there is a word behind it, not an end.
example : prepare "ΑΣ Α" = prepare "ΑΣΑ" ∧ prepare "ΑΣ Α" = "ασα" := by decide +kernel

/-! ### Expressions -/

theorem prepare_of_isExprChar {text : String} (h : ∀ c ∈ text.toList, IsExprChar c) :
    prepare text = text := by
  have hblank : text.toList.filter (fun c => !Text.isBlank c) = text.toList := by
    rw [List.filter_eq_self]
    intro c hc
    rw [(h c hc).not_blank_and_small.1]
    rfl
  have hsmall : text.toList.map Char.toLower = text.toList := by
    rw [List.map_congr_left fun c hc => (h c hc).not_blank_and_small.2, List.map_id']
  rw [prepare, hblank, Text.lower_of_ascii fun c hc => (h c hc).toNat_lt, hsmall,
    String.ofList_toList]

/-- A text that has a value is prepared already. -/
theorem prepare_of_ofText {text : String} {digits : Nat} {evaluation : Evaluation}
    (h : Evaluation.ofText text digits = .ok evaluation) : prepare text = text := by
  obtain ⟨tokens, value, htokens, -, -⟩ := Evaluation.ofText_eq_ok_iff.mp h
  exact prepare_of_isExprChar (Conversion.isExprChar_of_outcome_ofText htokens)

/-- In ASCII, preparing takes the plain small letters. -/
theorem prepare_of_ascii {entry : String} (h : ∀ c ∈ bare entry, c.toNat < 128) :
    prepare entry = String.ofList ((bare entry).map Char.toLower) := by
  show String.ofList (Text.lower (bare entry)) = _
  rw [Text.lower_of_ascii h]

/-- Only what is ASCII is prepared to an expression. -/
theorem ascii_of_ofText_prepare {entry : String} {digits : Nat} {evaluation : Evaluation}
    (h : Evaluation.ofText (prepare entry) digits = .ok evaluation) :
    ∀ c ∈ bare entry, c.toNat < 128 := by
  obtain ⟨tokens, value, htokens, -, -⟩ := Evaluation.ofText_eq_ok_iff.mp h
  intro c hc
  by_contra hbeyond
  obtain ⟨d, hd, hdbeyond | rfl⟩ := Text.exists_mem_lower hc (Nat.le_of_not_lt hbeyond)
  · rw [← toList_prepare] at hd
    have hlt := (Conversion.isExprChar_of_outcome_ofText htokens d hd).toNat_lt
    omega
  · rw [← toList_prepare] at hd
    exact Conversion.k_not_mem_of_outcome_ofText htokens hd

/-- Small letters let no look-alike through: an entry is evaluated exactly if it is ASCII, its
blanks apart, and its plain small letters are, to the same result. -/
theorem ofText_prepare_eq_ok_iff (entry : String) (digits : Nat) (evaluation : Evaluation) :
    Evaluation.ofText (prepare entry) digits = .ok evaluation ↔
      (∀ c ∈ bare entry, c.toNat < 128) ∧
        Evaluation.ofText (String.ofList ((bare entry).map Char.toLower)) digits =
          .ok evaluation := by
  constructor
  · intro h
    have hascii := ascii_of_ofText_prepare h
    rw [prepare_of_ascii hascii] at h
    exact ⟨hascii, h⟩
  · rintro ⟨hascii, h⟩
    rw [prepare_of_ascii hascii]
    exact h

-- The dotted capital I is no `i`: it brings its dot along.
example : prepare "S\u0130N(0)" = "si\u0307n(0)" := by decide +kernel

end Shell.Entry

end Calculator
