import Calculator.Proofs.Evaluation.Counts

/-!
# Reading a derivation back

The derivation is the text of a postfix form: its tokens with a space between any two. It
is read back word by word, where a word that is neither an operator nor the name of a
function is a number (`Rpn.read`). Of arbitrary tokens that gives something else, as the
text of a number may be anything, `-` or two words. But the numbers of a conversion are
written with a digit and without a space, so that nothing is lost:

    read_text_of_outcome_ofText : (Rpn.ofText text).outcome = .ok tokens →
      Rpn.read (Rpn.text tokens) = tokens

What the display shows therefore says all about the value, which is that of `solve`.
-/

namespace Calculator

/-! ### Words -/

/-- The operator that is written as a word, if it is one. -/
def Operator.ofWord? (word : String) : Option Operator :=
  [plus, minus, times, divide, power].find? (·.symbol.toString == word)

/-- The token that is written as a word. -/
def Token.ofWord (word : String) : Token :=
  match Operator.ofWord? word, Func.ofName? word with
  | some op, _ => .operator op
  | none, some f => .function f
  | none, none => .number word

/-- The words of a text, with one or more spaces between any two. -/
def Rpn.words (text : String) : List String :=
  ((text.split ' ').toList.map (·.copy)).filter (· ≠ "")

/-- The tokens that are written as the words of a text. -/
def Rpn.read (text : String) : Rpn :=
  (words text).map Token.ofWord

/-- Whether a token is a word that is read as this token. -/
structure Token.Legible (t : Token) : Prop where
  ofWord_text : ofWord t.text = t
  ne_empty : t.text ≠ ""
  not_space : ' ' ∉ t.text.toList

/-! ### One word -/

theorem Operator.eq_of_ofWord? {word : String} {op : Operator} (h : ofWord? word = some op) :
    word = op.symbol.toString := by
  have hop := List.find?_some (p := fun o : Operator => o.symbol.toString == word) h
  exact (beq_iff_eq.mp hop).symm

namespace Token

/-- A word with a digit is a number. -/
theorem ofWord_of_isDigit {word : String} {c : Char} (hc : c ∈ word.toList)
    (hdigit : c.isDigit = true) : ofWord word = .number word := by
  have hop : Operator.ofWord? word = none := by
    rw [Option.eq_none_iff_forall_ne_some]
    intro op h
    rw [Operator.eq_of_ofWord? h] at hc
    obtain rfl : c = op.symbol := by simpa using hc
    cases op <;> cases hdigit
  have hf : Func.ofName? word = none := by
    rw [Option.eq_none_iff_forall_ne_some]
    intro f h
    rw [Func.ofName?_eq_some_iff.mp h] at hc
    have hletter := isNumberChar_of_isNameChar (Lexeme.isNameChar_of_mem_name hc)
    rw [isNumberChar, hdigit] at hletter
    cases hletter
  rw [ofWord, hop, hf]

theorem legible_operator (op : Operator) : (operator op).Legible := by
  cases op <;> exact ⟨by decide, by decide, by decide⟩

theorem legible_function (f : Func) : (function f).Legible := by
  cases f <;> exact ⟨by decide, by decide, by decide⟩

/-- A number is legible if it is written with a digit, and with digits, points and minus signs. -/
theorem legible_number {cs : List Char} (hdigit : ∃ c ∈ cs, c.isDigit = true)
    (hall : ∀ c ∈ cs, isNumberChar c = true ∨ c = '-') :
    (number (String.ofList cs)).Legible where
  ofWord_text := by
    obtain ⟨c, hc, hc'⟩ := hdigit
    exact ofWord_of_isDigit (by rwa [text, String.toList_ofList]) hc'
  ne_empty := by
    obtain ⟨c, hc, -⟩ := hdigit
    intro hempty
    rw [text, String.ofList_eq_empty_iff] at hempty
    exact List.ne_nil_of_mem hc hempty
  not_space := by
    rw [text, String.toList_ofList]
    intro hspace
    rcases hall ' ' hspace with h | h <;> cases h

end Token

/-- Sound lexemes stand for legible tokens. -/
theorem Lexeme.IsSound.legible {l : Lexeme} {t : Token} (h : l.IsSound) (hstands : l.StandsFor t) :
    t.Legible := by
  cases hstands with
  | number cs =>
    cases h with
    | unsigned h => exact Token.legible_number h.2.1 fun c hc => .inl (h.1 c hc)
    | @signed cs h =>
      obtain ⟨hall, ⟨d, hd, hdigit⟩, -⟩ := h
      apply Token.legible_number ⟨d, List.mem_cons_of_mem _ hd, hdigit⟩
      intro c hc
      rcases List.mem_cons.mp hc with rfl | hc
      · exact .inr rfl
      · exact .inl (hall c hc)
  | function f => exact Token.legible_function f
  | operator op => exact Token.legible_operator op

/-! ### The whole text -/

namespace Rpn

/-- The words of the text of legible tokens are their texts. -/
theorem words_text {tokens : Rpn} (h : ∀ t ∈ tokens, t.Legible) :
    words (text tokens) = tokens.map Token.text := by
  have hspace : ∀ word ∈ tokens.map Token.text, ' ' ∉ word.toList := by
    intro word hword
    obtain ⟨t, ht, rfl⟩ := List.mem_map.mp hword
    exact (h t ht).not_space
  have hempty : ∀ word ∈ tokens.map Token.text, word ≠ "" := by
    intro word hword
    obtain ⟨t, ht, rfl⟩ := List.mem_map.mp hword
    exact (h t ht).ne_empty
  have hsplit : ((text tokens).split ' ').toList.map (·.copy) =
      if tokens.map Token.text = [] then [""] else tokens.map Token.text :=
    String.toList_split_intercalate hspace
  rw [words, hsplit]
  split
  · next hnil =>
    rw [hnil]
    rfl
  · rw [List.filter_eq_self]
    intro word hword
    exact decide_eq_true (hempty word hword)

/-- Legible tokens are read back from their text. -/
theorem read_text {tokens : Rpn} (h : ∀ t ∈ tokens, t.Legible) : read (text tokens) = tokens := by
  rw [read, words_text h, List.map_map]
  calc tokens.map (Token.ofWord ∘ Token.text)
    _ = tokens.map id := List.map_congr_left fun t ht => (h t ht).ofWord_text
    _ = tokens := List.map_id tokens

-- A minus sign that is taken for a number would be read as an operator.
example : Token.ofWord (Token.number "-").text = .operator .minus := by decide

/-- What a conversion writes out is legible. -/
theorem read_text_of_outcome_ofText {text : String} {tokens : Rpn}
    (h : (ofText text).outcome = .ok tokens) : read (Rpn.text tokens) = tokens := by
  obtain ⟨hsound, -⟩ := Conversion.exists_outcome_ofText_iff.mp ⟨tokens, h⟩
  apply read_text
  intro t ht
  obtain ⟨l, hl, hstands⟩ := Conversion.exists_standsFor_of_mem h ht
  exact (hsound l hl).legible hstands

end Rpn

/-! ### The value -/

/-- Showing a value takes nothing away from it. -/
theorem Evaluation.map_value_ofText (text : String) (digits : Nat) :
    (Evaluation.ofText text digits).map Evaluation.value = (solve text).outcome := by
  cases h : Evaluation.ofText text digits with
  | ok e =>
    obtain ⟨tokens, value, htokens, hvalue, rfl⟩ := Evaluation.ofText_eq_ok_iff.mp h
    exact (outcome_solve_iff.mpr ⟨tokens, htokens, hvalue⟩).symm
  | error error =>
    rcases Evaluation.ofText_eq_error_iff.mp h with ⟨e, he, rfl⟩ | ⟨tokens, e, htokens, he, rfl⟩
    · rw [outcome_solve_of_error he]
      rfl
    · rw [outcome_solve_of_ok htokens, he]
      rfl

/-- The tokens of a text are read back from its derivation. What is shown of a text has the value of
that text, or its error, for whatever number of places; and its derivation, read back, has the same
value. -/
theorem read_derivation (text : String) :
    (∀ tokens, (Rpn.ofText text).outcome = .ok tokens → Rpn.read (Rpn.text tokens) = tokens) ∧
      ∀ digits, (Evaluation.ofText text digits).map Evaluation.value = (solve text).outcome ∧
        ∀ e, Evaluation.ofText text digits = .ok e →
          (Rpn.evaluate (Rpn.read e.rpn)).outcome = .ok e.value := by
  refine ⟨fun _ => Rpn.read_text_of_outcome_ofText, ?_⟩
  intro digits
  refine ⟨Evaluation.map_value_ofText text digits, ?_⟩
  intro e he
  obtain ⟨tokens, value, htokens, hvalue, rfl⟩ := Evaluation.ofText_eq_ok_iff.mp he
  show (Rpn.evaluate (Rpn.read (Rpn.text tokens))).outcome = .ok value
  rw [Rpn.read_text_of_outcome_ofText htokens]
  exact hvalue

end Calculator
