import Calculator.Func
import Calculator.Lexeme
import Calculator.Operator
import Mathlib.Data.List.Basic

/-!
# How a text is cut

`cut` takes characters one by one. What it does is said without recursion over
characters here: every lexeme is as long as it can be (`Fits`), a list of such
lexemes is `Tidy`, and the lexemes of a text are the one tidy list that spells it:

    cut_eq_iff : cut previous cs = ls ↔ ls.flatMap chars = cs ∧ Tidy previous ls

So a text may be cut in two at every place where no lexeme is broken
(`cut_append`), and around parentheses (`cut_paren`, `cut_call`).
-/

namespace Calculator

/-! ### Classes of characters -/

/-- Letters do not occur in numbers. -/
theorem isNumberChar_of_isNameChar {c : Char} (h : isNameChar c = true) :
    isNumberChar c = false := by
  have hlower : 'a'.val ≤ c.val := by
    have hrange : (decide ('a'.val ≤ c.val) && decide (c.val ≤ 'z'.val)) = true := h
    exact of_decide_eq_true ((Bool.and_eq_true _ _).mp hrange).1
  rw [← Bool.not_eq_true]
  intro hnum
  simp only [isNumberChar, Char.isDigit, Bool.or_eq_true, Bool.and_eq_true, decide_eq_true_eq,
    beq_iff_eq] at hnum
  -- All digits, and the point, come before the letters.
  rcases hnum with ⟨-, hnum⟩ | rfl
  · exact absurd (UInt32.le_trans hlower hnum) (by decide)
  · exact absurd hlower (by decide)

/-- Digits and points do not occur in names. -/
theorem isNameChar_of_isNumberChar {c : Char} (h : isNumberChar c = true) :
    isNameChar c = false := by
  rw [← Bool.not_eq_true]
  intro hname
  rw [isNumberChar_of_isNameChar hname] at h
  exact absurd h (by simp)

/-- A minus sign belongs to a number at the start of the text and directly behind `(` only. -/
theorem isUnaryMinus_eq_true_iff {c : Char} {previous : Option Char} :
    isUnaryMinus c previous = true ↔ c = '-' ∧ (previous = none ∨ previous = some '(') := by
  simp [isUnaryMinus]

theorem isUnaryMinus_some {c d : Char} (hd : d ≠ '(') : isUnaryMinus c (some d) = false := by
  simp [isUnaryMinus, hd]

theorem ne_of_class {p : Char → Bool} {c d : Char} (hc : p c = true) (hd : p d = false) :
    c ≠ d := by
  intro h
  rw [h, hd] at hc
  cases hc

/-- No number begins with a parenthesis. -/
theorem ne_opening {c : Char} {previous : Option Char}
    (h : isNumberChar c = true ∨ isUnaryMinus c previous = true) : c ≠ '(' := by
  rcases h with hnum | hminus
  · exact ne_of_class hnum rfl
  · rw [(isUnaryMinus_eq_true_iff.mp hminus).1]
    decide

namespace Lexeme

/-! ### Lexemes in their place -/

/-- `l.Fits previous next`: between these characters, or the ends of the text, `l` is a lexeme that
cannot be longer. -/
inductive Fits (previous next : Option Char) : Lexeme → Prop
  | unsigned {cs : List Char} :
    cs ≠ [] → (∀ c ∈ cs, isNumberChar c = true) → (∀ c ∈ next, isNumberChar c = false) →
      Fits previous next (number cs)
  | signed {cs : List Char} :
    isUnaryMinus '-' previous = true → (∀ c ∈ cs, isNumberChar c = true) →
      (∀ c ∈ next, isNumberChar c = false) → Fits previous next (number ('-' :: cs))
  | name {cs : List Char} :
    cs ≠ [] → (∀ c ∈ cs, isNameChar c = true) → (∀ c ∈ next, isNameChar c = false) →
      Fits previous next (name cs (next == some '('))
  | symbol {c : Char} :
    isNumberChar c = false → isUnaryMinus c previous = false → isNameChar c = false →
      Fits previous next (symbol c)

/-- Every lexeme behind `previous` is as long as it can be. -/
def Tidy (previous : Option Char) : List Lexeme → Prop
  | [] => True
  | l :: ls => l.Fits previous (ls.flatMap chars).head? ∧ Tidy (l.chars.getLast?.or previous) ls

theorem Fits.chars_ne_nil {previous next : Option Char} {l : Lexeme} (h : l.Fits previous next) :
    l.chars ≠ [] := by
  cases h with
  | unsigned hne => exact hne
  | signed => simp [chars]
  | name hne => exact hne
  | symbol => simp [chars]

/-- A name is called just where `(` follows. -/
theorem Fits.called_eq {previous next : Option Char} {letters : List Char} {called : Bool}
    (h : (Lexeme.name letters called).Fits previous next) : called = (next == some '(') := by
  cases h with
  | name => rfl

/-- What comes last before a text that begins with `c`. -/
theorem getLast?_cons_or (c : Char) (cs : List Char) (previous : Option Char) :
    (c :: cs).getLast?.or previous = cs.getLast?.or (some c) := by
  cases cs with
  | nil => rfl
  | cons d cs => simp [List.getLast?_cons]

/-- Behind `previous`, a lexeme of this kind can begin or go on with `c`. -/
def Admits (previous : Option Char) (c : Char) : Lexeme → Prop
  | number _ => isNumberChar c = true ∨ isUnaryMinus c previous = true
  | name _ _ => isNameChar c = true
  | symbol d => c = d

theorem Fits.exists_head? {previous next : Option Char} {l : Lexeme} (h : l.Fits previous next) :
    ∃ c, l.chars.head? = some c ∧ l.Admits previous c := by
  cases h with
  | @unsigned cs hne hall =>
    obtain ⟨c, cs, rfl⟩ := List.exists_cons_of_ne_nil hne
    exact ⟨c, rfl, .inl (hall c List.mem_cons_self)⟩
  | signed hsign => exact ⟨'-', rfl, .inr hsign⟩
  | @name cs hne hall =>
    obtain ⟨c, cs, rfl⟩ := List.exists_cons_of_ne_nil hne
    exact ⟨c, rfl, hall c List.mem_cons_self⟩
  | symbol => exact ⟨_, rfl, rfl⟩

theorem Fits.exists_getLast? {previous next : Option Char} {l : Lexeme}
    (h : l.Fits previous next) :
    ∃ cs c, l.chars = cs ++ [c] ∧ l.Admits (cs.getLast?.or previous) c := by
  cases h with
  | @unsigned cs hne hall =>
    obtain ⟨cs, c, rfl⟩ := (List.eq_nil_or_concat' cs).resolve_left hne
    exact ⟨cs, c, rfl, .inl (hall c (by simp))⟩
  | @signed cs hsign hall =>
    rcases List.eq_nil_or_concat' cs with rfl | ⟨cs, c, rfl⟩
    · exact ⟨[], '-', rfl, .inr hsign⟩
    · exact ⟨'-' :: cs, c, rfl, .inl (hall c (by simp))⟩
  | @name cs hne hall =>
    obtain ⟨cs, c, rfl⟩ := (List.eq_nil_or_concat' cs).resolve_left hne
    exact ⟨cs, c, rfl, hall c (by simp)⟩
  | symbol => exact ⟨[], _, rfl, rfl⟩

/-- The first character of a tidy list is that of its first lexeme. -/
theorem Tidy.head?_flatMap_chars {previous : Option Char} {l : Lexeme} {ls : List Lexeme}
    (h : Tidy previous (l :: ls)) : ((l :: ls).flatMap chars).head? = l.chars.head? := by
  obtain ⟨c, hc, -⟩ := h.1.exists_head?
  simp [List.flatMap_cons, hc]

/-! ### Cutting gives tidy lists -/

theorem tidy_consNumber {previous : Option Char} {c : Char} {ls : List Lexeme}
    (hc : isNumberChar c = true ∨ isUnaryMinus c previous = true) (h : Tidy (some c) ls) :
    Tidy previous (consNumber c ls) := by
  -- A number that begins with `c` fits as soon as digits and points follow up to `next`.
  have hfits : ∀ {cs : List Char} {next : Option Char}, (∀ d ∈ cs, isNumberChar d = true) →
      (∀ d ∈ next, isNumberChar d = false) → (number (c :: cs)).Fits previous next := by
    intro cs next hcs hnext
    rcases hc with hc | hc
    · refine .unsigned (by simp) (fun d hd => ?_) hnext
      rcases List.mem_cons.mp hd with rfl | hd
      · exact hc
      · exact hcs d hd
    · obtain ⟨rfl, -⟩ := isUnaryMinus_eq_true_iff.mp hc
      exact .signed hc hcs hnext
  match ls with
  | [] => exact ⟨hfits (by simp) (by simp), trivial⟩
  | number cs :: ls =>
    refine ⟨?_, by rw [chars, getLast?_cons_or]; exact h.2⟩
    cases h.1 with
    | unsigned hne hall hnext => exact hfits hall hnext
    | signed hsign =>
      rw [isUnaryMinus_some (ne_opening hc)] at hsign
      cases hsign
  | name cs called :: ls =>
    refine ⟨hfits (by simp) ?_, h⟩
    obtain ⟨d, hd, hname⟩ := h.1.exists_head?
    rw [h.head?_flatMap_chars, hd]
    intro e he
    cases he
    exact isNumberChar_of_isNameChar hname
  | symbol d :: ls =>
    refine ⟨hfits (by simp) ?_, h⟩
    rw [h.head?_flatMap_chars]
    intro e he
    cases he
    cases h.1 with
    | symbol hnum => exact hnum

/-- The lexemes of a text begin with a parenthesis just where the text does. -/
theorem head?_beq_symbol {previous : Option Char} {ls : List Lexeme} (h : Tidy previous ls) :
    (ls.head? == some (symbol '(')) = ((ls.flatMap chars).head? == some '(') := by
  cases ls with
  | nil => rfl
  | cons l ls =>
    obtain ⟨c, hc, hadmits⟩ := h.1.exists_head?
    rw [h.head?_flatMap_chars, hc, Bool.eq_iff_iff]
    cases l with
    | number cs =>
      have hne : c ≠ '(' := ne_opening hadmits
      simp [hne]
    | name cs called =>
      have hne : c ≠ '(' := ne_of_class hadmits rfl
      simp [hne]
    | symbol d =>
      obtain rfl : c = d := hadmits
      simp

theorem tidy_consName {previous : Option Char} {c : Char} {ls : List Lexeme}
    (hc : isNameChar c = true) (h : Tidy (some c) ls) : Tidy previous (consName c ls) := by
  -- A name of the one letter `c` fits as soon as no letter follows.
  have hfits : (∀ d ∈ (ls.flatMap chars).head?, isNameChar d = false) →
      (name [c] (ls.head? == some (symbol '('))).Fits previous (ls.flatMap chars).head? := by
    intro hnext
    rw [head?_beq_symbol h]
    exact .name (by simp) (by simpa using hc) hnext
  match ls with
  | [] => exact ⟨hfits (by simp), trivial⟩
  | name cs called :: ls =>
    refine ⟨?_, by rw [chars, getLast?_cons_or]; exact h.2⟩
    cases h.1 with
    | name hne hall hnext =>
      refine .name (by simp) (fun d hd => ?_) hnext
      rcases List.mem_cons.mp hd with rfl | hd
      · exact hc
      · exact hall d hd
  | number cs :: ls =>
    refine ⟨hfits ?_, h⟩
    obtain ⟨d, hd, hnum⟩ := h.1.exists_head?
    rw [h.head?_flatMap_chars, hd]
    intro e he
    cases he
    rcases hnum with hnum | hnum
    · exact isNameChar_of_isNumberChar hnum
    · rw [(isUnaryMinus_eq_true_iff.mp hnum).1]
      rfl
  | symbol d :: ls =>
    refine ⟨hfits ?_, h⟩
    rw [h.head?_flatMap_chars]
    intro e he
    cases he
    cases h.1 with
    | symbol _ _ hname => exact hname

/-- Cutting makes every lexeme as long as it can be. -/
theorem tidy_cut (previous : Option Char) (cs : List Char) : Tidy previous (cut previous cs) := by
  induction cs generalizing previous with
  | nil => trivial
  | cons c cs ih =>
    unfold cut
    split
    · next hc => exact tidy_consNumber (Bool.or_eq_true _ _ ▸ hc) (ih (some c))
    · next hc =>
      rw [Bool.not_eq_true, Bool.or_eq_false_iff] at hc
      split
      · next hname => exact tidy_consName hname (ih (some c))
      · next hname => exact ⟨.symbol hc.1 hc.2 (Bool.not_eq_true _ ▸ hname), ih (some c)⟩

/-! ### Only tidy lists come of cutting -/

/-- The lexemes of a text that does not begin with a digit or point, behind a character that opens
nothing, do not begin with a number. -/
theorem consNumber_cut {c d : Char} {cs : List Char} (hd : d ≠ '(')
    (hcs : ∀ e ∈ cs.head?, isNumberChar e = false) :
    consNumber c (cut (some d) cs) = number [c] :: cut (some d) cs := by
  cases cs with
  | nil => rfl
  | cons e cs =>
    have he : isNumberChar e = false := hcs e rfl
    unfold cut
    rw [he, isUnaryMinus_some hd]
    cases hname : isNameChar e with
    | false => rfl
    | true =>
      simp only [Bool.or_self, Bool.false_eq_true, ↓reduceIte, consName]
      split <;> rfl

theorem consName_cut {c : Char} {previous : Option Char} {cs : List Char}
    (hcs : ∀ e ∈ cs.head?, isNameChar e = false) :
    consName c (cut previous cs) = name [c] (cs.head? == some '(') :: cut previous cs := by
  have hparen := head?_beq_symbol (tidy_cut previous cs)
  rw [flatMap_chars_cut] at hparen
  rw [← hparen]
  cases cs with
  | nil => rfl
  | cons e cs =>
    have he : isNameChar e = false := hcs e rfl
    unfold cut
    rw [he]
    split
    · unfold consNumber
      split <;> rfl
    · rfl

theorem cut_number {previous : Option Char} {c : Char} {cs rest : List Char}
    (hc : isNumberChar c = true ∨ isUnaryMinus c previous = true)
    (hcs : ∀ d ∈ cs, isNumberChar d = true) (hrest : ∀ d ∈ rest.head?, isNumberChar d = false) :
    cut previous (c :: cs ++ rest) = number (c :: cs) :: cut (cs.getLast?.or (some c)) rest := by
  rw [List.cons_append, cut, if_pos (by simpa using hc)]
  induction cs generalizing c previous with
  | nil => exact consNumber_cut (ne_opening hc) hrest
  | cons d cs ih =>
    have hd : isNumberChar d = true := hcs d List.mem_cons_self
    rw [List.cons_append, cut, if_pos (by simp [hd]), getLast?_cons_or,
      @ih (some c) d (.inl hd) fun e he => hcs e (List.mem_cons_of_mem d he)]
    rfl

theorem cut_name {previous : Option Char} {c : Char} {cs rest : List Char}
    (hall : ∀ d ∈ c :: cs, isNameChar d = true) (hrest : ∀ d ∈ rest.head?, isNameChar d = false) :
    cut previous (c :: cs ++ rest) =
      name (c :: cs) (rest.head? == some '(') :: cut (cs.getLast?.or (some c)) rest := by
  have hc : isNameChar c = true := hall c List.mem_cons_self
  have hunary : isUnaryMinus c previous = false := by
    rw [← Bool.not_eq_true]
    intro h
    exact ne_of_class hc rfl (isUnaryMinus_eq_true_iff.mp h).1
  rw [List.cons_append, cut, isNumberChar_of_isNameChar hc, hunary]
  simp only [Bool.or_self, Bool.false_eq_true, ↓reduceIte, hc]
  induction cs generalizing c previous with
  | nil => exact consName_cut hrest
  | cons d cs ih =>
    have hall' : ∀ e ∈ d :: cs, isNameChar e = true :=
      fun e he => hall e (List.mem_cons_of_mem c he)
    have hd : isNameChar d = true := hall' d List.mem_cons_self
    have hunary' : isUnaryMinus d (some c) = false := isUnaryMinus_some (ne_of_class hc rfl)
    rw [List.cons_append, cut, isNumberChar_of_isNameChar hd, hunary', getLast?_cons_or]
    simp only [Bool.or_self, Bool.false_eq_true, ↓reduceIte, hd]
    rw [@ih (some c) d hall' hd hunary']
    rfl

/-- A lexeme that fits is the first of the text it begins. -/
theorem cut_of_fits {previous : Option Char} {l : Lexeme} {rest : List Char}
    (h : l.Fits previous rest.head?) :
    cut previous (l.chars ++ rest) = l :: cut (l.chars.getLast?.or previous) rest := by
  cases h with
  | @unsigned cs hne hall hnext =>
    obtain ⟨c, cs, rfl⟩ := List.exists_cons_of_ne_nil hne
    show _ = number (c :: cs) :: cut ((c :: cs).getLast?.or previous) rest
    rw [getLast?_cons_or]
    exact cut_number (.inl (hall c List.mem_cons_self))
      (fun d hd => hall d (List.mem_cons_of_mem c hd)) hnext
  | @signed cs hsign hall hnext =>
    show _ = number ('-' :: cs) :: cut (('-' :: cs).getLast?.or previous) rest
    rw [getLast?_cons_or]
    exact cut_number (.inr hsign) hall hnext
  | @name cs hne hall hnext =>
    obtain ⟨c, cs, rfl⟩ := List.exists_cons_of_ne_nil hne
    show _ = name (c :: cs) _ :: cut ((c :: cs).getLast?.or previous) rest
    rw [getLast?_cons_or]
    exact cut_name hall hnext
  | symbol hnum hunary hname => simp [chars, cut, hnum, hunary, hname]

theorem cut_flatMap_chars {previous : Option Char} {ls : List Lexeme} (h : Tidy previous ls) :
    cut previous (ls.flatMap chars) = ls := by
  induction ls generalizing previous with
  | nil => rfl
  | cons l ls ih => rw [List.flatMap_cons, cut_of_fits h.1, ih h.2]

/-- The lexemes of a text are the one tidy list that spells it. -/
theorem cut_eq_iff {previous : Option Char} {cs : List Char} {ls : List Lexeme} :
    cut previous cs = ls ↔ ls.flatMap chars = cs ∧ Tidy previous ls := by
  constructor
  · rintro rfl
    exact ⟨flatMap_chars_cut previous cs, tidy_cut previous cs⟩
  · rintro ⟨rfl, h⟩
    exact cut_flatMap_chars h

/-- A lexeme that fits a text is all of it. -/
theorem cut_chars {previous : Option Char} {l : Lexeme} (h : l.Fits previous none) :
    cut previous l.chars = [l] :=
  cut_eq_iff.mpr ⟨by simp, h, trivial⟩

/-! ### Cutting a text in two -/

/-- Whether the lexeme is read differently because `c` follows it: digits and points continue a
number, letters a name, and a name is called by `(`. -/
def sticksTo (c : Char) : Lexeme → Bool
  | number _ => isNumberChar c
  | name _ _ => isNameChar c || c == '('
  | symbol _ => false

theorem Fits.of_sticksTo {previous next : Option Char} {l : Lexeme} (h : l.Fits previous none)
    (hnext : ∀ c ∈ next, l.sticksTo c = false) : l.Fits previous next := by
  cases h with
  | unsigned hne hall => exact .unsigned hne hall hnext
  | signed hsign hall => exact .signed hsign hall hnext
  | name hne hall =>
    have hparen : (next == some '(') = (none == some '(') := by
      cases next with
      | none => rfl
      | some c => simpa using (Bool.or_eq_false_iff.mp (hnext c rfl)).2
    rw [← hparen]
    exact .name hne hall fun c hc => (Bool.or_eq_false_iff.mp (hnext c hc)).1
  | symbol hnum hunary hname => exact .symbol hnum hunary hname

theorem Tidy.append {previous : Option Char} {ls ls' : List Lexeme} (h : Tidy previous ls)
    (h' : Tidy ((ls.flatMap chars).getLast?.or previous) ls')
    (hlast : ∀ l ∈ ls.getLast?, ∀ c ∈ (ls'.flatMap chars).head?, l.sticksTo c = false) :
    Tidy previous (ls ++ ls') := by
  induction ls generalizing previous with
  | nil => exact h'
  | cons l ls ih =>
    rw [List.flatMap_cons, List.getLast?_append, Option.or_assoc] at h'
    cases ls with
    | nil => exact ⟨h.1.of_sticksTo (hlast l rfl), h'⟩
    | cons l' ls =>
      have hne : ((l' :: ls).flatMap chars).head? = ((l' :: ls ++ ls').flatMap chars).head? := by
        obtain ⟨c, hc, -⟩ := h.2.1.exists_head?
        simp [List.flatMap_cons, hc]
      exact ⟨hne ▸ h.1, ih h.2 h' (by simpa using hlast)⟩

theorem Tidy.right {previous : Option Char} {ls ls' : List Lexeme} (h : Tidy previous (ls ++ ls')) :
    Tidy ((ls.flatMap chars).getLast?.or previous) ls' := by
  induction ls generalizing previous with
  | nil => exact h
  | cons l ls ih =>
    rw [List.flatMap_cons, List.getLast?_append, Option.or_assoc]
    exact ih h.2

/-- The last characters of a tidy list are those of its last lexeme. -/
theorem Tidy.exists_getLast? {previous : Option Char} {ls : List Lexeme} {l : Lexeme}
    (h : Tidy previous ls) (hl : ls.getLast? = some l) :
    ∃ cs c, ls.flatMap chars = cs ++ [c] ∧ l.Admits (cs.getLast?.or previous) c := by
  obtain ⟨ls, rfl⟩ := List.getLast?_eq_some_iff.mp hl
  obtain ⟨cs, c, hc, hadmits⟩ := h.right.1.exists_getLast?
  refine ⟨ls.flatMap chars ++ cs, c, by simp [hc], ?_⟩
  rw [List.getLast?_append, Option.or_assoc]
  exact hadmits

/-- A text may be cut where its last lexeme so far is not continued. -/
theorem cut_append {previous : Option Char} {cs rest : List Char}
    (h : ∀ l ∈ (cut previous cs).getLast?, ∀ c ∈ rest.head?, l.sticksTo c = false) :
    cut previous (cs ++ rest) = cut previous cs ++ cut (cs.getLast?.or previous) rest := by
  refine cut_eq_iff.mpr ⟨by simp [flatMap_chars_cut], ?_⟩
  apply (tidy_cut previous cs).append
  · rw [flatMap_chars_cut]
    exact tidy_cut _ rest
  · rw [flatMap_chars_cut]
    exact h

/-- What stands in front of a text matters only for a minus sign that comes first. -/
theorem cut_congr (previous previous' : Option Char)
    (h : isUnaryMinus '-' previous = isUnaryMinus '-' previous') (cs : List Char) :
    cut previous cs = cut previous' cs := by
  cases cs with
  | nil => rfl
  | cons c cs =>
    have hc : isUnaryMinus c previous = isUnaryMinus c previous' := by
      by_cases hminus : c = '-'
      · rw [hminus, h]
      · rw [isUnaryMinus, isUnaryMinus, beq_eq_false_iff_ne.mpr hminus]
        rfl
    rw [cut, cut, hc]

/-! ### Symbols, parentheses and calls -/

theorem sticksTo_closing (l : Lexeme) : l.sticksTo ')' = false := by
  cases l <;> rfl

theorem sticksTo_operator (l : Lexeme) (op : Operator) : l.sticksTo op.symbol = false := by
  cases l <;> cases op <;> rfl

/-- A binary operator is a lexeme of its own. -/
theorem cut_operator {previous : Option Char} {op : Operator}
    (h : isUnaryMinus '-' previous = false) (rest : List Char) :
    cut previous (op.symbol :: rest) = symbol op.symbol :: cut (some op.symbol) rest := by
  refine cut_of_fits (l := symbol op.symbol) (.symbol ?_ ?_ ?_)
  · cases op <;> rfl
  · cases op with
    | minus => exact h
    | _ => simp [isUnaryMinus, Operator.symbol]
  · cases op <;> rfl

theorem cut_closing (previous : Option Char) (rest : List Char) :
    cut previous (')' :: rest) = symbol ')' :: cut (some ')') rest :=
  cut_of_fits (l := symbol ')') (.symbol rfl (by simp [isUnaryMinus]) rfl)

theorem cut_opening (previous : Option Char) (rest : List Char) :
    cut previous ('(' :: rest) = symbol '(' :: cut (some '(') rest :=
  cut_of_fits (l := symbol '(') (.symbol rfl (by simp [isUnaryMinus]) rfl)

/-- Inside of parentheses a text is cut as it is on its own. -/
theorem cut_paren (previous : Option Char) (cs rest : List Char) :
    cut previous ('(' :: (cs ++ ')' :: rest)) =
      symbol '(' :: (cut none cs ++ symbol ')' :: cut (some ')') rest) := by
  have happend : cut (some '(') (cs ++ ')' :: rest) =
      cut (some '(') cs ++ cut (cs.getLast?.or (some '(')) (')' :: rest) := by
    apply cut_append
    intro l _ c hc
    cases hc
    exact l.sticksTo_closing
  rw [cut_opening, happend, cut_closing, cut_congr (some '(') none rfl cs]

theorem isNameChar_of_mem_name {f : Func} {c : Char} (h : c ∈ f.name.toList) :
    isNameChar c = true := by
  have hall : f.name.toList.all isNameChar = true := by cases f <;> decide
  exact List.all_eq_true.mp hall c h

theorem toList_name_ne_nil (f : Func) : f.name.toList ≠ [] := by
  cases f <;> decide

theorem cut_call (previous : Option Char) (f : Func) (cs rest : List Char) :
    cut previous (f.name.toList ++ '(' :: (cs ++ ')' :: rest)) =
      name f.name.toList true ::
        symbol '(' :: (cut none cs ++ symbol ')' :: cut (some ')') rest) := by
  have hfits : (name f.name.toList true).Fits previous ('(' :: (cs ++ ')' :: rest)).head? := by
    show Fits previous (some '(') (name f.name.toList (some '(' == some '('))
    exact .name (toList_name_ne_nil f) (fun c hc => isNameChar_of_mem_name hc)
      (by simp [isNameChar])
  rw [← cut_paren (f.name.toList.getLast?.or previous)]
  exact cut_of_fits hfits

end Lexeme

end Calculator
