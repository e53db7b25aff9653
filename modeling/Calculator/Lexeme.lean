/-!
# Lexemes

The first look at an expression cuts it into lexemes, from left to right: maximal
runs of digits and points, maximal runs of small letters, and single characters.
A minus sign at the start of the text or directly behind `(` belongs to the
number it precedes; everywhere else it is a character of its own.

Nothing is lost, and every text can be cut; whether a lexeme makes sense is asked
later:

    flatMap_chars_cut : (cut fresh cs).flatMap Lexeme.chars = cs
-/

namespace Calculator

/-- A piece of an expression. -/
inductive Lexeme where
  /-- Digits and points, behind a minus sign or not; or a minus sign that no digit follows. -/
  | number (chars : List Char)
  /-- Small letters, and whether `(` directly follows. -/
  | name (letters : List Char) (called : Bool)
  /-- Any other character. -/
  | symbol (char : Char)
  deriving DecidableEq

/-- Whether `c` continues a number. -/
def isNumberChar (c : Char) : Bool :=
  c.isDigit || c == '.'

/-- Whether `c` is a letter of a function's name: capitals are not. -/
def isNameChar (c : Char) : Bool :=
  c.isLower

/-- Whether `c`, behind `previous` or at the start of the text, is a minus sign that belongs to a
number. -/
def isUnaryMinus (c : Char) (previous : Option Char) : Bool :=
  c == '-' && (previous == none || previous == some '(')

namespace Lexeme

-- The sum of no numbers is the zero of the core library, whatever else is imported.
attribute [local instance (2000)] Zero.ofOfNat0

/-- The characters of a lexeme. -/
def chars : Lexeme → List Char
  | number chars => chars
  | name letters _ => letters
  | symbol char => [char]

/-- The number of bytes of a lexeme in UTF-8. -/
def size (l : Lexeme) : Nat :=
  (l.chars.map Char.utf8Size).sum

/-- Puts a digit, a point or a minus sign in front of the lexemes behind it. -/
def consNumber (c : Char) : List Lexeme → List Lexeme
  | number cs :: ls => number (c :: cs) :: ls
  | ls => number [c] :: ls

/-- Puts a small letter in front of the lexemes behind it. -/
def consName (c : Char) : List Lexeme → List Lexeme
  | name cs called :: ls => name (c :: cs) called :: ls
  | ls => name [c] (ls.head? == some (symbol '(')) :: ls

/-- Cuts the characters behind `previous`, or at the start of the text, into lexemes. -/
def cut (previous : Option Char) : List Char → List Lexeme
  | [] => []
  | c :: cs =>
    if isNumberChar c || isUnaryMinus c previous then consNumber c (cut (some c) cs)
    else if isNameChar c then consName c (cut (some c) cs)
    else symbol c :: cut (some c) cs

/-- The lexemes of a text. -/
def ofText (text : String) : List Lexeme :=
  cut none text.toList

/-- The lexemes with the byte offsets at which they start, the first at `offset`. -/
def place (offset : Nat) : List Lexeme → List (Nat × Lexeme)
  | [] => []
  | l :: ls => (offset, l) :: place (offset + l.size) ls

example : ofText "-2*(-.5)" =
    [.number ['-', '2'], .symbol '*', .symbol '(', .number ['-', '.', '5'], .symbol ')'] := by
  decide +kernel

example : ofText "sin(x)-" =
    [.name ['s', 'i', 'n'] true, .symbol '(', .name ['x'] false, .symbol ')', .symbol '-'] := by
  decide +kernel

/-! ### Nothing is lost -/

theorem flatMap_chars_consNumber (c : Char) (ls : List Lexeme) :
    (consNumber c ls).flatMap chars = c :: ls.flatMap chars := by
  unfold consNumber
  split <;> simp [chars]

theorem flatMap_chars_consName (c : Char) (ls : List Lexeme) :
    (consName c ls).flatMap chars = c :: ls.flatMap chars := by
  unfold consName
  split <;> simp [chars]

/-- The lexemes of a text spell it out. -/
theorem flatMap_chars_cut (previous : Option Char) (cs : List Char) :
    (cut previous cs).flatMap chars = cs := by
  induction cs generalizing previous with
  | nil => rfl
  | cons c cs ih =>
    unfold cut
    split
    · rw [flatMap_chars_consNumber, ih]
    · split
      · rw [flatMap_chars_consName, ih]
      · simp [chars, ih]

theorem exists_mem_cut (previous : Option Char) {cs : List Char} {c : Char} (hc : c ∈ cs) :
    ∃ l ∈ cut previous cs, c ∈ l.chars := by
  rw [← flatMap_chars_cut previous cs] at hc
  exact List.mem_flatMap.mp hc

end Lexeme

end Calculator
