import Calculator.Decimal.Nearest

/-!
# Numerals

How a number is written: a sign or none, and then the word `inf`, `infinity` or
`nan` in letters of either case, or digits with at most one point among them and
at most one power of ten behind them. Nothing else is a numeral, no blank and no
lone point.
-/

namespace Calculator

/-- What a numeral stands for. -/
inductive Numeral where
  | nan
  | infinite (negative : Bool)
  | decimal (value : Decimal)
  deriving DecidableEq

namespace Numeral

/-- Takes the sign off: whether it is a minus, and the rest. -/
def signed : List Char → Bool × List Char
  | '-' :: rest => (true, rest)
  | '+' :: rest => (false, rest)
  | rest => (false, rest)

/-- The natural number of a nonempty list of digits. -/
def natural? (digits : List Char) : Option Nat :=
  if digits ≠ [] ∧ digits.all Char.isDigit then some (Nat.ofDigitChars 10 digits 0) else none

/-- The power of ten behind the digits: none, or `e` and a whole number. -/
def exponent? : List Char → Option Int
  | [] => some 0
  | mark :: rest =>
    if mark = 'e' ∨ mark = 'E' then
      let (negative, digits) := signed rest
      (natural? digits).map fun n => if negative then -(n : Int) else n
    else none

/-- The digits behind the point, if there is one, and what follows them. -/
def fraction : List Char → List Char × List Char
  | '.' :: rest => (rest.takeWhile Char.isDigit, rest.dropWhile Char.isDigit)
  | rest => ([], rest)

/-- Reads digits, with or without a point and a power of ten. -/
def decimal? (negative : Bool) (body : List Char) : Option Decimal :=
  let whole := body.takeWhile Char.isDigit
  let (places, rest) := fraction (body.dropWhile Char.isDigit)
  match natural? (whole ++ places), exponent? rest with
  | some n, some exponent => some ⟨negative, n, exponent - places.length⟩
  | _, _ => none

/-- Reads a numeral; `none` for every other text. -/
def ofText? (text : String) : Option Numeral :=
  let (negative, body) := signed text.toList
  let word := String.ofList (body.map Char.toLower)
  if word = "inf" ∨ word = "infinity" then some (.infinite negative)
  else if word = "nan" then some .nan
  else (decimal? negative body).map .decimal

example : ofText? "-1.5e3" = some (.decimal ⟨true, 15, 2⟩) := by decide +kernel

example : ofText? "+Infinity" = some (.infinite false) := by decide +kernel

example : ofText? "." = none := by decide +kernel

example : ofText? "1_000" = none := by decide +kernel

/-- The double nearest to what a numeral stands for. -/
def toFloat : Numeral → Float
  | .nan => 0.0 / 0.0
  | .infinite negative => Binary64.ofCode negative Binary64.infinity
  | .decimal value => value.toFloat

end Numeral

/-- The double written as `text`, if `text` is a numeral. -/
def readNumber? (text : String) : Option Float :=
  (Numeral.ofText? text).map Numeral.toFloat

end Calculator
