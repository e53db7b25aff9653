import Calculator.Decimal.Nearest

/-!
# The fewest digits that read back

The journal writes a double with the fewest significant digits that still denote
it. On the grid of decimals with so many digits, only the two neighbours of the
exact value can be nearest to it, so the search tries these two, first with one
digit, then with two, and so on; seventeen always suffice.
-/

namespace Calculator.Decimal

-- Powers of natural numbers are those of the core library, whatever else is imported.
attribute [local instance (2000)] instPowNat

/-- The magnitude of a finite code in full: a whole number of units of `10 ^ -1074`. -/
def exact (code : Nat) : Decimal :=
  ⟨false, Binary64.units code * 5 ^ (1074 : Nat), -1074⟩

/-- The neighbours of `d` among the decimals whose last `dropped` digits are cut off. Both are
returned, the nearer one first; of two that are equally near, the greater comes first. -/
def neighbours (d : Decimal) (dropped : Nat) : List Decimal :=
  let below := d.coefficient / 10 ^ dropped
  let exponent := d.exponent + dropped
  if 2 * (d.coefficient % 10 ^ dropped) < 10 ^ dropped then
    [⟨d.negative, below, exponent⟩, ⟨d.negative, below + 1, exponent⟩]
  else
    [⟨d.negative, below + 1, exponent⟩, ⟨d.negative, below, exponent⟩]

/-- The decimals with few digits next to `d`, from one significant digit to seventeen. -/
def candidates (d : Decimal) : List Decimal :=
  let size := (Nat.toDigits 10 d.coefficient).length
  (List.range' 1 17).flatMap fun kept => neighbours d (size - kept)

/-- The decimal whose nearest double has the given finite code: the one with the fewest digits, and
of those the nearest. -/
def shortest (code : Nat) : Decimal :=
  let d := exact code
  ((candidates d).find? fun candidate => candidate.code == code).getD d

-- A tenth, the smallest double, and one that lies half-way between two decimals of its length.
example : shortest 0x3fb999999999999a = ⟨false, 1, -1⟩ := by decide +kernel

example : shortest 1 = ⟨false, 5, -324⟩ := by decide +kernel

example : shortest 0x40089b3400000000 = ⟨false, 30757827758789063, -16⟩ := by decide +kernel

/-- The text of a double in full: enough digits to tell it from every other double. -/
def full (x : Float) : String :=
  match Binary64.value x with
  | .nan => "NaN"
  | .infinite negative => if negative then "-inf" else "inf"
  | .finite negative code => { shortest code with negative }.text

end Calculator.Decimal
