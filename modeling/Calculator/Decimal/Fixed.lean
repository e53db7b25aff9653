import Calculator.Binary64
import Calculator.Decimal.Basic

/-!
# Doubles with a fixed number of places

The display shows a double rounded to so many decimal places. The rounding starts
from the exact value, a half going to the even neighbour; zeros at the end of the
fraction are left out, and so is the sign of a number that rounds to zero.
-/

namespace Calculator.Decimal

-- Powers of natural numbers are those of the core library, whatever else is imported.
attribute [local instance (2000)] instPowNat

/-- The magnitude of a finite code in units of `10 ^ -places`, rounded. -/
def scaled (code places : Nat) : Nat :=
  roundHalfEven (Binary64.units code * 10 ^ places) (2 ^ (1074 : Nat))

/-- A finite double rounded to `places` decimal places; zero has no sign. -/
def rounded (negative : Bool) (code places : Nat) : Decimal :=
  let n := scaled code places
  ⟨negative && n != 0, n, -(places : Int)⟩

-- Two and a half goes to the even neighbour, and so does three and a half.
example : (rounded false 0x4004000000000000 0).text = "2" := by decide +kernel

example : (rounded true 0x400c000000000000 0).text = "-4" := by decide +kernel

/-- The text of a double with at most `places` decimal places, however many these are. An
implementation that keeps the number of places in sixteen bits has no answer above 65535, which is
not modelled. -/
def display (x : Float) (places : Nat) : String :=
  match Binary64.value x with
  | .nan => "NaN"
  | .infinite negative => if negative then "-inf" else "inf"
  | .finite negative code => (rounded negative code places).text

end Calculator.Decimal
