import Calculator.Decimal.Rounding

/-!
# Double-precision numbers by their codes

The lower sixty-three bits of a double are its *code*. Codes up to that of
infinity stand for magnitudes in their own order, and every finite magnitude is a
whole number of units of `2 ^ -1074`, the smallest that is not zero. So questions
about doubles become questions about natural numbers:

    units code      the magnitude of a finite code, in units of 2 ^ -1074
    nearest num den the code of the double nearest to num / den
-/

namespace Calculator.Binary64

-- Powers of natural numbers are those of the core library, whatever else is imported.
attribute [local instance (2000)] instPowNat

/-- The code of infinity: all exponent bits, no fraction bit. -/
def infinity : Nat := 2047 * 2 ^ (52 : Nat)

/-- The magnitude of the finite `code`, in units of `2 ^ -1074`: the fraction bits as they are
while the exponent bits are zero, and behind a leading one, doubled with every further exponent,
afterwards. -/
def units (code : Nat) : Nat :=
  if code / 2 ^ (52 : Nat) = 0 then code
  else (2 ^ (52 : Nat) + code % 2 ^ (52 : Nat)) * 2 ^ (code / 2 ^ (52 : Nat) - 1)

/-- The code of the double nearest to `num / den`, the even code of two that are equally near.

The quotient is counted in units of `2 ^ -1074`. One with more than fifty-three bits is counted in
larger units instead, `2 ^ scale` times as large, so that fifty-three bits are left. -/
def nearest (num den : Nat) : Nat :=
  let scale := Nat.log2 (num * 2 ^ (1074 : Nat) / den) - 52
  min infinity
    (scale * 2 ^ (52 : Nat) + Decimal.roundHalfEven (num * 2 ^ (1074 : Nat)) (den * 2 ^ scale))

/-! ### Doubles -/

/-- The double of a code and a sign. -/
def ofCode (negative : Bool) (code : Nat) : Float :=
  Float.ofBits (UInt64.ofNat (if negative then 2 ^ (63 : Nat) + code else code))

/-- What a double stands for. -/
inductive Value where
  | nan
  | infinite (negative : Bool)
  | finite (negative : Bool) (code : Nat)
  deriving DecidableEq

/-- Reads a double: codes above that of infinity stand for no number. -/
def value (x : Float) : Value :=
  let bits := x.toBits.toNat
  let negative := decide (2 ^ (63 : Nat) ≤ bits)
  let code := bits % 2 ^ (63 : Nat)
  if infinity < code then .nan
  else if code = infinity then .infinite negative
  else .finite negative code

end Calculator.Binary64
