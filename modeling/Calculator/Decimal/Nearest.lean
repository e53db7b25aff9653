import Calculator.Binary64
import Calculator.Decimal.Basic

/-!
# The double nearest to a decimal

A decimal is a quotient of natural numbers, and the double nearest to it is that
of the quotient. Exponents are bounded before any power is formed: from `10 ^ 310`
on everything is infinite, and what stays below half the smallest double is zero.
-/

namespace Calculator.Decimal

-- Powers of natural numbers are those of the core library, whatever else is imported.
attribute [local instance (2000)] instPowNat

/-- The code of the double nearest to the magnitude of a decimal. -/
def code (d : Decimal) : Nat :=
  if d.coefficient = 0 then 0
  else match d.exponent with
    | .ofNat n =>
      if 310 ≤ n then Binary64.infinity
      else Binary64.nearest (d.coefficient * 10 ^ n) 1
    | .negSucc n =>
      if d.coefficient.log2 + 1076 ≤ 3 * (n + 1) then 0
      else Binary64.nearest d.coefficient (10 ^ (n + 1))

/-- The double nearest to a decimal. -/
def toFloat (d : Decimal) : Float :=
  Binary64.ofCode d.negative d.code

end Calculator.Decimal
