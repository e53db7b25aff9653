import Calculator.Text.CodeRange

/-!
# Blanks

A blank is a character with the Unicode property White_Space: twenty-five code
points in ten ranges. Blanks are what preparing an entry removes, and what the
delete key skips at the end of an entry.
-/

namespace Calculator.Text

/-- The ranges of the Unicode property White_Space. -/
def blankRanges : List (Nat × Nat) :=
  [(0x9, 0xd), (0x20, 0x20), (0x85, 0x85), (0xa0, 0xa0), (0x1680, 0x1680), (0x2000, 0x200a),
   (0x2028, 0x2029), (0x202f, 0x202f), (0x205f, 0x205f), (0x3000, 0x3000)]

/-- Whether `c` has the Unicode property White_Space. -/
def isBlank (c : Char) : Bool :=
  inRanges blankRanges c

end Calculator.Text
