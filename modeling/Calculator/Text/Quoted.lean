import Calculator.Text.Extending
import Calculator.Text.Unprintable

/-!
# Quoted texts

The journal quotes the texts and characters it speaks of: a text between `"` and
a character between `'`. Inside, the quotation mark itself and the backslash are
escaped by a backslash, four controls have a letter, and what cannot be seen or
would melt into its neighbour is written by its code point, as in `\u{301}`.
-/

namespace Calculator.Text

/-- The form of `c` between two marks `mark`. -/
def escaped (mark c : Char) : List Char :=
  if c = mark ∨ c = '\\' then ['\\', c]
  else if c = '\x00' then ['\\', '0']
  else if c = '\t' then ['\\', 't']
  else if c = '\n' then ['\\', 'n']
  else if c = '\r' then ['\\', 'r']
  else if isExtending c || isUnprintable c then
    ['\\', 'u', '\x7b'] ++ Nat.toDigits 16 c.toNat ++ ['\x7d']
  else [c]

/-- The characters `cs` between two marks, each in its escaped form. -/
def quotedBy (mark : Char) (cs : List Char) : String :=
  String.ofList (mark :: cs.flatMap (escaped mark) ++ [mark])

/-- A text between double quotation marks. -/
def quoted (text : String) : String :=
  quotedBy '"' text.toList

/-- A character between single quotation marks. -/
def quotedChar (c : Char) : String :=
  quotedBy '\'' [c]

example : quoted "it's \"1\"" = "\"it's \\\"1\\\"\"" := by decide +kernel

example : quotedChar '\'' = "'\\''" := by decide +kernel

example : quotedChar '\u0301' = "'\\u\x7b301\x7d'" := by decide +kernel

-- A filler is a letter that cannot be seen; a halfwidth sound mark is one that can.
example : quotedChar '\u3164' = "'\\u\x7b3164\x7d'" := by decide +kernel

example : quotedChar '\uff9e' = "'\uff9e'" := by decide +kernel

end Calculator.Text
