import Calculator.Text.Quoted
import Mathlib.Tactic.SplitIfs

/-!
# Reading quoted texts back

What is quoted can be told from its quoted form: the text ends at the first mark that is
not escaped, and every escape stands for one character.

    unquote?_quoted         : unquote? (quoted text) = some text
    unquoteChar?_quotedChar : unquoteChar? (quotedChar c) = some c

The reader takes one character after the other and only knows where it is in an escape.
-/

namespace Calculator.Text

/-! ### The reader -/

/-- Where a reader of quoted characters is. -/
inductive Place where
  /-- Between two characters. -/
  | plain
  /-- Behind a backslash. -/
  | escape
  /-- In front of the brace that a code point follows. -/
  | brace
  /-- Among the digits of a code point, whose value so far is `value`. -/
  | code (value : Nat)

/-- The character that is escaped by a letter or a sign. -/
def letter (c : Char) : Char :=
  if c = '0' then '\x00'
  else if c = 't' then '\t'
  else if c = 'n' then '\n'
  else if c = 'r' then '\r'
  else c

/-- The value of a hexadecimal digit. -/
def hexValue (c : Char) : Nat :=
  if c.isDigit then c.toNat - '0'.toNat else c.toNat - 'a'.toNat + 10

/-- The number written in hexadecimal digits, behind digits whose value is `value`. -/
def hexNumber (value : Nat) (digits : List Char) : Nat :=
  digits.foldl (fun value c => 16 * value + hexValue c) value

/-- Reads characters up to `mark`, which must be the last. -/
def unescape? (mark : Char) : Place → List Char → Option (List Char)
  | _, [] => none
  | .plain, c :: cs =>
    if c = mark then if cs = [] then some [] else none
    else if c = '\\' then unescape? mark .escape cs
    else (unescape? mark .plain cs).map (c :: ·)
  | .escape, c :: cs =>
    if c = 'u' then unescape? mark .brace cs
    else (unescape? mark .plain cs).map (letter c :: ·)
  | .brace, c :: cs => if c = '\x7b' then unescape? mark (.code 0) cs else none
  | .code value, c :: cs =>
    if c = '\x7d' then (unescape? mark .plain cs).map (Char.ofNat value :: ·)
    else unescape? mark (.code (16 * value + hexValue c)) cs

/-- The characters between two marks. -/
def unquoteBy? (mark : Char) (quoted : String) : Option (List Char) :=
  match quoted.toList with
  | [] => none
  | c :: cs => if c = mark then unescape? mark .plain cs else none

/-- The text between double quotation marks. -/
def unquote? (quoted : String) : Option String :=
  (unquoteBy? '"' quoted).map String.ofList

/-- The one character between single quotation marks. -/
def unquoteChar? (quoted : String) : Option Char :=
  match unquoteBy? '\'' quoted with
  | some [c] => some c
  | _ => none

/-! ### Code points -/

theorem hexValue_digitChar {digit : Nat} (h : digit < 16) :
    hexValue digit.digitChar = digit ∧ digit.digitChar ≠ '\x7d' := by
  have hall : ∀ digit < 16, hexValue (Nat.digitChar digit) = digit ∧
      Nat.digitChar digit ≠ '\x7d' := by decide
  exact hall digit h

theorem hexNumber_concat (value : Nat) (digits : List Char) (c : Char) :
    hexNumber value (digits ++ [c]) = 16 * hexNumber value digits + hexValue c :=
  List.foldl_append

/-- The digits of a number are read as this number, and no brace is among them. -/
theorem hexNumber_toDigits (n : Nat) :
    hexNumber 0 (Nat.toDigits 16 n) = n ∧ '\x7d' ∉ Nat.toDigits 16 n := by
  induction n using Nat.strongRecOn with
  | ind n ih =>
    rw [Nat.toDigits_eq_if (by decide)]
    split
    · next hlt =>
      obtain ⟨hvalue, hne⟩ := hexValue_digitChar hlt
      simp [hexNumber, hvalue, hne.symm]
    · next hge =>
      obtain ⟨hfront, hbrace⟩ := ih (n / 16) (by omega)
      obtain ⟨hvalue, hne⟩ := hexValue_digitChar (Nat.mod_lt n (by decide : 16 > 0))
      constructor
      · have hlast : hexNumber 0 (Nat.toDigits 16 (n / 16) ++ [(n % 16).digitChar]) =
            16 * (n / 16) + n % 16 := by
          rw [hexNumber_concat, hfront, hvalue]
        rw [hlast, Nat.div_add_mod]
      · simp [hbrace, hne.symm]

theorem unescape?_code (mark : Char) {digits : List Char} (h : '\x7d' ∉ digits) (value : Nat)
    (rest : List Char) :
    unescape? mark (.code value) (digits ++ '\x7d' :: rest) =
      (unescape? mark .plain rest).map (Char.ofNat (hexNumber value digits) :: ·) := by
  induction digits generalizing value with
  | nil => rfl
  | cons c digits ih =>
    obtain ⟨hc, hdigits⟩ := not_or.mp (mt List.mem_cons.mpr h)
    rw [List.cons_append, unescape?, if_neg (Ne.symm hc), ih hdigits]
    rfl

/-! ### Characters and texts -/

variable {mark : Char}

/-- The form of a character in front of any others is read as this character. -/
theorem unescape?_escaped (hmark : mark = '"' ∨ mark = '\'') (c : Char) (rest : List Char) :
    unescape? mark .plain (escaped mark c ++ rest) =
      (unescape? mark .plain rest).map (c :: ·) := by
  have hbackslash : '\\' ≠ mark := by rcases hmark with rfl | rfl <;> decide
  -- Behind a backslash, everything but a code point takes one more character.
  have hescape : ∀ d, d ≠ 'u' → unescape? mark .plain ('\\' :: d :: rest) =
      (unescape? mark .plain rest).map (letter d :: ·) := by
    intro d hd
    simp [unescape?, hbackslash, hd]
  unfold escaped
  split_ifs with hself hnull htab hline hreturn hunseen
  · have hletter : letter c = c ∧ c ≠ 'u' := by
      rcases hself with rfl | rfl
      · rcases hmark with rfl | rfl <;> decide
      · decide
    rw [List.cons_append, List.singleton_append, hescape c hletter.2, hletter.1]
  · exact hnull ▸ hescape '0' (by decide)
  · exact htab ▸ hescape 't' (by decide)
  · exact hline ▸ hescape 'n' (by decide)
  · exact hreturn ▸ hescape 'r' (by decide)
  · obtain ⟨hnumber, hbrace⟩ := hexNumber_toDigits c.toNat
    have hcode := unescape?_code mark hbrace 0 rest
    rw [hnumber, Char.ofNat_toNat] at hcode
    simpa [unescape?, hbackslash] using hcode
  · obtain ⟨hne, hne'⟩ := not_or.mp hself
    simp [unescape?, hne, hne']

theorem unescape?_flatMap_escaped (hmark : mark = '"' ∨ mark = '\'') (cs : List Char) :
    unescape? mark .plain (cs.flatMap (escaped mark) ++ [mark]) = some cs := by
  induction cs with
  | nil => simp [unescape?]
  | cons c cs ih =>
    rw [List.flatMap_cons, List.append_assoc, unescape?_escaped hmark, ih]
    rfl

theorem unquoteBy?_quotedBy (hmark : mark = '"' ∨ mark = '\'') (cs : List Char) :
    unquoteBy? mark (quotedBy mark cs) = some cs := by
  have hread := unescape?_flatMap_escaped hmark cs
  simpa [unquoteBy?, quotedBy] using hread

/-- A text can be told from its quoted form. -/
theorem unquote?_quoted (text : String) : unquote? (quoted text) = some text := by
  rw [unquote?, quoted, unquoteBy?_quotedBy (.inl rfl), Option.map_some, String.ofList_toList]

/-- So can a character. -/
theorem unquoteChar?_quotedChar (c : Char) : unquoteChar? (quotedChar c) = some c := by
  rw [unquoteChar?, quotedChar, unquoteBy?_quotedBy (.inr rfl)]

end Calculator.Text
