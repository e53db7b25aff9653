import Calculator.Proofs.Conversion.Unstacking

/-!
# One character after the other

A conversion may also read its text by characters, with the next one in view. Such a scanner knows
where the number or the name begins that it is in, and takes it with its last character; all that
waits is on one stack. This is the conversion of lexemes in other words, with the same events and
the same outcome, and at every character with the same stack:

    scan_eq_ofText : scan text = Rpn.ofText text
    view_read_take : Scanner.view <$> … = State.view <$> progress text count
-/

namespace Calculator

open Lexeme

namespace Conversion

-- The sum of no numbers is the zero of the core library, whatever else is imported.
attribute [local instance (2000)] Zero.ofOfNat0

/-! ### The scanner -/

/-- How far a text has been scanned. -/
structure Scanner where
  output : Array Token
  /-- All that waits, the latest first. -/
  stack : List Stacked
  /-- Where the number begins that is not at its end, and its characters. -/
  number : Option (Nat × List Char)
  /-- Where the name begins that is not at its end, and its letters. -/
  name : Option (Nat × List Char)
  previous : Option Char

namespace Scanner

/-- Nothing has been read. -/
def start : Scanner :=
  ⟨#[], [], none, none, none⟩

/-- Takes a number, unless the next character continues it. -/
def takeNumber (m : Scanner) (start : Nat) (chars : List Char) (next : Option Char) :
    Logged ParseError Scanner :=
  if next.any isNumberChar then return { m with number := some (start, chars) }
  else if (Numeral.ofText? (String.ofList chars)).isSome then do
    .report (.written (.number (String.ofList chars)))
    return { m with output := m.output.push (.number (String.ofList chars)), number := none }
  else .fail (.invalidNumber (String.ofList chars) start)

/-- Takes a name, unless the next character continues it: it must be called. -/
def takeName (m : Scanner) (start : Nat) (letters : List Char) (next : Option Char) :
    Logged ParseError Scanner :=
  if next = some '(' then
    match Func.ofName? (String.ofList letters) with
    | some f => return { m with stack := .pending (.function f) :: m.stack, name := none }
    | none => .fail (.unknownFunction (String.ofList letters) start)
  else if next.any isNameChar then return { m with name := some (start, letters) }
  else .fail (.unknownFunction (String.ofList letters) start)

/-- Takes a character that stands for itself. -/
def takeSymbol (m : Scanner) (position : Nat) (c : Char) : Logged ParseError Scanner :=
  if c = '(' then return { m with stack := .opening position :: m.stack }
  else if c = ')' then do
    let (output, stack) ← unstackGroup position m.output m.stack
    return { m with output, stack }
  else match Operator.ofChar? c with
    | some op => do
      let (output, stack) ← unstackTighter op m.output m.stack
      return { m with output, stack := .pending (.operator op) :: stack }
    | none => do
      .report (.unexpected c position)
      .fail (.invalidCharacter c position)

/-- Takes the character at a byte offset, in front of `next`. -/
def take (m : Scanner) (position : Nat) (c : Char) (next : Option Char) :
    Logged ParseError Scanner :=
  if isNumberChar c || isUnaryMinus c m.previous then
    let (start, chars) := m.number.getD (position, [])
    m.takeNumber start (chars ++ [c]) next
  else if isNameChar c then
    let (start, letters) := m.name.getD (position, [])
    m.takeName start (letters ++ [c]) next
  else m.takeSymbol position c

/-- Notes the character that has been taken. -/
def after (c : Option Char) (m : Scanner) : Scanner :=
  { m with previous := c }

/-- Reads characters in front of `next`, the first at a byte offset. -/
def read (m : Scanner) (position : Nat) (next : Option Char) :
    List Char → Logged ParseError Scanner
  | [] => return m
  | c :: cs => do
    let m ← after (some c) <$> m.take position c (cs.head?.or next)
    m.read (position + c.utf8Size) next cs

end Scanner

/-- Converts a text by scanning it. -/
def scan (text : String) : Logged ParseError Rpn := do
  let m ← Scanner.start.read 0 none text.toList
  drain text m.output m.stack

variable {position : Nat}

/-! ### One lexeme by its characters -/

/-- What a scanner has in common with a conversion. -/
def Scanner.view (m : Scanner) : Array Token × List Stacked :=
  (m.output, m.stack)

/-- A scanner behind `previous` that is in no number and no name. -/
def Scanner.idle (waiting : Array Token × List Stacked) (previous : Option Char) : Scanner :=
  ⟨waiting.1, waiting.2, none, none, previous⟩

theorem any_eq_false {p : Char → Bool} {next : Option Char} (h : ∀ c ∈ next, p c = false) :
    next.any p = false := by
  cases next with
  | none => rfl
  | some c => exact h c rfl

theorem after_takeNumber {next : Option Char} (h : ∀ c ∈ next, isNumberChar c = false)
    (s : State) (start : Nat) (chars : List Char) (previous last : Option Char) :
    Scanner.after last <$> (Scanner.idle s.view previous).takeNumber start chars next =
      (fun s' => Scanner.idle s'.view last) <$> s.number start (String.ofList chars) := by
  unfold Scanner.takeNumber State.number
  rw [if_neg (Bool.eq_false_iff.mp (any_eq_false h))]
  split
  · rfl
  · rfl

theorem after_takeName {next : Option Char} (h : ∀ c ∈ next, isNameChar c = false)
    (s : State) (start : Nat) (letters : List Char) (previous last : Option Char) :
    Scanner.after last <$> (Scanner.idle s.view previous).takeName start letters next =
      (fun s' => Scanner.idle s'.view last) <$>
        s.name start (String.ofList letters) (next == some '(') := by
  unfold Scanner.takeName State.name
  rw [if_neg (Bool.eq_false_iff.mp (any_eq_false h))]
  by_cases hcalled : next = some '('
  · have hbeq : (next == some '(') = true := beq_iff_eq.mpr hcalled
    rw [if_pos hcalled, hbeq]
    cases Func.ofName? (String.ofList letters) with
    | none => rfl
    | some f =>
      exact congrArg (fun waiting => pure (Scanner.idle waiting last))
        (s.view_hold (.function f)).symm
  · have hbeq : (next == some '(') = false := beq_false_of_ne hcalled
    rw [if_neg hcalled, hbeq]
    rfl

theorem after_takeSymbol (s : State) (position : Nat) (c : Char) (previous last : Option Char) :
    Scanner.after last <$> (Scanner.idle s.view previous).takeSymbol position c =
      (fun s' => Scanner.idle s'.view last) <$> s.symbol position c := by
  -- The conversion is seen through its view only.
  have hview : ∀ x : Logged ParseError State, (fun s' => Scanner.idle s'.view last) <$> x =
      (Scanner.idle · last) <$> State.view <$> x := fun x =>
      (Functor.map_map State.view (Scanner.idle · last) x).symm
  rw [hview]
  unfold Scanner.takeSymbol State.symbol
  split
  · exact congrArg (fun waiting => pure (Scanner.idle waiting last))
      (s.view_openParen position).symm
  · split
    · rw [view_closeParen, map_bind, map_eq_pure_bind]
      rfl
    · cases Operator.ofChar? c with
      | some op =>
        dsimp only
        rw [view_operator, map_bind, Functor.map_map, map_eq_pure_bind]
        rfl
      | none => rfl

theorem isUnaryMinus_of_isNameChar {c : Char} (h : isNameChar c = true)
    (previous : Option Char) : isUnaryMinus c previous = false := by
  rw [Bool.eq_false_iff, ne_eq, isUnaryMinus_eq_true_iff]
  rintro ⟨rfl, -⟩
  exact absurd h (by decide)

theorem take_number {m : Scanner} {c : Char} {front : List Char} {start : Nat}
    (hstart : m.number.getD (position, []) = (start, front))
    (hc : (isNumberChar c || isUnaryMinus c m.previous) = true) (next : Option Char) :
    m.take position c next = m.takeNumber start (front ++ [c]) next := by
  rw [Scanner.take, if_pos hc, hstart]

theorem take_name {m : Scanner} {c : Char} {front : List Char} {start : Nat}
    (hstart : m.name.getD (position, []) = (start, front)) (hc : isNameChar c = true)
    (next : Option Char) : m.take position c next = m.takeName start (front ++ [c]) next := by
  rw [Scanner.take, isNumberChar_of_isNameChar hc, isUnaryMinus_of_isNameChar hc, Bool.or_self,
    if_neg Bool.false_ne_true, if_pos hc, hstart]

/-- A number that continues leaves nothing but where it begins and its characters. -/
theorem takeNumber_of_next (m : Scanner) (start : Nat) (chars : List Char) {d : Char}
    (hd : isNumberChar d = true) :
    m.takeNumber start chars (some d) = pure { m with number := some (start, chars) } :=
  if_pos hd

theorem takeName_of_next (m : Scanner) (start : Nat) (letters : List Char) {d : Char}
    (hd : isNameChar d = true) :
    m.takeName start letters (some d) = pure { m with name := some (start, letters) } := by
  have hne : some d ≠ some '(' := by
    rintro ⟨⟩
    exact absurd hd (by decide)
  rw [Scanner.takeName, if_neg hne]
  exact if_pos hd

/-- Of what was noted before, nothing is left when the number has been taken. -/
theorem after_takeNumber_noted (m : Scanner) (number : Option (Nat × List Char))
    (previous last : Option Char) (start : Nat) (chars : List Char) (next : Option Char) :
    Scanner.after last <$> { m with number, previous }.takeNumber start chars next =
      Scanner.after last <$> m.takeNumber start chars next := by
  unfold Scanner.takeNumber
  split
  · rfl
  · split
    · rfl
    · rfl

theorem after_takeName_noted (m : Scanner) (name : Option (Nat × List Char))
    (previous last : Option Char) (start : Nat) (letters : List Char) (next : Option Char) :
    Scanner.after last <$> { m with name, previous }.takeName start letters next =
      Scanner.after last <$> m.takeName start letters next := by
  unfold Scanner.takeName
  split
  · cases Func.ofName? (String.ofList letters) with
    | none => rfl
    | some f => rfl
  · split
    · rfl
    · rfl

theorem read_cons_cons {m m' : Scanner} {c d : Char} (h : m.take position c (some d) = pure m')
    (next : Option Char) (cs : List Char) :
    m.read position next (c :: d :: cs) =
      (m'.after (some c)).read (position + c.utf8Size) next (d :: cs) := by
  rw [Scanner.read, List.head?_cons, Option.some_or, h, map_pure, pure_bind]

/-- Characters of a number are collected up to the last, with which it is taken. -/
theorem read_number {m : Scanner} {c : Char} {cs front : List Char} {start : Nat}
    (hstart : m.number.getD (position, []) = (start, front))
    (hc : (isNumberChar c || isUnaryMinus c m.previous) = true)
    (hcs : ∀ d ∈ cs, isNumberChar d = true) (next : Option Char) :
    m.read position next (c :: cs) =
      Scanner.after (c :: cs).getLast? <$> m.takeNumber start (front ++ c :: cs) next := by
  induction cs generalizing m c front position with
  | nil =>
    rw [Scanner.read, take_number hstart hc]
    exact bind_pure _
  | cons d cs ih =>
    obtain ⟨hd, hrest⟩ := List.forall_mem_cons.mp hcs
    have htake := (take_number hstart hc (some d)).trans (takeNumber_of_next m start _ hd)
    rw [read_cons_cons htake, ih rfl (by rw [hd, Bool.true_or]) hrest, List.append_assoc,
      List.singleton_append, List.getLast?_cons_cons]
    exact after_takeNumber_noted m _ _ _ start _ next

/-- So are the letters of a name. -/
theorem read_name {m : Scanner} {c : Char} {cs front : List Char} {start : Nat}
    (hstart : m.name.getD (position, []) = (start, front))
    (hcs : ∀ d ∈ c :: cs, isNameChar d = true) (next : Option Char) :
    m.read position next (c :: cs) =
      Scanner.after (c :: cs).getLast? <$> m.takeName start (front ++ c :: cs) next := by
  induction cs generalizing m c front position with
  | nil =>
    rw [Scanner.read, take_name hstart (hcs c List.mem_cons_self)]
    exact bind_pure _
  | cons d cs ih =>
    obtain ⟨hc, hrest⟩ := List.forall_mem_cons.mp hcs
    have htake := (take_name hstart hc (some d)).trans
      (takeName_of_next m start _ (hrest d List.mem_cons_self))
    rw [read_cons_cons htake, ih rfl hrest, List.append_assoc, List.singleton_append,
      List.getLast?_cons_cons]
    exact after_takeName_noted m _ _ _ start _ next

/-- The character before the next lexeme is the last of this one. -/
theorem getLast?_cons_or_eq (c : Char) (cs : List Char) (previous : Option Char) :
    (c :: cs).getLast?.or previous = (c :: cs).getLast? := by
  rw [List.getLast?_cons, Option.some_or]

/-- A lexeme is taken with its last character. -/
theorem read_chars {previous next : Option Char} {l : Lexeme} (h : l.Fits previous next)
    (s : State) (position : Nat) :
    (Scanner.idle s.view previous).read position next l.chars =
      (fun s' => Scanner.idle s'.view (l.chars.getLast?.or previous)) <$>
        s.step (position, l) := by
  cases h with
  | unsigned hne hall hnext =>
    obtain ⟨c, cs, rfl⟩ := List.exists_cons_of_ne_nil hne
    obtain ⟨hc, hcs⟩ := List.forall_mem_cons.mp hall
    rw [chars, read_number rfl (by rw [hc, Bool.true_or]) hcs, after_takeNumber hnext,
      getLast?_cons_or_eq]
    rfl
  | signed hsign hall hnext =>
    rw [chars, read_number rfl (by rw [Scanner.idle, hsign, Bool.or_true]) hall,
      after_takeNumber hnext, getLast?_cons_or_eq]
    rfl
  | name hne hall hnext =>
    obtain ⟨c, cs, rfl⟩ := List.exists_cons_of_ne_nil hne
    rw [chars, read_name rfl hall, after_takeName hnext, getLast?_cons_or_eq]
    rfl
  | @symbol c hnumber hminus hname =>
    have htake : (Scanner.idle s.view previous).take position c next =
        (Scanner.idle s.view previous).takeSymbol position c := by
      rw [Scanner.take, hnumber, Scanner.idle, hminus, hname]
      rfl
    rw [chars, Scanner.read, List.head?_nil, Option.none_or, htake, after_takeSymbol]
    exact bind_pure _

/-- A number that has begun and has not ended leaves the output and the stack as they were. -/
theorem view_read_number {m : Scanner} {c : Char} {cs : List Char} {count : Nat}
    (hc : (isNumberChar c || isUnaryMinus c m.previous) = true)
    (hcs : ∀ d ∈ cs, isNumberChar d = true) (hcount : count < cs.length) :
    Scanner.view <$> m.read position (cs.drop count).head? (c :: cs.take count) = pure m.view := by
  have hbegun : ∀ d ∈ cs.take count, isNumberChar d = true :=
    fun d hd => hcs d (List.mem_of_mem_take hd)
  have hnext : isNumberChar cs[count] = true := hcs _ (List.getElem_mem hcount)
  rw [List.head?_drop, List.getElem?_eq_getElem hcount, read_number rfl hc hbegun,
    takeNumber_of_next _ _ _ hnext]
  rfl

theorem view_read_name {m : Scanner} {c : Char} {cs : List Char} {count : Nat}
    (hcs : ∀ d ∈ c :: cs, isNameChar d = true) (hcount : count < cs.length) :
    Scanner.view <$> m.read position (cs.drop count).head? (c :: cs.take count) = pure m.view := by
  obtain ⟨hname, hrest⟩ := List.forall_mem_cons.mp hcs
  have hbegun : ∀ d ∈ c :: cs.take count, isNameChar d = true :=
    List.forall_mem_cons.mpr ⟨hname, fun d hd => hrest d (List.mem_of_mem_take hd)⟩
  have hnext : isNameChar cs[count] = true := hrest _ (List.getElem_mem hcount)
  rw [List.head?_drop, List.getElem?_eq_getElem hcount, read_name rfl hbegun,
    takeName_of_next _ _ _ hnext]
  rfl

/-- So does any lexeme. -/
theorem view_read_begun {previous next : Option Char} {l : Lexeme} {count : Nat}
    (h : l.Fits previous next) (hcount : count < l.chars.length)
    (waiting : Array Token × List Stacked) :
    Scanner.view <$> (Scanner.idle waiting previous).read position (l.chars.drop count).head?
      (l.chars.take count) = pure waiting := by
  cases count with
  | zero => rfl
  | succ count =>
    cases h with
    | unsigned hne hall =>
      obtain ⟨c, cs, rfl⟩ := List.exists_cons_of_ne_nil hne
      obtain ⟨hc, hcs⟩ := List.forall_mem_cons.mp hall
      exact view_read_number (by rw [hc, Bool.true_or]) hcs (Nat.lt_of_succ_lt_succ hcount)
    | signed hsign hall =>
      exact view_read_number (by rw [Scanner.idle, hsign, Bool.or_true]) hall
        (Nat.lt_of_succ_lt_succ hcount)
    | name hne hall =>
      obtain ⟨c, cs, rfl⟩ := List.exists_cons_of_ne_nil hne
      exact view_read_name hall (Nat.lt_of_succ_lt_succ hcount)
    | symbol => exact absurd (Nat.lt_of_succ_lt_succ hcount) (Nat.not_lt_zero count)

/-! ### Many lexemes -/

theorem read_append (m : Scanner) (position : Nat) (next : Option Char) (cs ds : List Char) :
    m.read position next (cs ++ ds) =
      m.read position (ds.head?.or next) cs >>= fun m =>
        m.read (position + (cs.map Char.utf8Size).sum) next ds := by
  induction cs generalizing m position with
  | nil =>
    rw [List.nil_append, Scanner.read, pure_bind]
    rfl
  | cons c cs ih =>
    rw [List.cons_append, Scanner.read, Scanner.read, bind_assoc, List.head?_append,
      Option.or_assoc]
    refine congrArg _ (funext fun m => ?_)
    rw [ih, List.map_cons, List.sum_cons, Nat.add_assoc]

/-- Lexemes are read one after the other, each in front of the next. -/
theorem read_flatMap_chars {previous : Option Char} {ls rest : List Lexeme}
    (h : Tidy previous (ls ++ rest)) (s : State) (position : Nat) :
    (Scanner.idle s.view previous).read position (rest.flatMap chars).head? (ls.flatMap chars) =
      (fun s' => Scanner.idle s'.view ((ls.flatMap chars).getLast?.or previous)) <$>
        s.run (place position ls) := by
  induction ls generalizing s previous position with
  | nil => rfl
  | cons l ls ih =>
    have hfits : l.Fits previous ((ls.flatMap chars).head?.or (rest.flatMap chars).head?) := by
      rw [← List.head?_append, ← List.flatMap_append]
      exact h.1
    have hrun : s.run (place position (l :: ls)) =
        s.step (position, l) >>= fun s' => s'.run (place (position + l.size) ls) :=
      List.foldlM_cons
    rw [List.flatMap_cons, read_append, read_chars hfits, bind_map_left, hrun, map_bind,
      List.getLast?_append, Option.or_assoc]
    exact congrArg _ (funext fun s' => ih h.2 s' _)

/-! ### The whole text -/

/-- A text is converted in the same way by characters as by lexemes, with the same events. -/
theorem scan_eq_ofText (text : String) : scan text = Rpn.ofText text := by
  have htidy : Tidy none (Lexeme.ofText text ++ []) := by
    rw [List.append_nil]
    exact tidy_cut none text.toList
  have hread := read_flatMap_chars htidy .start 0
  rw [Lexeme.ofText, flatMap_chars_cut] at hread
  have hstart : Scanner.start = Scanner.idle State.start.view none := rfl
  rw [scan, hstart, Rpn.ofText, Lexeme.ofText]
  change (Scanner.idle State.start.view none).read 0 ([].flatMap chars).head? text.toList >>= _ = _
  rw [hread, bind_map_left]
  exact congrArg _ (funext fun s => (finish_eq_drain s text).symm)

/-- After every character of a text, whether or not a lexeme ends there, the scanner has the same
tokens and the same stack as the conversion, and the same events. -/
theorem view_read_take (text : String) (count : Nat) :
    Scanner.view <$>
        Scanner.start.read 0 (text.toList.drop count).head? (text.toList.take count) =
      State.view <$> progress text count := by
  have htidy : Tidy none (Lexeme.ofText text) := tidy_cut none text.toList
  obtain ⟨rest, begun, hls, htake, hdrop, hbegun⟩ :=
    exists_ended_append count (Lexeme.ofText text)
  have hchars : (Lexeme.ofText text).flatMap chars = text.toList := flatMap_chars_cut none _
  rw [hchars] at htake hdrop
  rw [hls] at htidy
  have hnext : begun.head?.or (text.toList.drop count).head? = (rest.flatMap chars).head? := by
    rw [← List.head?_append, hdrop]
  have hstart : Scanner.start = Scanner.idle State.start.view none := rfl
  rw [htake, read_append, hnext, hstart, read_flatMap_chars htidy, bind_map_left, map_bind,
    progress, map_eq_pure_bind]
  refine congrArg _ (funext fun s => ?_)
  rcases hbegun with rfl | ⟨l, after, k, rfl, hk, rfl⟩
  · rfl
  · have hcut : l.chars.take k ++ text.toList.drop count =
        l.chars.take k ++ (l.chars.drop k ++ after.flatMap chars) := by
      rw [hdrop, List.flatMap_cons, ← List.append_assoc, List.take_append_drop]
    have hne : l.chars.drop k ≠ [] := fun hnil =>
      Nat.not_le.mpr hk (List.drop_eq_nil_iff.mp hnil)
    rw [List.append_cancel_left hcut, List.head?_append_of_ne_nil _ hne]
    exact view_read_begun htidy.right.1 hk s.view

-- Nothing has been taken yet of a name that goes on.
example : (Scanner.start.read 0 (some 'n') "2*si".toList).outcome.map Scanner.view =
    .ok (#[.number "2"], [.pending (.operator .times)]) := by rfl

end Conversion

end Calculator
