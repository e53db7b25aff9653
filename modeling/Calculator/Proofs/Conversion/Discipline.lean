import Calculator.Proofs.Conversion.Diagnosis

/-!
# The stack of a conversion

While a text is read, what is held back and the parentheses that are open lie above each
other on a stack. Between two parentheses, every operator binds more tightly than the one
below it, so that there are three of them at most, and functions lie above the operators.
The parentheses on the stack are those that have been read and are not closed yet:

    stack_progress : … ∨ ∃ s, (progress text count).outcome = .ok s ∧ …

This holds after every character and of every text, whether or not its operators have
operands. It rests on two invariants of the lexemes that are taken: `Ranked`, of one
level of parentheses, and `Opens`, of their positions. A character inside of a lexeme
changes nothing.
-/

namespace Calculator

/-! ### Characters that have been read -/

namespace Lexeme

/-- The lexemes that end within the first `count` characters. -/
def ended : Nat → List Lexeme → List Lexeme
  | _, [] => []
  | count, l :: ls =>
    if l.chars.length ≤ count then l :: ended (count - l.chars.length) ls else []

/-- A lexeme of several characters has no parenthesis among them. -/
theorem Fits.ne_paren_of_lt {previous next : Option Char} {l : Lexeme} {count : Nat}
    (h : l.Fits previous next) (hcount : count < l.chars.length) :
    ∀ c ∈ l.chars.take count, c ≠ '(' ∧ c ≠ ')' := by
  intro c hc
  have hmem := List.mem_of_mem_take hc
  cases h with
  | unsigned hne hall => exact ⟨ne_of_class (hall c hmem) rfl, ne_of_class (hall c hmem) rfl⟩
  | signed hsign hall =>
    rcases List.mem_cons.mp hmem with rfl | hmem
    · decide
    · exact ⟨ne_of_class (hall c hmem) rfl, ne_of_class (hall c hmem) rfl⟩
  | name hne hall => exact ⟨ne_of_class (hall c hmem) rfl, ne_of_class (hall c hmem) rfl⟩
  | symbol =>
    obtain rfl : count = 0 := Nat.lt_one_iff.mp hcount
    simp at hc

/-- The first characters of lexemes are those of the lexemes that have ended, and the beginning of
the one that comes next. -/
theorem exists_ended_append (count : Nat) (ls : List Lexeme) :
    ∃ rest begun, ls = ended count ls ++ rest ∧
      (ls.flatMap chars).take count = (ended count ls).flatMap chars ++ begun ∧
      begun ++ (ls.flatMap chars).drop count = rest.flatMap chars ∧
      (begun = [] ∨
        ∃ l after k, rest = l :: after ∧ k < l.chars.length ∧ begun = l.chars.take k) := by
  induction ls generalizing count with
  | nil => exact ⟨[], [], rfl, by simp [ended], by simp, .inl rfl⟩
  | cons l ls ih =>
    unfold ended
    split
    · next hle =>
      obtain ⟨rest, begun, hls, htake, hdrop, hbegun⟩ := ih (count - l.chars.length)
      refine ⟨rest, begun, by rw [List.cons_append, ← hls], ?_, ?_, hbegun⟩
      · rw [List.flatMap_cons, List.take_append, List.take_of_length_le hle, htake]
        simp
      · rw [List.flatMap_cons, List.drop_append, List.drop_of_length_le hle]
        exact hdrop
    · next hlt =>
      have hlt : count < l.chars.length := Nat.lt_of_not_le hlt
      have htake : ((l :: ls).flatMap chars).take count = l.chars.take count :=
        List.take_append_of_le_length (Nat.le_of_lt hlt)
      refine ⟨l :: ls, l.chars.take count, rfl, htake, ?_, .inr ⟨l, ls, count, rfl, hlt, rfl⟩⟩
      rw [← htake, List.take_append_drop]

/-- What has begun of a text and has not ended has no parenthesis. -/
theorem Tidy.exists_take_eq {previous : Option Char} {ls : List Lexeme} (h : Tidy previous ls)
    (count : Nat) :
    ∃ rest begun, ls = ended count ls ++ rest ∧
      (ls.flatMap chars).take count = (ended count ls).flatMap chars ++ begun ∧
      ∀ c ∈ begun, c ≠ '(' ∧ c ≠ ')' := by
  obtain ⟨rest, begun, hls, htake, -, hbegun⟩ := exists_ended_append count ls
  refine ⟨rest, begun, hls, htake, ?_⟩
  rw [hls] at h
  rcases hbegun with rfl | ⟨l, after, k, rfl, hk, rfl⟩
  · simp
  · exact h.right.1.ne_paren_of_lt hk

theorem place_append (offset : Nat) (ls ls' : List Lexeme) :
    place offset (ls ++ ls') =
      place offset ls ++ place (offset + (ls.map Lexeme.size).sum) ls' := by
  induction ls generalizing offset with
  | nil => simp [place]
  | cons l ls ih => simp [place, ih, Nat.add_assoc]

end Lexeme

open Lexeme

namespace Conversion

/-- How far the conversion of `text` has come when the first `count` characters have been read. A
lexeme is taken with its last character. -/
def progress (text : String) (count : Nat) : Logged ParseError State :=
  State.start.run (place 0 (ended count (Lexeme.ofText text)))

/-- What is wrong with the first characters is wrong with the text. -/
theorem outcome_ofText_of_progress {text : String} {count : Nat} {e : ParseError}
    (h : (progress text count).outcome = .error e) : (Rpn.ofText text).outcome = .error e := by
  obtain ⟨rest, -, hls, -⟩ := exists_ended_append count (Lexeme.ofText text)
  have hplace := place_append 0 (ended count (Lexeme.ofText text)) rest
  rw [← hls] at hplace
  rw [progress] at h
  rw [Rpn.ofText, Logged.outcome_bind, hplace, State.outcome_run_append, h]
  rfl

/-! ### One level of parentheses -/

/-- Functions, and behind them operators each of which binds more tightly than the next. This is how
what is held back lies inside one parenthesis, the latest first. -/
def Ranked (held : List Pending) : Prop :=
  ∃ (fs : List Func) (ops : List Operator),
    held = fs.map .function ++ ops.map .operator ∧
      ops.Pairwise fun above below => below.precedence < above.precedence

theorem ranked_nil : Ranked [] :=
  ⟨[], [], rfl, .nil⟩

theorem Ranked.function {held : List Pending} (h : Ranked held) (f : Func) :
    Ranked (.function f :: held) := by
  obtain ⟨fs, ops, rfl, hops⟩ := h
  exact ⟨f :: fs, ops, rfl, hops⟩

/-- What stays when an operator comes in binds less tightly than that operator. -/
theorem precedence_lt_of_mem_dropWhile {op : Operator} {ops : List Operator}
    (h : ops.Pairwise fun above below => below.precedence < above.precedence) :
    ∀ below ∈ ops.dropWhile fun above => op.precedence ≤ above.precedence,
      below.precedence < op.precedence := by
  induction ops with
  | nil => simp
  | cons above ops ih =>
    obtain ⟨habove, hops⟩ := List.pairwise_cons.mp h
    rw [List.dropWhile_cons]
    split
    · exact ih hops
    · next hlt =>
      have hlt : above.precedence < op.precedence := by simpa using hlt
      intro below hbelow
      rcases List.mem_cons.mp hbelow with rfl | hbelow
      · exact hlt
      · exact Nat.lt_trans (habove below hbelow) hlt

/-- An operator that comes in finds no function above it, and nothing that binds as tightly. -/
theorem Ranked.operator {held : List Pending} (h : Ranked held) (op : Operator) :
    Ranked (.operator op :: held.dropWhile fun p => op.precedence ≤ p.precedence) := by
  obtain ⟨fs, ops, rfl, hops⟩ := h
  have hfs : ∀ p ∈ fs.map Pending.function, decide (op.precedence ≤ p.precedence) = true := by
    intro p hp
    obtain ⟨f, -, rfl⟩ := List.mem_map.mp hp
    exact decide_eq_true (Nat.le_succ_of_le op.precedence_le_three)
  refine ⟨[], op :: ops.dropWhile fun above => op.precedence ≤ above.precedence, ?_, ?_⟩
  · rw [List.dropWhile_append_of_pos hfs, List.dropWhile_map]
    rfl
  · exact List.pairwise_cons.mpr
      ⟨precedence_lt_of_mem_dropWhile hops, hops.sublist (List.dropWhile_sublist _)⟩

/-- Above an operator, there is room for as many as there are higher ranks. -/
theorem length_add_precedence_le {op : Operator} {ops : List Operator}
    (h : (op :: ops).Pairwise fun below above => below.precedence < above.precedence) :
    ops.length + op.precedence ≤ 3 := by
  induction ops generalizing op with
  | nil => simpa using op.precedence_le_three
  | cons above ops ih =>
    obtain ⟨hop, hops⟩ := List.pairwise_cons.mp h
    have hlt := hop above List.mem_cons_self
    have hle := ih hops
    rw [List.length_cons]
    omega

theorem length_le_three_of_pairwise {ops : List Operator}
    (h : ops.Pairwise fun below above => below.precedence < above.precedence) :
    ops.length ≤ 3 := by
  cases ops with
  | nil => exact Nat.zero_le 3
  | cons op ops =>
    have hle := length_add_precedence_le h
    have hone := op.one_le_precedence
    rw [List.length_cons]
    omega

/-- What is held back on each level of parentheses, the innermost first. -/
def State.levels (s : State) : List (List Pending) :=
  s.held :: s.groups.map Group.outer

theorem Takes.ranked {s s' : State} {position : Nat} {l : Lexeme} (h : Takes s position l s')
    (hs : ∀ held ∈ s.levels, Ranked held) : ∀ held ∈ s'.levels, Ranked held := by
  obtain ⟨hheld, houter⟩ := List.forall_mem_cons.mp hs
  cases h with
  | number => exact hs
  | function f => exact List.forall_mem_cons.mpr ⟨hheld.function f, houter⟩
  | opening => exact List.forall_mem_cons.mpr ⟨ranked_nil, hs⟩
  | closing hg =>
    rw [hg] at houter
    exact houter
  | operator op => exact List.forall_mem_cons.mpr ⟨hheld.operator op, houter⟩

theorem Reads.ranked {s s' : State} {offset : Nat} {ls : List Lexeme} (h : Reads s offset ls s')
    (hs : ∀ held ∈ s.levels, Ranked held) : ∀ held ∈ s'.levels, Ranked held := by
  induction ls generalizing s offset with
  | nil =>
    rw [reads_nil_iff.mp h]
    exact hs
  | cons l ls ih =>
    obtain ⟨m, htakes, hrest⟩ := reads_cons_iff.mp h
    exact ih hrest (htakes.ranked hs)

/-! ### Where parentheses are open -/

/-- At the byte offset `position` in `cs`, a parenthesis opens that stays open. -/
def OpenAt (cs : List Char) (position : Nat) : Prop :=
  ∃ before after, cs = before ++ '(' :: after ∧ StaysOpen after ∧ position = byteOffset before

/-- A parenthesis stays open in front of another one that does, unless it is closed before. -/
theorem staysOpen_append_iff {cs ds : List Char} (h : StaysOpen ds) :
    StaysOpen (cs ++ '(' :: ds) ↔ StaysOpen cs := by
  constructor
  · exact fun hall before hbefore => hall before (hbefore.trans (List.prefix_append _ _))
  · rintro hcs before ⟨after, hafter⟩
    rcases List.append_eq_append_iff.mp hafter with ⟨es, rfl, -⟩ | ⟨es, rfl, hes⟩
    · exact hcs before (List.prefix_append before es)
    · have hle := hcs cs List.prefix_rfl
      have hne : '(' ≠ ')' := by decide
      rcases List.prefix_cons_iff.mp ⟨after, hes.symm⟩ with rfl | ⟨fs, rfl, hfs⟩
      · simpa using hle
      · have hle' := h fs hfs
        simp only [List.count_append, List.count_cons_self, List.count_cons_of_ne hne]
        omega

theorem openAt_append_iff {before inner : List Char} (h : Balances 0 inner) (position : Nat) :
    OpenAt (before ++ '(' :: inner) position ↔
      position = byteOffset before ∨ OpenAt before position := by
  constructor
  · rintro ⟨front, back, heq, hback, rfl⟩
    rcases List.append_eq_append_iff.mp heq with ⟨ds, rfl, hds⟩ | ⟨ds, rfl, hds⟩
    · cases ds with
      | nil => simp
      | cons d ds =>
        obtain ⟨rfl, rfl⟩ := List.cons.inj hds
        exact absurd hback (h.noneOpen ds back rfl)
    · cases ds with
      | nil => simp
      | cons d ds =>
        obtain ⟨rfl, rfl⟩ := List.cons.inj hds
        exact .inr ⟨front, ds, rfl, (staysOpen_append_iff h.staysOpen).mp hback, rfl⟩
  · rintro (rfl | ⟨front, back, rfl, hback, rfl⟩)
    · exact ⟨before, inner, rfl, h.staysOpen, rfl⟩
    · exact ⟨front, back ++ '(' :: inner, by simp, (staysOpen_append_iff h.staysOpen).mpr hback,
        rfl⟩

/-- The parentheses that are open are just those that stay open in what has been read. -/
theorem Opens.mem_position_iff {before : List Char} {groups : List Group}
    (h : Opens before groups) (position : Nat) :
    position ∈ groups.map Group.position ↔ OpenAt before position := by
  induction h with
  | nil hbefore =>
    simp only [List.map_nil, List.not_mem_nil, false_iff]
    rintro ⟨front, back, heq, hback, -⟩
    exact hbefore.noneOpen front back heq hback
  | cons _ hinner ih => rw [List.map_cons, List.mem_cons, ih, openAt_append_iff hinner]

theorem byteOffset_lt (before : List Char) (c : Char) (after : List Char) :
    byteOffset before < byteOffset (before ++ c :: after) := by
  -- Whatever the characters are, they are those of a lexeme.
  have happend : byteOffset (before ++ c :: after) =
      byteOffset before + (number (c :: after)).size := byteOffset_append before (number _)
  have hpos := c.utf8Size_pos
  simp only [size, chars, List.map_cons, List.sum_cons] at happend
  omega

theorem Opens.pairwise_position {before : List Char} {groups : List Group}
    (h : Opens before groups) :
    (groups.map Group.position).Pairwise (· > ·) ∧
      ∀ position ∈ groups.map Group.position, position < byteOffset before := by
  induction h with
  | nil => simp
  | @cons before inner _ _ _ _ ih =>
    have hlt := byteOffset_lt before '(' inner
    refine ⟨List.pairwise_cons.mpr ⟨ih.2, ih.1⟩, List.forall_mem_cons.mpr ⟨hlt, ?_⟩⟩
    exact fun position hposition => Nat.lt_trans (ih.2 position hposition) hlt

theorem Reads.opens {s s' : State} {before : List Char} {ls rest : List Lexeme}
    {previous : Option Char} (h : Reads s (byteOffset before) ls s')
    (htidy : Tidy previous (ls ++ rest)) (hopens : Opens before s.groups) :
    Opens (before ++ ls.flatMap chars) s'.groups := by
  induction ls generalizing s before previous with
  | nil =>
    rw [reads_nil_iff.mp h]
    simpa using hopens
  | cons l ls ih =>
    obtain ⟨m, htakes, hrest⟩ := reads_cons_iff.mp h
    rw [← byteOffset_append] at hrest
    simpa using ih hrest htidy.2 (htakes.opens htidy.1 hopens)

/-! ### The stack -/

/-- What lies on the stack: an operator or function that is held back, or an open parenthesis. -/
inductive Stacked where
  | pending (p : Pending)
  | opening (position : Nat)
  deriving DecidableEq

namespace Stacked

/-- Whether it is a parenthesis. -/
def isOpening : Stacked → Bool
  | pending _ => false
  | opening _ => true

/-- Where the parenthesis is, if it is one. -/
def position? : Stacked → Option Nat
  | pending _ => none
  | opening position => some position

end Stacked

/-- The stack from the bottom up, with `held` above the innermost open parenthesis. -/
def stackOf (held : List Pending) : List Group → List Stacked
  | [] => held.reverse.map .pending
  | group :: groups =>
    stackOf group.outer groups ++ .opening group.position :: held.reverse.map .pending

/-- All that waits, from the bottom of the stack to its top. -/
def State.stack (s : State) : List Stacked :=
  stackOf s.held s.groups

/-- Operators each of which binds more tightly than the one below it, at most three of them, and
above them functions. -/
def Rises (segment : List Stacked) : Prop :=
  ∃ (ops : List Operator) (fs : List Func),
    segment = ops.map (fun op => .pending (.operator op)) ++
        fs.map (fun f => .pending (.function f)) ∧
      (ops.Pairwise fun below above => below.precedence < above.precedence) ∧ ops.length ≤ 3

theorem Ranked.rises {held : List Pending} (h : Ranked held) :
    Rises (held.reverse.map .pending) := by
  obtain ⟨fs, ops, rfl, hops⟩ := h
  have hrev := List.pairwise_reverse.mpr hops
  exact ⟨ops.reverse, fs.reverse, by simp [Function.comp_def], hrev,
    length_le_three_of_pairwise hrev⟩

/-- Between its parentheses, the stack holds what the levels hold. -/
theorem splitOnP_stackOf (held : List Pending) (groups : List Group) :
    (stackOf held groups).splitOnP Stacked.isOpening =
      ((held :: groups.map Group.outer).map fun held => held.reverse.map .pending).reverse := by
  have hpending : ∀ held : List Pending,
      (held.reverse.map Stacked.pending).splitOnP Stacked.isOpening =
        [held.reverse.map .pending] := by
    intro held
    apply List.splitOnP_eq_singleton
    intro entry hentry
    obtain ⟨p, -, rfl⟩ := List.mem_map.mp hentry
    rfl
  induction groups generalizing held with
  | nil => exact hpending held
  | cons group groups ih =>
    rw [stackOf, List.splitOnP_append_cons _ _ rfl, ih, hpending]
    simp

theorem filterMap_position?_stackOf (held : List Pending) (groups : List Group) :
    (stackOf held groups).filterMap Stacked.position? =
      (groups.map Group.position).reverse := by
  have hpending : ∀ held : List Pending,
      (held.reverse.map Stacked.pending).filterMap Stacked.position? = [] := by
    intro held
    simp [List.filterMap_map, Function.comp_def, Stacked.position?]
  induction groups generalizing held with
  | nil => exact hpending held
  | cons group groups ih =>
    rw [stackOf, List.filterMap_append, ih, List.filterMap_cons, hpending]
    simp [Stacked.position?]

/-! ### After every character -/

theorem ranked_of_progress {text : String} {count : Nat} {s : State}
    (h : (progress text count).outcome = .ok s) : ∀ held ∈ s.levels, Ranked held := by
  have hreads : Reads .start 0 (ended count (Lexeme.ofText text)) s := h
  apply hreads.ranked
  intro held hheld
  rw [List.mem_singleton.mp hheld]
  exact ranked_nil

theorem opens_of_progress {text : String} {count : Nat} {s : State}
    (h : (progress text count).outcome = .ok s) : Opens (text.toList.take count) s.groups := by
  have hreads : Reads .start (byteOffset []) (ended count (Lexeme.ofText text)) s := h
  have htidy : Tidy none (Lexeme.ofText text) := tidy_cut none text.toList
  obtain ⟨rest, begun, hls, htake, hbegun⟩ := htidy.exists_take_eq count
  rw [hls] at htidy
  have hstart : Opens [] State.start.groups := .nil (Balances.nil_iff.mpr rfl)
  have hended := hreads.opens htidy hstart
  rw [Lexeme.ofText, flatMap_chars_cut] at htake
  rw [htake]
  exact hended.append (Balances.of_ne_paren hbegun)

/-- After every character of a text, either the conversion has failed, or the stack is as follows.
Between its parentheses lie operators of rising ranks and above them functions; and from the bottom
up, its parentheses are those that stay open in the characters read. -/
theorem stack_progress (text : String) (count : Nat) :
    (∃ e, (progress text count).outcome = .error e ∧ (Rpn.ofText text).outcome = .error e) ∨
    ∃ s, (progress text count).outcome = .ok s ∧
      (∀ segment ∈ s.stack.splitOnP Stacked.isOpening, Rises segment) ∧
      (s.stack.filterMap Stacked.position?).Pairwise (· < ·) ∧
      ∀ position, position ∈ s.stack.filterMap Stacked.position? ↔
        OpenAt (text.toList.take count) position := by
  cases hout : (progress text count).outcome with
  | error e => exact .inl ⟨e, rfl, outcome_ofText_of_progress hout⟩
  | ok s =>
    have hranked := ranked_of_progress hout
    have hopens := opens_of_progress hout
    refine .inr ⟨s, rfl, ?_, ?_, ?_⟩
    · intro segment hsegment
      rw [State.stack, splitOnP_stackOf, List.mem_reverse] at hsegment
      obtain ⟨held, hheld, rfl⟩ := List.mem_map.mp hsegment
      exact (hranked held hheld).rises
    · rw [State.stack, filterMap_position?_stackOf]
      exact List.pairwise_reverse.mpr hopens.pairwise_position.1
    · intro position
      rw [State.stack, filterMap_position?_stackOf, List.mem_reverse]
      exact hopens.mem_position_iff position

-- No operator stands between the calls, so that their functions lie on each other.
example : (progress "2*sin(3)cos(4+5^6" 17).outcome.map State.stack =
    .ok [.pending (.operator .times), .pending (.function .sin), .pending (.function .cos),
      .opening 11, .pending (.operator .plus), .pending (.operator .power)] := by rfl

end Conversion

end Calculator
