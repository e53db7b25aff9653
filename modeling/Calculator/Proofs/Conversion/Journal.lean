import Calculator.Proofs.Conversion.Transition

/-!
# What a conversion reports

Every token is reported as it is written out, and nothing else is reported on the way: the
events are those of the tokens by which the output has grown (`Reads.events`). A conversion
that succeeds reports their number in the end. One that is given up may do so in the middle
of writing out what is held back; it reports the tokens written so far, and then at most one
record that tells the cause (`Stops`):

    events_ofText_of_ok   : … = .ok tokens → (Rpn.ofText text).events = …
    exists_stops_of_error : … = .error e → ∃ tokens causes, Stops text tokens causes e ∧ …
-/

namespace Calculator

/-- `e.Reported causes`: these are the debug records of an error `e` in a text. There is one, with
the place and the character of the error, or there is none. -/
inductive ParseError.Reported : ParseError → List String → Prop
  | unexpected (c : Char) (position : Nat) :
    Reported (.invalidCharacter c position)
      [s!"rpn: caractère inattendu {Text.quotedChar c} en position {position}"]
  | unopened (position : Nat) :
    Reported (.unbalancedParen position) [s!"rpn: ')' sans '(' en position {position}"]
  | unclosed (position : Nat) :
    Reported (.unbalancedParen position) [s!"rpn: '(' non fermée en position {position}"]
  | name (name : String) (position : Nat) : Reported (.unknownFunction name position) []
  | number (text : String) (position : Nat) : Reported (.invalidNumber text position) []

/-- The record of a token that is written out. -/
def Token.record (token : Token) : Level × String :=
  (.trace, s!"rpn: sortie {token.text}")

theorem Event.map_record_written (tokens : List Token) :
    (tokens.map written).map record = tokens.map Token.record := by
  rw [List.map_map]
  rfl

/-- The records of tokens, and debug records behind them. -/
def journalOf (tokens : List Token) (causes : List String) : List (Level × String) :=
  tokens.map Token.record ++ causes.map fun cause => (.debug, cause)

theorem journalOf_append (tokens tokens' : List Token) (causes : List String) :
    journalOf (tokens ++ tokens') causes = tokens.map Token.record ++ journalOf tokens' causes := by
  rw [journalOf, journalOf, List.map_append, List.append_assoc]

namespace Conversion

variable {text : String} {s s' : State} {position offset : Nat} {l : Lexeme} {ls : List Lexeme}
  {e : ParseError}

/-! ### Lexemes that are refused -/

/-- `Refuses s position l tokens causes e`: the state `s` does not take the lexeme `l` at a byte
offset, as `e` tells. Only `tokens` have been written out meanwhile, and `causes` are recorded. -/
inductive Refuses (s : State) (position : Nat) :
    Lexeme → List Token → List String → ParseError → Prop
  | number {cs : List Char} :
    Numeral.ofText? (String.ofList cs) = none →
      Refuses s position (.number cs) [] [] (.invalidNumber (String.ofList cs) position)
  | name {letters : List Char} {called : Bool} :
    (∀ f : Func, called = true → letters ≠ f.name.toList) →
      Refuses s position (.name letters called) [] []
        (.unknownFunction (String.ofList letters) position)
  | closing :
    s.groups = [] →
      Refuses s position (.symbol ')') (s.held.map Pending.token)
        [s!"rpn: ')' sans '(' en position {position}"] (.unbalancedParen position)
  | character {c : Char} :
    c ≠ '(' → c ≠ ')' → Operator.ofChar? c = none →
      Refuses s position (.symbol c) []
        [s!"rpn: caractère inattendu {Text.quotedChar c} en position {position}"]
        (.invalidCharacter c position)

theorem exists_refuses_of_number {cs : List Char}
    (h : (s.number position (String.ofList cs)).outcome = .error e) :
    ∃ tokens causes, Refuses s position (.number cs) tokens causes e ∧
      (s.number position (String.ofList cs)).journal = journalOf tokens causes := by
  unfold State.number at h ⊢
  split at h
  · cases h
  · next hnum =>
    cases h
    rw [if_neg hnum]
    exact ⟨[], [], .number (by simpa using hnum), rfl⟩

theorem exists_refuses_of_name {letters : List Char} {called : Bool}
    (h : (s.name position (String.ofList letters) called).outcome = .error e) :
    ∃ tokens causes, Refuses s position (.name letters called) tokens causes e ∧
      (s.name position (String.ofList letters) called).journal = journalOf tokens causes := by
  unfold State.name at h ⊢
  split at h
  · cases h
  · next hno =>
    cases h
    refine ⟨[], [], .name ?_, rfl⟩
    rintro f rfl rfl
    exact hno f rfl (by rw [String.ofList_toList, Func.ofName?_name])

theorem exists_refuses_of_symbol {c : Char}
    (h : (s.symbol position c).outcome = .error e) :
    ∃ tokens causes, Refuses s position (.symbol c) tokens causes e ∧
      (s.symbol position c).journal = journalOf tokens causes := by
  unfold State.symbol at h ⊢
  split at h
  · cases h
  · next hopening =>
    rw [if_neg hopening]
    split at h
    · next hclosing =>
      rw [if_pos hclosing]
      cases hg : s.groups with
      | nil =>
        rw [State.outcome_closeParen_of_nil hg] at h
        cases h
        subst hclosing
        refine ⟨_, _, .closing hg, ?_⟩
        rw [Logged.journal, State.events_closeParen_of_nil hg, List.map_append,
          Event.map_record_written]
        rfl
      | cons group groups => simp [State.outcome_closeParen_of_groups hg] at h
    · next hclosing =>
      rw [if_neg hclosing]
      split at h
      · simp [State.outcome_operator] at h
      · next hop =>
        cases h
        exact ⟨[], _, .character hopening hclosing hop, rfl⟩

/-- A lexeme that is not taken is refused in one of four ways. -/
theorem exists_refuses (h : (s.step (position, l)).outcome = .error e) :
    ∃ tokens causes, Refuses s position l tokens causes e ∧
      (s.step (position, l)).journal = journalOf tokens causes := by
  cases l with
  | number cs => exact exists_refuses_of_number h
  | name letters called => exact exists_refuses_of_name h
  | symbol c => exact exists_refuses_of_symbol h

theorem Refuses.reported {tokens : List Token} {causes : List String}
    (h : Refuses s position l tokens causes e) : e.Reported causes := by
  cases h with
  | number => exact .number _ _
  | name => exact .name _ _
  | closing => exact .unopened _
  | character => exact .unexpected _ _

/-! ### Lexemes that are taken -/

/-- A lexeme that is taken reports the tokens by which the output grows. -/
theorem Takes.events (h : Takes s position l s') :
    s'.output.toList.map .written =
      s.output.toList.map .written ++ (s.step (position, l)).events := by
  cases h with
  | number hnum => simp [State.step, State.number, hnum]
  | function f => simp [State.step, State.name, State.hold]
  | opening => simp [State.step, State.symbol, State.openParen]
  | closing hg =>
    have hevents := State.events_closeParen_of_groups hg position
    simp [State.step, State.symbol, hevents]
  | operator op =>
    have hstep : s.step (position, .symbol op.symbol) = s.operator op := by cases op <;> rfl
    simp [hstep, State.events_operator]

theorem Takes.journal (h : Takes s position l s') :
    s'.output.toList.map Token.record =
      s.output.toList.map Token.record ++ (s.step (position, l)).journal := by
  have hrecords := congrArg (List.map Event.record) h.events
  rwa [List.map_append, Event.map_record_written, Event.map_record_written] at hrecords

theorem events_run_cons_of_ok (h : (s.step (offset, l)).outcome = .ok s') :
    (s.run (Lexeme.place offset (l :: ls))).events =
      (s.step (offset, l)).events ++ (s'.run (Lexeme.place (offset + l.size) ls)).events := by
  simp only [State.run, Lexeme.place, List.foldlM_cons]
  exact Logged.events_bind_ok h _

theorem events_run_cons_of_error (h : (s.step (offset, l)).outcome = .error e) :
    (s.run (Lexeme.place offset (l :: ls))).events = (s.step (offset, l)).events := by
  simp only [State.run, Lexeme.place, List.foldlM_cons]
  exact Logged.events_bind_error h _

theorem Reads.events (h : Reads s offset ls s') :
    s'.output.toList.map .written =
      s.output.toList.map .written ++ (s.run (Lexeme.place offset ls)).events := by
  induction ls generalizing s offset with
  | nil => simp [reads_nil_iff.mp h, Lexeme.place, State.run]
  | cons l ls ih =>
    obtain ⟨m, htakes, hreads⟩ := reads_cons_iff.mp h
    rw [events_run_cons_of_ok (outcome_step_iff.mpr htakes), ← List.append_assoc, ← htakes.events]
    exact ih hreads

/-- Lexemes that are not all taken are read up to one that is refused. -/
theorem exists_refuses_of_run (h : (s.run (Lexeme.place offset ls)).outcome = .error e) :
    ∃ before l after m tokens causes, ls = before ++ l :: after ∧ Reads s offset before m ∧
      Refuses m (offset + (before.map Lexeme.size).sum) l tokens causes e ∧
        s.output.toList.map Token.record ++ (s.run (Lexeme.place offset ls)).journal =
          journalOf (m.output.toList ++ tokens) causes := by
  induction ls generalizing s offset with
  | nil => simp [Lexeme.place, State.run] at h
  | cons l ls ih =>
    rw [outcome_run_cons] at h
    cases hstep : (s.step (offset, l)).outcome with
    | error e' =>
      obtain rfl : e' = e := by simpa [hstep, Except.bind] using h
      obtain ⟨tokens, causes, hrefuses, hjournal⟩ := exists_refuses hstep
      refine ⟨[], l, ls, s, tokens, causes, rfl, reads_nil_iff.mpr rfl, hrefuses, ?_⟩
      rw [Logged.journal, events_run_cons_of_error hstep, ← Logged.journal, hjournal,
        journalOf_append]
    | ok m =>
      rw [hstep] at h
      obtain ⟨before, l', after, m', tokens, causes, rfl, hreads, hrefuses, hjournal⟩ := ih h
      have htakes := outcome_step_iff.mp hstep
      have hfirst := htakes.journal
      refine ⟨l :: before, l', after, m', tokens, causes, rfl,
        reads_cons_iff.mpr ⟨m, htakes, hreads⟩, ?_, ?_⟩
      · rwa [List.map_cons, List.sum_cons, ← Nat.add_assoc]
      · rw [Logged.journal, events_run_cons_of_ok hstep, List.map_append, ← List.append_assoc,
          ← hjournal, hfirst]
        rfl

/-! ### The whole text -/

/-- `Stops text tokens causes e`: the conversion of `text` is given up with `e`. All that has been
written out by then are `tokens`, and `causes` are recorded behind them. -/
inductive Stops (text : String) : List Token → List String → ParseError → Prop
  /-- At a lexeme that is refused. -/
  | refused {before after : List Lexeme} {l : Lexeme} {s : State} {tokens : List Token}
    {causes : List String} {e : ParseError} :
    Lexeme.ofText text = before ++ l :: after → Reads .start 0 before s →
      Refuses s (before.map Lexeme.size).sum l tokens causes e →
        Stops text (s.output.toList ++ tokens) causes e
  /-- At the end, where a parenthesis is still open. -/
  | unclosed {s : State} {group : Group} {groups : List Group} :
    Reads .start 0 (Lexeme.ofText text) s → s.groups = group :: groups →
      Stops text s.result [s!"rpn: '(' non fermée en position {group.position}"]
        (.unbalancedParen group.position)

theorem Stops.reported {tokens : List Token} {causes : List String}
    (h : Stops text tokens causes e) : e.Reported causes := by
  cases h with
  | refused _ _ hrefuses => exact hrefuses.reported
  | unclosed => exact .unclosed _

theorem events_ofText {s : State} (h : Reads .start 0 (Lexeme.ofText text) s) :
    (Rpn.ofText text).events = s.output.toList.map .written ++ (s.finish text).events := by
  rw [Rpn.ofText, Logged.events_bind_ok h, h.events]
  rfl

/-- A conversion that succeeds reports its tokens and how many they are. -/
theorem events_ofText_of_ok {tokens : Rpn} (h : (Rpn.ofText text).outcome = .ok tokens) :
    (Rpn.ofText text).events = tokens.map .written ++ [.converted text tokens.length] := by
  obtain ⟨s, hreads, hgroups, rfl⟩ := outcome_ofText_iff.mp h
  rw [events_ofText hreads, State.events_finish_of_nil hgroups]
  simp [State.result]

/-- One that fails reports the tokens that have been written out, and then what it stops at. -/
theorem exists_stops_of_error (h : (Rpn.ofText text).outcome = .error e) :
    ∃ tokens causes, Stops text tokens causes e ∧
      (Rpn.ofText text).journal = journalOf tokens causes := by
  rw [Rpn.ofText, Logged.outcome_bind] at h
  cases hrun : (State.start.run (Lexeme.place 0 (Lexeme.ofText text))).outcome with
  | error e' =>
    obtain ⟨before, l, after, m, tokens, causes, hls, hreads, hrefuses, hjournal⟩ :=
      exists_refuses_of_run hrun
    obtain rfl : e' = e := by simpa [hrun, Except.bind] using h
    rw [Nat.zero_add] at hrefuses
    refine ⟨_, causes, .refused hls hreads hrefuses, ?_⟩
    rw [Logged.journal, Rpn.ofText, Logged.events_bind_error hrun, ← hjournal]
    rfl
  | ok s =>
    have hfinish : (s.finish text).outcome = .error e := by simpa [hrun, Except.bind] using h
    cases hg : s.groups with
    | nil => simp [State.outcome_finish_of_nil hg] at hfinish
    | cons group groups =>
      rw [State.outcome_finish_of_groups hg] at hfinish
      cases hfinish
      refine ⟨s.result, _, .unclosed hrun hg, ?_⟩
      rw [Logged.journal, events_ofText hrun, State.events_finish_of_groups hg,
        ← List.append_assoc, ← List.map_append, List.map_append, Event.map_record_written]
      rfl

-- What is held back is written out before it shows that no parenthesis is open.
example : (Rpn.ofText "1+2)").events =
    [.written (.number "1"), .written (.number "2"), .written (.operator .plus),
      .unopened 3] := by rfl

end Conversion

end Calculator
