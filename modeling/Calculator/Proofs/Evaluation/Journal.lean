import Calculator.Proofs.Conversion.Journal
import Calculator.Proofs.Decimal.Shortest
import Calculator.Proofs.Evaluation.Failure
import Calculator.Proofs.Text.Quoted

/-!
# The journal of a text

The evaluation of tokens reports its failure and nothing else (`ReportsFailure`). So the
journal of a text that is converted has a trace for every token, in order, and then two
debug records, the number of tokens and what came of them (`Concludes`). The journal of a
text that is not converted is that of the conversion:

    journal_solve_of_ok    : (Rpn.ofText text).outcome = .ok tokens → ∃ last, …
    journal_solve_of_error : (Rpn.ofText text).outcome = .error e → ∃ tokens causes, …

The texts and values that are written there can be told from what is written
(`Text.unquote?_quoted`, `Decimal.exists_readNumber?_full`).
-/

namespace Calculator

/-! ### Failures -/

/-- What is reported of an error in a postfix expression. -/
def EvalError.events : EvalError → List Event
  | stackUnderflow token index => [.emptyStack token index]
  | malformedExpression count => [.remaining count]
  | invalidNumber _ _ => []

namespace Logged

variable {α β : Type} {x : Logged EvalError α} {f : α → Logged EvalError β}

/-- Nothing is reported but a failure. -/
def ReportsFailure (x : Logged EvalError α) : Prop :=
  x.events = match x.outcome with
    | .ok _ => []
    | .error e => e.events

theorem ReportsFailure.events_of_ok {a : α} (h : x.ReportsFailure) (hx : x.outcome = .ok a) :
    x.events = [] := by
  rw [h, hx]

theorem ReportsFailure.events_of_error {e : EvalError} (h : x.ReportsFailure)
    (hx : x.outcome = .error e) : x.events = e.events := by
  rw [h, hx]

theorem ReportsFailure.bind (hx : x.ReportsFailure) (hf : ∀ a, (f a).ReportsFailure) :
    (x >>= f).ReportsFailure := by
  unfold ReportsFailure
  rw [outcome_bind]
  cases h : x.outcome with
  | ok a =>
    rw [events_bind_ok h, hx.events_of_ok h, List.nil_append]
    exact hf a
  | error e =>
    rw [events_bind_error h, hx.events_of_error h]
    rfl

end Logged

namespace Rpn

theorem reportsFailure_step (stack : List Float) (token : Token) (index : Nat) :
    (step stack token index).ReportsFailure := by
  unfold step
  split
  · split <;> rfl
  · rfl
  · rfl
  · rfl

theorem reportsFailure_run (stack : List Float) (index : Nat) (tokens : Rpn) :
    (run stack index tokens).ReportsFailure := by
  induction tokens generalizing stack index with
  | nil => rfl
  | cons token tokens ih =>
    exact (reportsFailure_step stack token index).bind fun stack' => ih stack' (index + 1)

theorem reportsFailure_evaluate (tokens : Rpn) : (evaluate tokens).ReportsFailure := by
  refine (reportsFailure_run [] 0 tokens).bind fun stack => ?_
  split <;> rfl

end Rpn

/-! ### Texts -/

/-- `Concludes text outcome last`: the last debug record tells what came of the tokens of `text`. -/
inductive Concludes (text : String) : Except CalcError Float → String → Prop
  | solved (value : Float) :
    Concludes text (.ok value) s!"solve: {Text.quoted text} = {Decimal.full value}"
  | emptyStack (token : Token) (index : Nat) :
    Concludes text (.error (.eval (.stackUnderflow token index)))
      s!"eval: pile vide pour {token.text} (jeton {index})"
  | remaining (count : Nat) :
    Concludes text (.error (.eval (.malformedExpression count)))
      s!"eval: {count} valeur(s) restante(s)"

variable {text : String}

theorem events_solve_of_error {e : ParseError} (h : (Rpn.ofText text).outcome = .error e) :
    (solve text).events = (Rpn.ofText text).events :=
  Logged.events_mapError_bind_error h _ _

/-- The tokens are evaluated behind the conversion; a value is reported in the end. -/
theorem events_solve {tokens : Rpn} (h : (Rpn.ofText text).outcome = .ok tokens) :
    (solve text).events = (Rpn.ofText text).events ++ ((Rpn.evaluate tokens).events ++
      match (Rpn.evaluate tokens).outcome with
        | .ok value => [.solved text value]
        | .error _ => []) := by
  rw [solve, Logged.events_mapError_bind_ok h]
  congr 1
  cases hvalue : (Rpn.evaluate tokens).outcome with
  | ok value =>
    rw [Logged.events_mapError_bind_ok hvalue]
    rfl
  | error e => rw [Logged.events_mapError_bind_error hvalue, List.append_nil]

/-- One event behind those of the conversion tells what came of the tokens. -/
theorem exists_concludes {tokens : Rpn} (h : (Rpn.ofText text).outcome = .ok tokens) :
    ∃ event : Event, (solve text).events = (Rpn.ofText text).events ++ [event] ∧
      event.level = .debug ∧ Concludes text (solve text).outcome event.message := by
  have hevents := events_solve h
  have hreports := Rpn.reportsFailure_evaluate tokens
  rw [outcome_solve_of_ok h]
  cases hvalue : (Rpn.evaluate tokens).outcome with
  | ok value =>
    rw [hvalue, hreports.events_of_ok hvalue] at hevents
    exact ⟨.solved text value, hevents, rfl, .solved value⟩
  | error e =>
    rw [hvalue, hreports.events_of_error hvalue, List.append_nil] at hevents
    cases e with
    | stackUnderflow token index =>
      exact ⟨.emptyStack token index, hevents, rfl, .emptyStack token index⟩
    | malformedExpression count =>
      exact ⟨.remaining count, hevents, rfl, .remaining count⟩
    | invalidNumber number index => exact absurd hvalue (Rpn.outcome_evaluate_ne_invalidNumber h)

theorem journal_solve_of_ok {tokens : Rpn} (h : (Rpn.ofText text).outcome = .ok tokens) :
    ∃ last, Concludes text (solve text).outcome last ∧
      (solve text).journal =
        journalOf tokens [s!"rpn: {Text.quoted text} -> {tokens.length} jeton(s)", last] := by
  obtain ⟨event, hevents, hlevel, hconcludes⟩ := exists_concludes h
  refine ⟨event.message, hconcludes, ?_⟩
  rw [Logged.journal, hevents, Conversion.events_ofText_of_ok h, List.append_assoc,
    List.map_append, Event.map_record_written]
  have hrecord : event.record = (.debug, event.message) := by
    rw [Event.record, hlevel]
  simp only [journalOf, List.cons_append, List.nil_append, List.map_cons, List.map_nil, hrecord]
  rfl

theorem journal_solve_of_error {e : ParseError} (h : (Rpn.ofText text).outcome = .error e) :
    ∃ tokens causes, Conversion.Stops text tokens causes e ∧
      (solve text).journal = journalOf tokens causes := by
  rw [Logged.journal, events_solve_of_error h]
  exact Conversion.exists_stops_of_error h

/-- The journal follows the computation, record by record: a trace for each token that has been
written out, in order, and then the debug records. If the text is converted, these are the number of
its tokens and what came of them; if not, there is one that tells the place and the character at
fault, or there is none. The text, the character and the value can be read back from their records. -/
theorem journal_solve (text : String) :
    (∀ tokens, (Rpn.ofText text).outcome = .ok tokens →
      ∃ last, Concludes text (solve text).outcome last ∧
        (solve text).journal =
          tokens.map (fun token => (.trace, s!"rpn: sortie {token.text}")) ++
            [(.debug, s!"rpn: {Text.quoted text} -> {tokens.length} jeton(s)"),
              (.debug, last)]) ∧
    (∀ e, (Rpn.ofText text).outcome = .error e →
      (solve text).outcome = .error (.parse e) ∧
        ∃ tokens causes, Conversion.Stops text tokens causes e ∧ e.Reported causes ∧
          (solve text).journal =
            tokens.map (fun token => (.trace, s!"rpn: sortie {token.text}")) ++
              causes.map fun cause => (.debug, cause)) ∧
    Text.unquote? (Text.quoted text) = some text ∧
    (∀ c position, (Rpn.ofText text).outcome = .error (.invalidCharacter c position) →
      Text.unquoteChar? (Text.quotedChar c) = some c) ∧
    ∀ value, (solve text).outcome = .ok value →
      ∃ y, readNumber? (Decimal.full value) = some y ∧ Binary64.value y = Binary64.value value := by
  refine ⟨fun tokens h => journal_solve_of_ok h, fun e h => ?_, Text.unquote?_quoted text,
    fun c _ _ => Text.unquoteChar?_quotedChar c, fun value _ => Decimal.exists_readNumber?_full value⟩
  obtain ⟨tokens, causes, hstops, hjournal⟩ := journal_solve_of_error h
  exact ⟨outcome_solve_of_error h, tokens, causes, hstops, hstops.reported, hjournal⟩

-- A token without operands is the last thing that is recorded.
example : (solve "2+").journal =
    [(.trace, "rpn: sortie 2"), (.trace, "rpn: sortie +"),
      (.debug, "rpn: \"2+\" -> 2 jeton(s)"),
      (.debug, "eval: pile vide pour + (jeton 1)")] := by decide +kernel

end Calculator
