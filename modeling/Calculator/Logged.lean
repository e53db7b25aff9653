import Calculator.Event

/-!
# Computations with a journal

A logged computation reports events and then either succeeds or fails. The events
reported before a failure stay in the journal. Running one computation after
another appends their events:

    events_bind_ok    : x.outcome = .ok a → (x >>= f).events = x.events ++ (f a).events
    events_bind_error : x.outcome = .error e → (x >>= f).events = x.events
-/

namespace Calculator

/-- The events of a computation, first to last, and what came of it. -/
@[ext]
structure Logged (ε α : Type) where
  events : List Event
  outcome : Except ε α

namespace Logged

/-- The journal of a computation, first record to last. -/
def journal {ε α : Type} (x : Logged ε α) : List (Level × String) :=
  x.events.map Event.record

/-- Succeeds without any event. -/
def succeed {ε α : Type} (a : α) : Logged ε α :=
  ⟨[], .ok a⟩

/-- Fails without any event. -/
def fail {ε α : Type} (e : ε) : Logged ε α :=
  ⟨[], .error e⟩

/-- Reports one event. -/
def report {ε : Type} (event : Event) : Logged ε Unit :=
  ⟨[event], .ok ()⟩

/-- Goes on with the result of `x`, unless `x` fails. -/
def andThen {ε α β : Type} (x : Logged ε α) (f : α → Logged ε β) : Logged ε β :=
  match x.outcome with
  | .ok a =>
    let y := f a
    ⟨x.events ++ y.events, y.outcome⟩
  | .error e => ⟨x.events, .error e⟩

instance (ε : Type) : Monad (Logged ε) where
  pure := succeed
  bind := andThen

/-- The same computation with its errors renamed. -/
def mapError {ε ε' α : Type} (f : ε → ε') (x : Logged ε α) : Logged ε' α :=
  ⟨x.events, x.outcome.mapError f⟩

/-! ### What a sequence reports and returns -/

section
variable {ε α β γ : Type}

@[simp] theorem events_pure (a : α) : (pure a : Logged ε α).events = [] := rfl

@[simp] theorem outcome_pure (a : α) : (pure a : Logged ε α).outcome = .ok a := rfl

@[simp] theorem events_fail (e : ε) : (fail e : Logged ε α).events = [] := rfl

@[simp] theorem outcome_fail (e : ε) : (fail e : Logged ε α).outcome = .error e := rfl

@[simp] theorem events_report (event : Event) :
    (report event : Logged ε Unit).events = [event] := rfl

@[simp] theorem outcome_report (event : Event) :
    (report event : Logged ε Unit).outcome = .ok () := rfl

@[simp] theorem outcome_bind (x : Logged ε α) (f : α → Logged ε β) :
    (x >>= f).outcome = x.outcome.bind fun a => (f a).outcome := by
  change (andThen x f).outcome = _
  unfold andThen
  cases x.outcome <;> rfl

theorem events_bind_ok {x : Logged ε α} {a : α} (h : x.outcome = .ok a) (f : α → Logged ε β) :
    (x >>= f).events = x.events ++ (f a).events := by
  change (andThen x f).events = _
  simp [andThen, h]

theorem events_bind_error {x : Logged ε α} {e : ε} (h : x.outcome = .error e)
    (f : α → Logged ε β) : (x >>= f).events = x.events := by
  change (andThen x f).events = _
  simp [andThen, h]

@[simp] theorem events_report_bind (event : Event) (f : Unit → Logged ε β) :
    (report event >>= f).events = event :: (f ()).events := rfl

theorem map_eq (f : α → β) (x : Logged ε α) : f <$> x = ⟨x.events, x.outcome.map f⟩ := by
  obtain ⟨events, outcome⟩ := x
  cases outcome with
  | error e => rfl
  | ok a =>
    change (⟨events ++ [], .ok (f a)⟩ : Logged ε β) = _
    rw [List.append_nil]
    rfl

@[simp] theorem events_map (f : α → β) (x : Logged ε α) : (f <$> x).events = x.events := by
  rw [map_eq]

@[simp] theorem outcome_map (f : α → β) (x : Logged ε α) :
    (f <$> x).outcome = x.outcome.map f := by
  rw [map_eq]

theorem andThen_assoc (x : Logged ε α) (f : α → Logged ε β) (g : β → Logged ε γ) :
    (x.andThen f).andThen g = x.andThen fun a => (f a).andThen g := by
  obtain ⟨events, outcome⟩ := x
  cases outcome with
  | error e => rfl
  | ok a =>
    simp only [andThen]
    cases (f a).outcome with
    | error e => rfl
    | ok b => simp only [List.append_assoc]

instance : LawfulMonad (Logged ε) := by
  refine LawfulMonad.mk' (Logged ε) ?_ (fun a f => rfl) andThen_assoc
  rintro α ⟨events, outcome⟩
  rw [map_eq]
  cases outcome <;> rfl

@[simp] theorem events_mapError {ε' : Type} (f : ε → ε') (x : Logged ε α) :
    (x.mapError f).events = x.events := rfl

@[simp] theorem outcome_mapError {ε' : Type} (f : ε → ε') (x : Logged ε α) :
    (x.mapError f).outcome = x.outcome.mapError f := rfl

theorem events_mapError_bind_ok {ε' : Type} {x : Logged ε α} {a : α} (h : x.outcome = .ok a)
    (f : ε → ε') (g : α → Logged ε' β) :
    (x.mapError f >>= g).events = x.events ++ (g a).events := by
  have hmap : (x.mapError f).outcome = .ok a := by
    rw [outcome_mapError, h]
    rfl
  rw [events_bind_ok hmap, events_mapError]

theorem events_mapError_bind_error {ε' : Type} {x : Logged ε α} {e : ε} (h : x.outcome = .error e)
    (f : ε → ε') (g : α → Logged ε' β) : (x.mapError f >>= g).events = x.events := by
  have hmap : (x.mapError f).outcome = .error (f e) := by
    rw [outcome_mapError, h]
    rfl
  rw [events_bind_error hmap, events_mapError]

end

end Logged

end Calculator
