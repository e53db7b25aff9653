import Calculator.Proofs.Shell.Window

/-!
# Return and the focus of the entry field

A state only knows whether the entry field asks for the focus; whether the field has it is for the
toolkit to know. Return evaluates if the field has the focus, but by then the field has handled the
key, and has given up the focus over it. What is left is a focus that is asked for in the same
frame. A field that got the focus in an earlier frame has it for nothing: return evaluates if and
only if no frame was drawn since the focus was asked for.

    run_enter_of_focus : s.focus → s.run (List.replicate n .frame ++ [.enter]) =
      if n = 0 then s.run [.press .equals] else s.paint
-/

namespace Calculator.Shell

namespace Window

variable {Memory : Type} {t : Toolkit Memory} {w : Window Memory}

/-! ### Who keeps the focus -/

/-- An entry field that has the focus keeps it over an idle frame; one that asks for it gets it. -/
theorem hasFocus_entryFrame_idle (ht : t.Lawful)
    (h : w.state.focus = true ∨ t.hasFocus w.memory = true) :
    t.hasFocus (w.entryFrame t .idle).memory = true := by
  rw [entryFrame, answerReturn, if_neg (by simp), drawEntry]
  by_cases hasks : w.state.focus = true
  · rw [if_pos hasks]
    exact ht.hasFocus_requestFocus _
  · rw [if_neg hasks]
    exact ht.hasFocus_drawEntry_idle (h.resolve_left hasks)

theorem hasFocus_entryFrames_idle (ht : t.Lawful)
    (h : w.state.focus = true ∨ t.hasFocus w.memory = true) (n : Nat) :
    t.hasFocus (w.entryFrames t (List.replicate (n + 1) .idle)).memory = true := by
  induction n generalizing w with
  | zero => exact hasFocus_entryFrame_idle ht h
  | succ n ih => exact ih (.inr (hasFocus_entryFrame_idle ht h))

theorem memory_answerNumber (w : Window Memory) (input : Input) :
    (w.answerNumber t input).memory = w.memory := by
  rw [answerNumber]
  split <;> rfl

theorem hasFocus_step_frame (ht : t.Lawful)
    (h : w.state.focus = true ∨ t.hasFocus w.memory = true) :
    t.hasFocus (w.step t .frame).memory = true := by
  show t.hasFocus (t.drawRest .idle ((w.entryFrame t .idle).answerNumber t .idle).memory) = true
  rw [memory_answerNumber]
  exact ht.hasFocus_drawRest_idle (hasFocus_entryFrame_idle ht h)

theorem hasFocus_run_frame (ht : t.Lawful)
    (h : w.state.focus = true ∨ t.hasFocus w.memory = true) (n : Nat) :
    t.hasFocus (w.run t (List.replicate (n + 1) .frame)).memory = true := by
  induction n generalizing w with
  | zero => exact hasFocus_step_frame ht h
  | succ n ih => exact ih (.inr (hasFocus_step_frame ht h))

/-! ### What return does -/

theorem state_entryFrames_idle (t : Toolkit Memory) (w : Window Memory) (n : Nat) :
    (w.entryFrames t (List.replicate n .idle)).state = w.state.run (List.replicate n .frame) := by
  induction n generalizing w with
  | zero => rfl
  | succ n ih =>
    have hframe : (w.entryFrame t .idle).state = w.state.step .frame :=
      state_entryFrame_of_ne (by simp) w
    rw [List.replicate_succ, List.replicate_succ, State.run_cons, ← hframe]
    exact ih _

theorem state_entryFrames_enter (ht : t.Lawful) (w : Window Memory) (n : Nat) :
    (w.entryFrames t (List.replicate n .idle ++ [.enter])).state =
      w.state.run (List.replicate n .frame ++ [.enter]) := by
  rw [entryFrames, List.foldl_append, State.run_append, ← state_entryFrames_idle t]
  exact state_entryFrame_enter ht _

end Window

namespace State

/-! ### Return after idle frames -/

theorem run_idle (s : State) (n : Nat) : s.run (List.replicate (n + 1) .frame) = s.paint := by
  induction n with
  | zero => rfl
  | succ n ih =>
    -- The later frames find a state that has been painted already.
    rw [List.replicate_succ', run_append, ih]
    rfl

/-- After a frame, return finds no focus that is asked for. -/
theorem run_idle_enter (s : State) (n : Nat) :
    s.run (List.replicate (n + 1) .frame ++ [.enter]) = s.paint := by
  rw [run_append, run_idle]
  rfl

/-- Where the focus is asked for, return does what equals does. -/
theorem step_enter_of_focus {s : State} (h : s.focus = true) :
    s.step .enter = s.step (.press .equals) :=
  if_pos h

/-- An entry field that asks for the focus gets it with the next frame, but after any number of
frames return evaluates only if that number is zero. Else what it leaves is what equals would
leave, up to the focus, only if equals would change nothing. Whole frames do to the state what
their part of the entry field does. -/
theorem run_enter_of_focus {Memory : Type} {t : Toolkit Memory} (ht : t.Lawful) {s : State}
    (hfocus : s.focus = true) (n : Nat) (memory : Memory) :
    let w : Window Memory := ⟨s, memory⟩
    let entered := s.run (List.replicate n .frame ++ [.enter])
    let solved := s.run [.press .equals]
    (0 < n → t.hasFocus (w.entryFrames t (List.replicate n .idle)).memory = true) ∧
      (w.entryFrames t (List.replicate n .idle ++ [.enter])).state = entered ∧
      entered = (if n = 0 then solved else s.paint) ∧
      (entered.paint = solved.paint ↔ n = 0 ∨ solved.paint = s.paint) ∧
      (0 < n → t.hasFocus (w.run t (List.replicate n .frame)).memory = true) ∧
      (s.digits ≤ maxDigits →
        (w.run t (List.replicate n .frame ++ [.enter])).state = entered ∧
          (w.run t [.press .equals]).state = solved) := by
  intro w entered solved
  have hentry := Window.state_entryFrames_enter ht w n
  have hwhole : s.digits ≤ maxDigits →
      (w.run t (List.replicate n .frame ++ [.enter])).state = entered ∧
        (w.run t [.press .equals]).state = solved := fun hdigits =>
    ⟨Window.state_run ht hdigits _, Window.state_run ht hdigits _⟩
  cases n with
  | zero =>
    have hentered : entered = solved := by
      show s.run [.enter] = s.run [.press .equals]
      rw [run_cons, step_enter_of_focus hfocus, run_cons]
    exact ⟨fun hpos => absurd hpos (Nat.lt_irrefl 0), hentry, hentered.trans (if_pos rfl).symm,
      iff_of_true (congrArg paint hentered) (.inl rfl),
      fun hpos => absurd hpos (Nat.lt_irrefl 0), hwhole⟩
  | succ n =>
    have hentered : entered = s.paint := run_idle_enter s n
    refine ⟨fun _ => Window.hasFocus_entryFrames_idle ht (.inl hfocus) n, hentry,
      hentered.trans (if_neg n.succ_ne_zero).symm, ?_,
      fun _ => Window.hasFocus_run_frame ht (.inl hfocus) n, hwhole⟩
    rw [hentered, or_iff_right n.succ_ne_zero]
    exact eq_comm

/-- With one frame in between, return leaves `2+3` unsolved. -/
theorem run_enter_of_focus_after_frame :
    let s := start.type "2+3"
    let w : Window Bool := ⟨s, false⟩
    s.focus = true ∧ s.digits ≤ maxDigits ∧
      Toolkit.plain.hasFocus (w.run .plain [.frame]).memory = true ∧
      (w.run .plain [.frame, .enter]).state = s.run [.frame, .enter] ∧
      (s.run [.frame, .enter]).result = "" ∧ (s.run [.press .equals]).result = "5" := by
  intro s w
  have hfocus : s.focus = true := rfl
  have hdigits : s.digits ≤ maxDigits := by decide
  have hsolved : (s.run [.press .equals]).result = "5" := by decide +kernel
  obtain ⟨-, -, hentered, -, hfocused, hwhole⟩ :=
    run_enter_of_focus Toolkit.lawful_plain hfocus 1 false
  rw [if_neg Nat.one_ne_zero, List.replicate_one, List.singleton_append] at hentered
  rw [List.replicate_one] at hfocused
  refine ⟨hfocus, hdigits, hfocused Nat.one_pos, (hwhole hdigits).1, ?_, hsolved⟩
  rw [hentered]
  rfl

/-- Return does not do what equals does in every state that asks for the focus. -/
theorem not_forall_run_enter_eq_equals :
    ¬ ∀ (s : State) (n : Nat), s.focus = true →
      (s.run (List.replicate n .frame ++ [.enter])).paint = (s.run [.press .equals]).paint := by
  intro h
  have hsame := h (start.type "2+3") (0 + 1) rfl
  have hsolved : ((start.type "2+3").run [.press .equals]).paint.result = "5" := by decide +kernel
  rw [run_idle_enter] at hsame
  have hresult : "" = "5" := (congrArg State.result hsame).trans hsolved
  exact absurd hresult (by decide)

end State

end Calculator.Shell
