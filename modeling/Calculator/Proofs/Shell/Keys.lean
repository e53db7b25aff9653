import Calculator.Proofs.Shell.Deletion
import Calculator.Proofs.Shell.Transition

/-!
# The entry as a stack of keys

Used through its buttons only, the calculator has in its entry what the keys inserted that
have not been deleted or cleared since (`Step.keysLeft`):

    (start.run steps).entry = Key.spell (steps.foldl Step.keysLeft [])

The entry is a plain text in which the bounds of the keys are not marked. That deleting
finds the last of them rests on what keys can spell: there are letters only in the names of
functions, each with its parenthesis, so that no other parenthesis follows a name.
-/

namespace Calculator.Shell

namespace Key

/-- What keys insert one after the other. -/
def spell (keys : List Key) : String :=
  String.join (keys.map insertion)

theorem spell_append_singleton (keys : List Key) (key : Key) :
    spell (keys ++ [key]) = spell keys ++ key.insertion := by
  simp [spell]

/-! ### No name of a function stands at the end -/

/-- What a key inserts does not end with a letter. -/
theorem exists_getLast?_insertion (key : Key) :
    ∃ c, key.insertion.toList.getLast? = some c ∧ isNameChar c = false := by
  rcases key.insertion_cases with ⟨f, rfl⟩ | ⟨c, hc, -, hname, -⟩
  · exact ⟨'(', by simp [insertion, Entry.opening], by decide⟩
  · exact ⟨c, by simp [hc], hname⟩

theorem getLast?_spell {keys : List Key} {c : Char} (h : (spell keys).toList.getLast? = some c) :
    isNameChar c = false := by
  rcases List.eq_nil_or_concat keys with rfl | ⟨keys, key, rfl⟩
  · simp [spell] at h
  · obtain ⟨d, hd, hname⟩ := key.exists_getLast?_insertion
    rw [List.concat_eq_append, spell_append_singleton, String.toList_append, List.getLast?_append,
      hd] at h
    cases h
    exact hname

theorem not_name_suffix_spell (keys : List Key) (f : Func) :
    ¬f.name.toList <:+ (spell keys).toList := by
  rintro ⟨before, hspell⟩
  have hne := Lexeme.toList_name_ne_nil f
  have hlast := List.getLast?_eq_some_getLast hne
  have hletter := Lexeme.isNameChar_of_mem_name (List.getLast_mem hne)
  have hend : (spell keys).toList.getLast? = some (f.name.toList.getLast hne) := by
    rw [← hspell, List.getLast?_append, hlast, Option.some_or]
  rw [getLast?_spell hend] at hletter
  cases hletter

/-- Deleting takes the last key away, as far as there is one. -/
theorem delete_spell (keys : List Key) : Entry.delete (spell keys) = spell keys.dropLast := by
  rcases List.eq_nil_or_concat keys with rfl | ⟨keys, key, rfl⟩
  · decide
  · rw [List.concat_eq_append, spell_append_singleton, List.dropLast_concat]
    exact Entry.delete_append_insertion fun _ => not_name_suffix_spell keys

end Key

/-- What a step leaves of the keys that have been pressed, the last pressed at the end. -/
def Step.keysLeft (keys : List Key) : Step → List Key
  | .press (.insert key) => keys ++ [key]
  | .press .delete => keys.dropLast
  | .press .clear | .press .clearAll | .escape | .clearEntry | .reset => []
  | _ => keys

namespace State

variable {s : State} {keys : List Key}

theorem entry_press (h : s.entry = Key.spell keys) (button : Button) :
    (s.step (.press button)).entry = Key.spell (Step.keysLeft keys (.press button)) := by
  cases button with
  | insert key =>
    have hinsert : s.entry ++ key.insertion = Key.spell (keys ++ [key]) := by
      rw [h, Key.spell_append_singleton]
    exact hinsert
  | delete =>
    have hdelete : Entry.delete s.entry = Key.spell keys.dropLast := by
      rw [h, Key.delete_spell]
    exact hdelete
  | equals =>
    rw [State.step, State.press, entry_evaluate]
    exact h
  | clear | clearAll => rfl
  | clearResults => exact h

theorem entry_step (h : s.entry = Key.spell keys) {step : Step}
    (hstep : ∀ text, step ≠ .type text) :
    (s.step step).entry = Key.spell (step.keysLeft keys) := by
  cases step with
  | type text => exact absurd rfl (hstep text)
  | press button => exact entry_press h button
  | enter =>
    rw [State.step]
    split
    · rw [entry_evaluate]
      exact h
    · exact h
  | precision digits =>
    rw [State.step]
    rcases dial_eq s.paint digits with hs | hs <;> rw [hs] <;> exact h
  | reset | clearEntry | escape => rfl
  | clearResults | setError | setDigits | setResult | frame | browseHistory => exact h

/-- A run in which nothing is typed may start from any entry that is spelled by keys. -/
theorem entry_run_of_entry (hs : s.entry = Key.spell keys) {steps : List Step}
    (h : ∀ text, .type text ∉ steps) :
    (s.run steps).entry = Key.spell (steps.foldl Step.keysLeft keys) := by
  induction steps generalizing s keys with
  | nil => exact hs
  | cons step steps ih =>
    have hstep : ∀ text, step ≠ .type text := by
      rintro text rfl
      exact h text List.mem_cons_self
    exact ih (entry_step hs hstep) fun text hmem => h text (List.mem_cons_of_mem step hmem)

/-- As long as nothing is typed, the entry is spelled by the keys that are left of those pressed. -/
theorem entry_run {steps : List Step} (h : ∀ text, .type text ∉ steps) :
    (start.run steps).entry = Key.spell (steps.foldl Step.keysLeft []) :=
  entry_run_of_entry rfl h

/-- A parenthesis of its own, next to that of a function, is deleted alone, and the function after
it goes as a whole. -/
theorem entry_run_nested_root :
    let root : Step := .press (.insert (.function .sqrt))
    let paren : Step := .press (.insert .openParen)
    let steps : List Step :=
      [.press (.insert (.digit 2)), root, paren, .press .delete, .setResult "1" ⟨"1", "1"⟩, .enter,
        root, .frame, .press .delete, .press (.insert (.digit 4)), .press .equals]
    (∀ text, .type text ∉ steps) ∧ (start.run steps).entry = "2sqrt(4" := by
  intro root paren steps
  have huntyped : ∀ text, .type text ∉ steps := by simp [steps, root, paren]
  have hspell : Key.spell (steps.foldl Step.keysLeft []) = "2sqrt(4" := by decide +kernel
  exact ⟨huntyped, (entry_run huntyped).trans hspell⟩

end State

end Calculator.Shell
