import Calculator.Proofs.Lexeme.Cut
import Calculator.Shell.Step

/-!
# Deleting what a key inserted

The delete key looks at the end of the entry only, and does not know which keys were
pressed. It still takes back just what the last key inserted: no two functions end alike,
and a parenthesis is taken for that of a function only if the name of one precedes it.

    delete_append_insertion : Entry.delete (text ++ key.insertion) = text

Whatever is in the entry, each press leaves a shorter initial part of it (`exists_delete_eq`),
so that as many presses as there are characters empty it.
-/

namespace Calculator.Shell

namespace Entry

/-! ### Functions at the end of a text -/

theorem reverse_toList_opening (f : Func) :
    (opening f).toList.reverse = '(' :: f.name.toList.reverse := by
  simp [opening]

/-- No two functions end alike. -/
theorem opening_unique {reversed : List Char} {f g : Func}
    (hf : (opening f).toList.reverse <+: reversed) (hg : (opening g).toList.reverse <+: reversed) :
    f = g := by
  have hends : (opening f).toList.reverse <+: (opening g).toList.reverse ∨
      (opening g).toList.reverse <+: (opening f).toList.reverse :=
    List.prefix_or_prefix_of_prefix hf hg
  revert hends
  cases f <;> cases g <;> decide +kernel

theorem prefix_of_lastOpening? {reversed : List Char} {f : Func}
    (h : lastOpening? reversed = some f) : (opening f).toList.reverse <+: reversed :=
  List.isPrefixOf_iff_prefix.mp
    (List.find?_some (p := fun g => (opening g).toList.reverse.isPrefixOf reversed) h)

theorem lastOpening?_eq_some_iff {reversed : List Char} {f : Func} :
    lastOpening? reversed = some f ↔ (opening f).toList.reverse <+: reversed := by
  refine ⟨prefix_of_lastOpening?, ?_⟩
  intro h
  have hfound : (lastOpening? reversed).isSome = true :=
    List.find?_isSome.mpr ⟨f, f.mem_all, List.isPrefixOf_iff_prefix.mpr h⟩
  obtain ⟨g, hg⟩ := Option.isSome_iff_exists.mp hfound
  rw [hg, opening_unique (prefix_of_lastOpening? hg) h]

theorem lastOpening?_eq_none_iff {reversed : List Char} :
    lastOpening? reversed = none ↔ ∀ f, ¬(opening f).toList.reverse <+: reversed := by
  simp only [Option.eq_none_iff_forall_ne_some, ne_eq, lastOpening?_eq_some_iff]

/-! ### Deleting -/

theorem delete_append_opening (text : String) (f : Func) : delete (text ++ opening f) = text := by
  have hreversed : (text ++ opening f).toList.reverse.dropWhile Text.isBlank =
      (opening f).toList.reverse ++ text.toList.reverse := by
    have hparen : Text.isBlank '(' = false := by decide
    rw [String.toList_append, List.reverse_append, reverse_toList_opening, List.cons_append,
      List.dropWhile_cons_of_neg (by simp [hparen])]
  have hlast : lastOpening? ((opening f).toList.reverse ++ text.toList.reverse) = some f :=
    lastOpening?_eq_some_iff.mpr (List.prefix_append _ _)
  have hlength : (opening f).length = (opening f).toList.reverse.length := by
    rw [List.length_reverse, String.length_toList]
  simp only [delete, hreversed, hlast, hlength, List.drop_left, List.reverse_reverse,
    String.ofList_toList]

/-- A character that is no blank is deleted by itself, unless it is a parenthesis behind the name of
a function. -/
theorem delete_append_singleton {text : String} {c : Char} (hblank : Text.isBlank c = false)
    (hname : c = '(' → ∀ f : Func, ¬f.name.toList <:+ text.toList) :
    delete (text ++ String.singleton c) = text := by
  have hreversed : (text ++ String.singleton c).toList.reverse.dropWhile Text.isBlank =
      c :: text.toList.reverse := by
    simp [hblank]
  have hlast : lastOpening? (c :: text.toList.reverse) = none := by
    rw [lastOpening?_eq_none_iff]
    intro f hprefix
    rw [reverse_toList_opening, List.cons_prefix_cons, List.reverse_prefix] at hprefix
    exact hname hprefix.1.symm f hprefix.2
  simp only [delete, hreversed, hlast, List.drop_one, List.tail_cons, List.reverse_reverse,
    String.ofList_toList]

/-! ### What is left -/

/-- At least one character goes, besides the blanks at the end. -/
theorem exists_delete_eq (text : String) :
    ∃ n, 1 ≤ n ∧
      (delete text).toList = ((text.toList.reverse.dropWhile Text.isBlank).drop n).reverse := by
  cases h : lastOpening? (text.toList.reverse.dropWhile Text.isBlank) with
  | none => exact ⟨1, Nat.le_refl 1, by simp [delete, h]⟩
  | some f => exact ⟨(opening f).length, by cases f <;> decide, by simp [delete, h]⟩

theorem delete_prefix (text : String) : (delete text).toList <+: text.toList := by
  obtain ⟨n, -, hdelete⟩ := exists_delete_eq text
  rw [hdelete, ← List.reverse_suffix, List.reverse_reverse]
  exact (List.drop_suffix n _).trans (List.dropWhile_suffix Text.isBlank)

theorem length_delete_lt {text : String} (h : text ≠ "") :
    (delete text).length < text.length := by
  obtain ⟨n, hn, hdelete⟩ := exists_delete_eq text
  have hpos : 0 < text.toList.length := by
    rw [List.length_pos_iff, ne_eq, String.toList_eq_nil_iff]
    exact h
  have hblanks : (text.toList.reverse.dropWhile Text.isBlank).length ≤ text.toList.length := by
    have hsuffix := List.dropWhile_suffix Text.isBlank (l := text.toList.reverse)
    simpa using hsuffix.length_le
  rw [← String.length_toList, ← String.length_toList, hdelete, List.length_reverse,
    List.length_drop]
  omega

end Entry

/-! ### Keys -/

/-- All keys but those of functions insert one character, which is neither blank nor a letter. -/
theorem Key.insertion_cases (key : Key) :
    (∃ f, key = .function f) ∨
      ∃ c, key.insertion = String.singleton c ∧ Text.isBlank c = false ∧ isNameChar c = false ∧
        (c = '(' → key = .openParen) := by
  cases key with
  | digit value =>
    refine .inr ⟨Nat.digitChar value, ?_⟩
    revert value
    decide +kernel
  | point => exact .inr ⟨'.', by decide +kernel⟩
  | openParen => exact .inr ⟨'(', by decide +kernel⟩
  | closeParen => exact .inr ⟨')', by decide +kernel⟩
  | operator op => exact .inr ⟨op.symbol, by cases op <;> decide +kernel⟩
  | function f => exact .inl ⟨f, rfl⟩

/-- Deleting takes back what a key inserted, blanks in front of it and all. Only a parenthesis
behind the name of a function does not go alone. -/
theorem Entry.delete_append_insertion {text : String} {key : Key}
    (h : key = .openParen → ∀ f : Func, ¬f.name.toList <:+ text.toList) :
    Entry.delete (text ++ key.insertion) = text := by
  rcases key.insertion_cases with ⟨f, rfl⟩ | ⟨c, hc, hblank, -, hparen⟩
  · exact delete_append_opening text f
  · rw [hc]
    exact delete_append_singleton hblank fun heq => h (hparen heq)

/-! ### Pressing the key -/

namespace State

/-- As often as there are characters is often enough. -/
theorem entry_run_replicate_delete {s : State} {n : Nat} (h : s.entry.length ≤ n) :
    (s.run (List.replicate n (.press .delete))).entry = "" := by
  induction n generalizing s with
  | zero => exact String.length_eq_zero_iff.mp (Nat.le_zero.mp h)
  | succ n ih =>
    rw [List.replicate_succ, run_cons]
    apply ih
    show (Entry.delete s.entry).length ≤ n
    by_cases hempty : s.entry = ""
    · rw [hempty]
      exact Nat.zero_le n
    · have hlt := Entry.length_delete_lt hempty
      omega

/-- Deleting leaves an initial part of the entry, a shorter one unless it is empty, and takes back
what a key inserted, whatever stood there before. A parenthesis behind the name of a function is the
one exception: the name goes with it. -/
theorem entry_press_delete (s : State) :
    (s.step (.press .delete)).entry.toList <+: s.entry.toList ∧
      (s.entry ≠ "" → (s.step (.press .delete)).entry.length < s.entry.length) ∧
      (∀ n, s.entry.length ≤ n → (s.run (List.replicate n (.press .delete))).entry = "") ∧
      (∀ key : Key, (key = .openParen → ∀ f : Func, ¬f.name.toList <:+ s.entry.toList) →
        (s.run [.press (.insert key), .press .delete]).entry = s.entry) ∧
      ∀ (before : String) (f : Func), s.entry = before ++ f.name →
        (s.run [.press (.insert .openParen), .press .delete]).entry = before := by
  refine ⟨Entry.delete_prefix s.entry, Entry.length_delete_lt,
    fun n => entry_run_replicate_delete, ?_, ?_⟩
  · intro key hkey
    show Entry.delete (s.entry ++ key.insertion) = s.entry
    exact Entry.delete_append_insertion hkey
  · intro before f hentry
    show Entry.delete (s.entry ++ "(") = before
    rw [hentry, String.append_assoc]
    exact Entry.delete_append_opening before f

-- The blanks in front of what was inserted stay, those behind it go.
example : Entry.delete "2+\u00a0cos(\t " = "2+\u00a0" := by decide +kernel

end State

end Calculator.Shell
