import Calculator.Proofs.Conversion.Transition

/-!
# Conversions that go on alike

What a lexeme does depends on what is held back inside the innermost open
parenthesis, not on what has been written out or on where the lexeme is. So two
conversions that hold back the same go on alike, even if one of them has more open
parentheses outside (`Alike`). Above an opening parenthesis, a conversion goes on as
one that starts there:

    exists_reads_group : (Rpn.ofText text).outcome = .ok tokens → ∃ m, Reads s offset … m ∧ …
-/

namespace Calculator.Conversion

/-- The conversions have written the same behind `before` and `before'`, and hold back the same;
outside of the open parentheses of `s`, those with `base` are open in `t`. -/
structure Alike (before before' : List Token) (base : List (List Pending)) (s t : State) :
    Prop where
  output : ∃ tokens, s.output.toList = before ++ tokens ∧ t.output.toList = before' ++ tokens
  held : t.held = s.held
  groups : t.groups.map Group.outer = s.groups.map Group.outer ++ base

namespace Alike

variable {before before' : List Token} {base : List (List Pending)} {s t : State}

theorem append_output (h : Alike before before' base s t) (tokens : List Token) :
    ∃ tokens', (s.output ++ tokens).toList = before ++ tokens' ∧
      (t.output ++ tokens).toList = before' ++ tokens' := by
  obtain ⟨tokens', hs, ht⟩ := h.output
  exact ⟨tokens' ++ tokens, by simp [hs], by simp [ht]⟩

theorem exists_result (h : Alike before before' base s t) :
    ∃ after, s.result = before ++ after ∧ t.result = before' ++ after := by
  obtain ⟨tokens, hs, ht⟩ := h.output
  refine ⟨tokens ++ s.held.map Pending.token, ?_, ?_⟩
  · simp [State.result, hs]
  · simp [State.result, ht, h.held]

/-- Every lexeme keeps two conversions alike, wherever it is. -/
theorem exists_takes {position : Nat} {l : Lexeme} {s' : State}
    (h : Alike before before' base s t) (htakes : Takes s position l s') (position' : Nat) :
    ∃ t', Takes t position' l t' ∧ Alike before before' base s' t' := by
  cases htakes with
  | number hnum => exact ⟨_, .number hnum, h.append_output _, h.held, h.groups⟩
  | function f =>
    refine ⟨_, .function f, h.output, ?_, h.groups⟩
    simp [State.hold, h.held]
  | opening =>
    refine ⟨_, .opening, h.output, rfl, ?_⟩
    simp [State.openParen, h.held, h.groups]
  | @closing group groups hg =>
    have hgroups := h.groups
    rw [hg, List.map_cons, List.cons_append] at hgroups
    obtain ⟨group', groups', hg', houter, htail⟩ := List.map_eq_cons_iff.mp hgroups
    refine ⟨_, .closing hg', ?_, houter, htail⟩
    rw [h.held]
    exact h.append_output _
  | operator op =>
    refine ⟨_, .operator op, ?_, ?_, h.groups⟩
    · rw [h.held]
      exact h.append_output _
    · rw [h.held]

theorem exists_reads {offset : Nat} {ls : List Lexeme} {s' : State}
    (h : Alike before before' base s t) (hreads : Reads s offset ls s') (offset' : Nat) :
    ∃ t', Reads t offset' ls t' ∧ Alike before before' base s' t' := by
  induction ls generalizing s t offset offset' with
  | nil =>
    obtain rfl := reads_nil_iff.mp hreads
    exact ⟨t, reads_nil_iff.mpr rfl, h⟩
  | cons l ls ih =>
    obtain ⟨m, htakes, hrest⟩ := reads_cons_iff.mp hreads
    obtain ⟨n, htakes', hm⟩ := h.exists_takes htakes offset'
    obtain ⟨t', hrest', hs'⟩ := ih hm hrest (offset' + l.size)
    exact ⟨t', reads_cons_iff.mpr ⟨n, htakes', hrest'⟩, hs'⟩

/-- A conversion that goes on like another one to the end writes out what that one does, behind
what it has written out already. -/
theorem exists_end {after : List Token} {offset : Nat} {ls : List Lexeme} {s' : State}
    (h : Alike before before' [] s t) (hs : Reads s offset ls s') (hgroups : s'.groups = [])
    (hafter : s'.result = before ++ after) (offset' : Nat) :
    ∃ t', Reads t offset' ls t' ∧ t'.groups = [] ∧ t'.result = before' ++ after := by
  obtain ⟨t', ht, hlike⟩ := h.exists_reads hs offset'
  obtain ⟨after', hs', ht'⟩ := hlike.exists_result
  rw [hafter, List.append_cancel_left_eq] at hs'
  rw [← hs'] at ht'
  have hmap := hlike.groups
  rw [hgroups] at hmap
  exact ⟨t', ht, List.map_eq_nil_iff.mp hmap, ht'⟩

end Alike

/-- What has been written out stays as it is. -/
theorem Reads.exists_result {s s' : State} {offset : Nat} {ls : List Lexeme}
    (h : Reads s offset ls s') : ∃ after, s'.result = s.output.toList ++ after := by
  have hself : Alike s.output.toList s.output.toList [] s s :=
    ⟨⟨[], by simp, by simp⟩, rfl, by simp⟩
  obtain ⟨t, -, hlike⟩ := hself.exists_reads h offset
  obtain ⟨after, hs', -⟩ := hlike.exists_result
  exact ⟨after, hs'⟩

/-! ### Groups -/

/-- A text in parentheses writes out what the text does on its own, and changes nothing else. -/
theorem exists_reads_group {text : String} {tokens : Rpn}
    (h : (Rpn.ofText text).outcome = .ok tokens) (s : State) (offset : Nat) :
    ∃ s', Reads s offset (.symbol '(' :: (Lexeme.ofText text ++ [.symbol ')'])) s' ∧
      s'.output.toList = s.output.toList ++ tokens ∧ s'.held = s.held ∧
        s'.groups.map Group.outer = s.groups.map Group.outer := by
  obtain ⟨inner, hinner, hgroups, rfl⟩ := outcome_ofText_iff.mp h
  have hopen : Alike [] s.output.toList (s.held :: s.groups.map Group.outer)
      .start (s.openParen offset) :=
    ⟨⟨[], rfl, by simp [State.openParen]⟩, rfl, by simp [State.openParen, State.start]⟩
  obtain ⟨m, hm, hlike⟩ := hopen.exists_reads hinner (offset + (Lexeme.symbol '(').size)
  -- With the text at its end, the parenthesis that closes is the partner of the first one.
  obtain ⟨group, groups, hg, houter, houters⟩ :
      ∃ group groups, m.groups = group :: groups ∧ group.outer = s.held ∧
        groups.map Group.outer = s.groups.map Group.outer := by
    have hmap := hlike.groups
    rw [hgroups] at hmap
    exact List.map_eq_cons_iff.mp hmap
  refine ⟨⟨m.output ++ m.held.map Pending.token, group.outer, groups⟩, ?_, ?_, houter, houters⟩
  · refine reads_cons_iff.mpr ⟨_, .opening, reads_append_iff.mpr ⟨m, hm, ?_⟩⟩
    exact reads_cons_iff.mpr ⟨_, .closing hg, reads_nil_iff.mpr rfl⟩
  · obtain ⟨after, hinner, hm⟩ := hlike.exists_result
    rw [hinner, List.nil_append, ← hm]
    simp [State.result]

/-- A function with its argument in parentheses stays held back when they are closed. -/
theorem exists_reads_call {text : String} {tokens : Rpn}
    (h : (Rpn.ofText text).outcome = .ok tokens) (f : Func) (s : State) (offset : Nat) :
    ∃ s' : State, Reads s offset (.name f.name.toList true ::
        .symbol '(' :: (Lexeme.ofText text ++ [.symbol ')'])) (s'.hold (.function f)) ∧
      s'.output.toList = s.output.toList ++ tokens ∧ s'.held = s.held ∧
        s'.groups.map Group.outer = s.groups.map Group.outer := by
  obtain ⟨t, ht, hout, hheld, houters⟩ :=
    exists_reads_group h (s.hold (.function f)) (offset + (Lexeme.name f.name.toList true).size)
  have hhold : State.hold { t with held := s.held } (.function f) = t := by
    cases t
    cases hheld
    rfl
  refine ⟨{ t with held := s.held }, ?_, hout, rfl, houters⟩
  rw [hhold]
  exact reads_cons_iff.mpr ⟨_, .function f, ht⟩

end Calculator.Conversion
