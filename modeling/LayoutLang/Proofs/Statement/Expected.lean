import LayoutLang.Proofs.Statement.Stage

/-!
# What a syntax error says

Where tokens cease to be the beginning of a statement, the error names the first token that cannot
follow, and the kinds that could.  The main statement says this against the grammar alone: what
stands before the token begins some statement, what ends with it begins none, and the kinds named
are those that the grammar allows there.  Three of these are never named, and `Omitted` says where.

The proof goes over the stage that a beginning leads to: what the grammar allows there, what is
omitted and what the error names are each a function of the stage.
-/

namespace LayoutLang

open Token (Kind Placed)

namespace Statement

/-! ## What may come next -/

/-- A token of this kind may come next. -/
def MayFollow (used : List Placed) (k : Kind) : Prop :=
  ∃ t, t.token.kind = k ∧ Begins (used ++ [t])

/-- What may come next but is not named: a number at the start, and a star behind a name at the
start or behind a value on the right. -/
inductive Omitted : List Placed → Kind → Prop
  | number : Omitted [] .number
  | leadingStar (n : String) (span : Span) : Omitted [⟨.identifier n, span⟩] .star
  | star {used : List Placed} {s : Statement} {v : Operand} : IsStatement used s →
      s.second = .value v → s.constant = none → s.priority = none → Omitted used .star

end Statement

open Statement (Begins IsStatement MayFollow Omitted nextKind)

/-- An error is true of the tokens before its place and those from there on. -/
structure SyntaxError.IsTrueOf (e : SyntaxError) (used rest : List Placed) : Prop where
  begins : Begins used
  blocked : ∀ t after, rest = t :: after → ¬ Begins (used ++ [t])
  unfinished : rest = [] → ∀ s, ¬ IsStatement used s
  found : e.found = nextKind rest
  position : e.position = match rest with
    | t :: _ => t.span.start
    | [] => Statement.endOffset used
  nodup : e.expected.Nodup
  end_iff : .endOfInput ∈ e.expected ↔ ∃ s, IsStatement used s
  mem_iff : ∀ k, k ≠ .endOfInput → (k ∈ e.expected ↔ MayFollow used k ∧ ¬ Omitted used k)

namespace Statement

/-! ## What the stages say of the tokens before them -/

variable {used : List Placed} {q : Stage} {k : Kind}

theorem run_eq_start_iff : Stage.start.run used = some .start ↔ used = [] := by
  constructor
  · intro hrun
    rcases List.eq_nil_or_concat used with rfl | ⟨s, t, rfl⟩
    · rfl
    · rw [List.concat_eq_append] at hrun
      obtain ⟨r, -, hnext⟩ := Stage.run_concat.mp hrun
      cases r <;> cases hkind : t.token.kind <;> simp [Stage.next, hkind] at hnext
  · rintro rfl
    rfl

theorem run_eq_leadingName_iff :
    Stage.start.run used = some .leadingName ↔ ∃ n span, used = [⟨.identifier n, span⟩] := by
  constructor
  · intro hrun
    rcases List.eq_nil_or_concat used with rfl | ⟨s, ⟨token, span⟩, rfl⟩
    · cases hrun
    · rw [List.concat_eq_append] at hrun
      obtain ⟨r, hr, hnext⟩ := Stage.run_concat.mp hrun
      cases r with
      | start =>
          obtain rfl := run_eq_start_iff.mp hr
          cases token with
          | identifier n => exact ⟨n, span, rfl⟩
          | _ => cases hnext
      | _ => cases token <;> cases hnext
  · rintro ⟨n, span, rfl⟩
    rfl

theorem run_eq_rightValue_iff :
    Stage.start.run used = some .rightValue ↔
      ∃ s v, IsStatement used s ∧ s.second = .value v ∧ s.constant = none ∧ s.priority = none := by
  constructor
  · intro hrun
    obtain ⟨s, hs⟩ := isStatement_iff_run.mpr ⟨_, hrun, rfl⟩
    obtain ⟨q, hrun', hends⟩ := run_of_isStatement hs
    obtain rfl := Option.some.inj (hrun.symm.trans hrun')
    obtain ⟨⟨v, hv⟩, hconstant, hpriority⟩ := hends.value_iff.mp rfl
    exact ⟨s, v, hs, hv, hconstant, hpriority⟩
  · rintro ⟨s, v, hs, hv, hconstant, hpriority⟩
    obtain ⟨q, hrun, hends⟩ := run_of_isStatement hs
    rw [hrun, hends.value_iff.mpr ⟨⟨v, hv⟩, hconstant, hpriority⟩]

theorem omitted_iff (hrun : Stage.start.run used = some q) :
    Omitted used k ↔ q.omitted = some k := by
  constructor
  · intro h
    cases h with
    | number =>
        cases hrun
        rfl
    | leadingStar n span =>
        cases hrun
        rfl
    | star hs hv hconstant hpriority =>
        rw [run_eq_rightValue_iff.mpr ⟨_, _, hs, hv, hconstant, hpriority⟩] at hrun
        cases hrun
        rfl
  · intro h
    cases q with
    | start =>
        cases h
        obtain rfl := run_eq_start_iff.mp hrun
        exact .number
    | leadingName =>
        cases h
        obtain ⟨n, span, rfl⟩ := run_eq_leadingName_iff.mp hrun
        exact .leadingStar n span
    | rightValue =>
        cases h
        obtain ⟨s, v, hs, hv, hconstant, hpriority⟩ := run_eq_rightValue_iff.mp hrun
        exact .star hs hv hconstant hpriority
    | _ => cases h

theorem exists_token_of_kind (hk : k ≠ .endOfInput) : ∃ t : Token, t.kind = k := by
  cases k with
  | relation => exact ⟨.relation .equal, rfl⟩
  | star => exact ⟨.star, rfl⟩
  | plus => exact ⟨.plus, rfl⟩
  | minus => exact ⟨.minus, rfl⟩
  | atSign => exact ⟨.atSign, rfl⟩
  | number => exact ⟨.number .one, rfl⟩
  | identifier => exact ⟨.identifier "", rfl⟩
  | dotted => exact ⟨.dotted "" "", rfl⟩
  | endOfInput => exact absurd rfl hk

theorem begins_concat_iff (hrun : Stage.start.run used = some q) {t : Placed} :
    Begins (used ++ [t]) ↔ (q.next t.token.kind).isSome = true := by
  rw [begins_iff_run, Option.isSome_iff_exists]
  simp [Stage.run_concat, hrun]

theorem mayFollow_iff (hrun : Stage.start.run used = some q) (hk : k ≠ .endOfInput) :
    MayFollow used k ↔ (q.next k).isSome = true := by
  constructor
  · rintro ⟨t, rfl, ht⟩
    exact (begins_concat_iff hrun).mp ht
  · intro hnext
    obtain ⟨t, rfl⟩ := exists_token_of_kind hk
    exact ⟨⟨t, default⟩, rfl, (begins_concat_iff hrun).mpr hnext⟩

/-! ## The errors -/

/-- A reader that is stuck gives an error that is true. -/
theorem isTrueOf_of_stuck {rest : List Placed} {expected : List Kind}
    (hrun : Stage.start.run used = some q) (hexpected : expected = q.expected)
    (hnone : q.next (nextKind rest) = none) :
    (Stuck.error (used ++ rest) ⟨expected, rest⟩).IsTrueOf used rest := by
  have hwhole : (∃ s, IsStatement used s) ↔ (q.next .endOfInput).isSome = true := by
    rw [isStatement_iff_run]
    simp [hrun]
  have hlist : (Stuck.error (used ++ rest) ⟨expected, rest⟩).expected = q.expected := by
    cases rest <;> exact hexpected
  refine
    { begins := begins_iff_run.mpr ⟨q, hrun⟩
      blocked := ?_
      unfinished := ?_
      found := by cases rest <;> rfl
      position := by cases rest <;> simp [Stuck.error]
      nodup := hlist ▸ q.nodup_expected
      end_iff := ?_
      mem_iff := ?_ }
  · rintro t after rfl hbegins
    rw [begins_concat_iff hrun, Option.isSome_iff_exists] at hbegins
    obtain ⟨r, hr⟩ := hbegins
    exact absurd (hr.symm.trans hnone) nofun
  · rintro rfl s hs
    have hsome := hwhole.mp ⟨s, hs⟩
    rw [Option.isSome_iff_exists] at hsome
    obtain ⟨r, hr⟩ := hsome
    exact absurd (hr.symm.trans hnone) nofun
  · rw [hlist, hwhole, q.mem_expected_iff]
    cases q <;> simp [Stage.omitted]
  · intro k hk
    rw [hlist, mayFollow_iff hrun hk, omitted_iff hrun]
    exact q.mem_expected_iff k

/-- The place of an error, and what it says of it. -/
theorem exists_isTrueOf_of_error {tokens : List Placed} {e : SyntaxError}
    (h : ofTokens tokens = .error e) :
    ∃ used rest, tokens = used ++ rest ∧ e.IsTrueOf used rest := by
  obtain ⟨st, hst, rfl⟩ := Outcome.mapError_eq_error.mp h
  have hread := read_advances tokens
  rw [hst] at hread
  obtain ⟨used, q, rfl, hrun, hexpected, hnone⟩ := hread.run_of_error
  exact ⟨used, st.rest, rfl, isTrueOf_of_stuck hrun hexpected hnone⟩

/-- `a = 1 b`, where a star is missing. -/
def starless : List Placed :=
  [⟨.identifier "a", ⟨0, 1⟩⟩, ⟨.relation .equal, ⟨2, 3⟩⟩, ⟨.number .one, ⟨4, 5⟩⟩,
    ⟨.identifier "b", ⟨6, 7⟩⟩]

end Statement

end LayoutLang
