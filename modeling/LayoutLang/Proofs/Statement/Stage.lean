import LayoutLang.Proofs.Statement.Grammar

/-!
# Stages of a statement

Of the beginning of a statement only its *stage* matters for what may follow.  The stages and their
steps are a finite automaton over kinds of tokens, and `Stage.expected` is what a reader that is
stuck at a stage names.

The readers are followed through the stages once, each from the stage where it is called to the one
where it stops (`Advances`).  That the automaton accepts exactly the statements of the grammar
follows from this and from what is known of the readers (`isStatement_iff_run`), and every beginning
can be completed because every stage can (`begins_iff_run`).
-/

namespace LayoutLang

open Token (Kind Placed)

namespace Statement

/-! ## Stages -/

/-- How far a beginning has come. -/
inductive Stage where
  | start
  /-- A number, which can only be a factor. -/
  | leadingNumber
  /-- A name, which is a factor if a star follows. -/
  | leadingName
  | leadingStar
  /-- The term on the left is whole. -/
  | leadingItem
  /-- Behind the relation. -/
  | right
  | rightMinus
  /-- A number or a name, which is a factor if a star follows. -/
  | rightValue
  | rightStar
  | rightItem
  /-- Behind the sign of an addend. -/
  | sign
  | addend
  /-- Behind the sign of a priority. -/
  | atSign
  | priority
deriving DecidableEq

namespace Stage

/-- The stage that a token of some kind leads to.  The end leads nowhere, but it may come only
where a statement is whole. -/
def next : Stage → Kind → Option Stage
  | start, .number => some leadingNumber
  | start, .identifier => some leadingName
  | start, .dotted => some leadingItem
  | leadingNumber, .star => some leadingStar
  | leadingName, .star => some leadingStar
  | leadingName, .relation => some right
  | leadingStar, .identifier => some leadingItem
  | leadingStar, .dotted => some leadingItem
  | leadingItem, .relation => some right
  | right, .number => some rightValue
  | right, .minus => some rightMinus
  | right, .identifier => some rightValue
  | right, .dotted => some rightItem
  | rightMinus, .number => some rightValue
  | rightValue, .star => some rightStar
  | rightValue, .plus => some sign
  | rightValue, .minus => some sign
  | rightValue, .atSign => some atSign
  | rightValue, .endOfInput => some rightValue
  | rightStar, .identifier => some rightItem
  | rightStar, .dotted => some rightItem
  | rightItem, .plus => some sign
  | rightItem, .minus => some sign
  | rightItem, .atSign => some atSign
  | rightItem, .endOfInput => some rightItem
  | sign, .number => some addend
  | sign, .identifier => some addend
  | addend, .atSign => some atSign
  | addend, .endOfInput => some addend
  | atSign, .number => some priority
  | atSign, .identifier => some priority
  | priority, .endOfInput => some priority
  | _, _ => none

/-- The kinds that are named where a reader is stuck. -/
def expected : Stage → List Kind
  | start => [.identifier, .dotted]
  | leadingNumber => [.star]
  | leadingName => [.relation]
  | leadingStar => [.identifier, .dotted]
  | leadingItem => [.relation]
  | right => [.number, .minus, .identifier, .dotted]
  | rightMinus => [.number]
  | rightValue => [.plus, .minus, .atSign, .endOfInput]
  | rightStar => [.identifier, .dotted]
  | rightItem => [.plus, .minus, .atSign, .endOfInput]
  | sign => [.number, .identifier]
  | addend => [.atSign, .endOfInput]
  | atSign => [.number, .identifier]
  | priority => [.endOfInput]

/-- The kinds that may come next and are not named. -/
def omitted : Stage → Option Kind
  | start => some .number
  | leadingName => some .star
  | rightValue => some .star
  | _ => none

/-- The stage that tokens lead to. -/
def run (q : Stage) (tokens : List Placed) : Option Stage :=
  tokens.foldlM (fun q t => q.next t.token.kind) q

theorem run_append (q : Stage) (s t : List Placed) :
    q.run (s ++ t) = (q.run s).bind (·.run t) :=
  List.foldlM_append

theorem run_concat {q q' : Stage} {s : List Placed} {t : Placed} :
    q.run (s ++ [t]) = some q' ↔ ∃ r, q.run s = some r ∧ r.next t.token.kind = some q' := by
  rw [run_append, Option.bind_eq_some_iff]
  simp [run]

/-- Where kinds lead to no further stage: the last stage, and the kind that is found there. -/
def halt (q : Stage) : List Kind → Stage × Kind
  | [] => (q, .endOfInput)
  | k :: ks =>
    match q.next k with
    | some r => r.halt ks
    | none => (q, k)

theorem halt_of_next {q r : Stage} {k : Kind} (h : q.next k = some r) (ks : List Kind) :
    q.halt (k :: ks) = r.halt ks := by
  rw [halt, h]

theorem halt_of_next_eq_none {q : Stage} {tokens : List Placed}
    (h : q.next (nextKind tokens) = none) :
    q.halt (tokens.map (·.token.kind)) = (q, nextKind tokens) := by
  cases tokens with
  | nil => rfl
  | cons t tokens =>
      rw [List.map_cons, halt]
      split
      · next r hr => cases h.symm.trans hr
      · rfl

theorem mem_expected_iff (q : Stage) (k : Kind) :
    k ∈ q.expected ↔ (q.next k).isSome = true ∧ q.omitted ≠ some k := by
  cases q <;> cases k <;> decide

theorem nodup_expected (q : Stage) : q.expected.Nodup := by cases q <;> decide

/-- Tokens that complete a beginning. -/
def completion : Stage → List Token
  | start => [.identifier "", .relation .equal, .identifier ""]
  | leadingNumber => [.star, .identifier "", .relation .equal, .identifier ""]
  | leadingName => [.relation .equal, .identifier ""]
  | leadingStar => [.identifier "", .relation .equal, .identifier ""]
  | leadingItem => [.relation .equal, .identifier ""]
  | right => [.identifier ""]
  | rightMinus => [.number .one]
  | rightStar => [.identifier ""]
  | sign => [.identifier ""]
  | atSign => [.identifier ""]
  | _ => []

/-- No stage is a dead end. -/
theorem run_completion (q : Stage) :
    ∃ q', q.run (q.completion.map (⟨·, default⟩)) = some q'
      ∧ (q'.next .endOfInput).isSome = true := by
  cases q <;> exact ⟨_, rfl, rfl⟩

end Stage

/-! ## The readers move from stage to stage -/

section Advances

variable {α β : Type} {q q' : Stage} {tokens : List Placed} {x : Except Stuck α}

/-- What a reader does from a stage on.  It uses one token after another, each leading to the next
stage, and leaves the others.  Where it stops it has a result, or it is stuck because the next token
leads nowhere; then it names what is expected at that stage. -/
inductive Advances (left : α → List Placed) (stops : α → Stage → Prop) :
    Stage → List Placed → Except Stuck α → Prop
  | done {q : Stage} {tokens : List Placed} {a : α} : tokens = left a → stops a q →
      Advances left stops q tokens (.ok a)
  | stuck {q : Stage} {tokens : List Placed} {st : Stuck} : tokens = st.rest →
      st.expected = q.expected → q.next (nextKind tokens) = none →
      Advances left stops q tokens (.error st)
  | step {q r : Stage} {t : Placed} {tokens : List Placed} {x : Except Stuck α} :
      q.next t.token.kind = some r → Advances left stops r tokens x →
      Advances left stops q (t :: tokens) x

variable {left : α → List Placed} {stops : α → Stage → Prop} {left' : β → List Placed}
  {stops' : β → Stage → Prop}

/-- One reader after another. -/
theorem Advances.bind {f : α → Except Stuck β} (h : Advances left stops q tokens x)
    (hf : ∀ a r, stops a r → Advances left' stops' r (left a) (f a)) :
    Advances left' stops' q tokens (x >>= f) := by
  induction h with
  | done htokens ha =>
      rw [htokens]
      exact hf _ _ ha
  | stuck htokens hexpected hnext => exact .stuck htokens hexpected hnext
  | step hnext _ ih => exact .step hnext ih

theorem Advances.map {f : α → β} (h : Advances left stops q tokens x)
    (hf : ∀ a r, stops a r → left' (f a) = left a ∧ stops' (f a) r) :
    Advances left' stops' q tokens (x.map f) := by
  induction h with
  | done htokens ha =>
      obtain ⟨hleft, hstops⟩ := hf _ _ ha
      exact .done (htokens.trans hleft.symm) hstops
  | stuck htokens hexpected hnext => exact .stuck htokens hexpected hnext
  | step hnext _ ih => exact .step hnext ih

/-- A reader that gives a result has used tokens that lead to the stage where it stops. -/
theorem Advances.run_of_ok {a : α} (h : Advances left stops q tokens (.ok a)) :
    ∃ used r, tokens = used ++ left a ∧ q.run used = some r ∧ stops a r := by
  generalize hx : (Except.ok a : Except Stuck α) = x at h
  induction h with
  | done htokens ha =>
      cases hx
      exact ⟨[], _, htokens, rfl, ha⟩
  | stuck _ _ _ => cases hx
  | @step q r t tokens x hnext _ ih =>
      obtain ⟨used, r', rfl, hrun, hstops⟩ := ih hx
      exact ⟨t :: used, r', rfl, by simp [Stage.run, hnext, ← hrun], hstops⟩

/-- A reader that is stuck has used tokens that lead to a stage where the next one leads nowhere. -/
theorem Advances.run_of_error {st : Stuck} (h : Advances left stops q tokens (.error st)) :
    ∃ used r, tokens = used ++ st.rest ∧ q.run used = some r ∧ st.expected = r.expected
      ∧ r.next (nextKind st.rest) = none := by
  generalize hx : (Except.error st : Except Stuck α) = x at h
  induction h with
  | done _ _ => cases hx
  | stuck htokens hexpected hnext =>
      cases hx
      exact ⟨[], _, htokens, rfl, hexpected, htokens ▸ hnext⟩
  | @step q r t tokens x hnext _ ih =>
      obtain ⟨used, r', hused, hrun, hexpected, hnone⟩ := ih hx
      exact ⟨t :: used, r', by rw [hused, List.cons_append], by simp [Stage.run, hnext, ← hrun],
        hexpected, hnone⟩

/-- What a reader that is stuck names, and what it finds, follow from the kinds of the tokens. -/
theorem Advances.halt_of_error {st : Stuck} (h : Advances left stops q tokens (.error st)) :
    ∃ r, q.halt (tokens.map (·.token.kind)) = (r, nextKind st.rest)
      ∧ st.expected = r.expected := by
  generalize hx : (Except.error st : Except Stuck α) = x at h
  induction h with
  | done _ _ => cases hx
  | @stuck q tokens st htokens hexpected hnext =>
      cases hx
      exact ⟨q, by rw [← htokens, Stage.halt_of_next_eq_none hnext], hexpected⟩
  | @step q r t tokens x hnext _ ih =>
      obtain ⟨r', hhalt, hexpected⟩ := ih hx
      exact ⟨r', by rw [List.map_cons, Stage.halt_of_next hnext, hhalt], hexpected⟩

end Advances

/-- The stages at which only an operand can follow, and what it leads to. -/
inductive TakesOperand : Stage → Stage → Prop
  | addend : TakesOperand .sign .addend
  | priority : TakesOperand .atSign .priority

/-- The stages at which only an object can follow, and what it leads to. -/
inductive TakesObject : Stage → Stage → Prop
  | left : TakesObject .leadingStar .leadingItem
  | right : TakesObject .rightStar .rightItem

theorem readOperand_advances {q q' : Stage} (h : TakesOperand q q') (tokens : List Placed) :
    Advances Prod.snd (fun _ r => r = q') q tokens (readOperand tokens) := by
  rcases tokens with _ | ⟨⟨token, span⟩, rest⟩
  · cases h <;> exact .stuck rfl rfl rfl
  · cases h <;>
      cases token with
      | number x => exact .step rfl (.done rfl rfl)
      | identifier n => exact .step rfl (.done rfl rfl)
      | _ => exact .stuck rfl rfl rfl

theorem readObject_advances {q q' : Stage} {stops : Term × List Placed → Stage → Prop}
    (h : TakesObject q q') (hstops : ∀ read, stops read q') (m : Option Operand)
    (tokens : List Placed) : Advances Prod.snd stops q tokens (readObject m tokens) := by
  rcases tokens with _ | ⟨⟨token, span⟩, rest⟩
  · cases h <;> exact .stuck rfl rfl rfl
  · cases h <;>
      cases token with
      | identifier n => exact .step rfl (.done rfl (hstops _))
      | dotted owner member => exact .step rfl (.done rfl (hstops _))
      | _ => exact .stuck rfl rfl rfl

/-- Behind a term a relation has to follow. -/
def EndsTerm (read : Term × List Placed) (q : Stage) : Prop :=
  q = .leadingItem ∨ q = .leadingName ∧ nextKind read.2 ≠ .star

theorem readTerm_advances (tokens : List Placed) :
    Advances Prod.snd EndsTerm .start tokens (readTerm tokens) := by
  have hobject : ∀ m rest, Advances Prod.snd EndsTerm .leadingStar rest (readObject m rest) :=
    readObject_advances .left fun _ => .inl rfl
  rcases tokens with _ | ⟨⟨token, span⟩, rest⟩
  · exact .stuck rfl rfl rfl
  · cases token with
    | number x =>
        rcases rest with _ | ⟨⟨token, star⟩, rest⟩
        · exact .step rfl (.stuck rfl rfl rfl)
        · cases token with
          | star => exact .step rfl (.step rfl (hobject _ rest))
          | _ => exact .step rfl (.stuck rfl rfl rfl)
    | identifier n =>
        rcases rest with _ | ⟨⟨token, star⟩, rest⟩
        · exact .step rfl (.done rfl (.inr ⟨rfl, by simp [nextKind]⟩))
        · cases token with
          | star => exact .step rfl (.step rfl (hobject _ rest))
          | _ => exact .step rfl (.done rfl (.inr ⟨rfl, by simp [nextKind, Token.kind]⟩))
    | dotted owner member => exact .step rfl (.done rfl (.inl rfl))
    | _ => exact .stuck rfl rfl rfl

theorem readRelation_advances {q : Stage} {t : Term × List Placed} (h : EndsTerm t q) :
    Advances Prod.snd (fun _ r => r = .right) q t.2 (readRelation t.2) := by
  obtain ⟨t, tokens⟩ := t
  rcases tokens with _ | ⟨⟨token, span⟩, rest⟩
  · rcases h with rfl | ⟨rfl, -⟩ <;> exact .stuck rfl rfl rfl
  · rcases h with rfl | ⟨rfl, hstar⟩
    · cases token with
      | relation r => exact .step rfl (.done rfl rfl)
      | _ => exact .stuck rfl rfl rfl
    · cases token with
      | relation r => exact .step rfl (.done rfl rfl)
      | star => exact absurd rfl hstar
      | _ => exact .stuck rfl rfl rfl

/-- Behind a right side an addend, a priority or the end may follow, but no star. -/
inductive EndsRight : RightSide × List Placed → Stage → Prop
  | value {v : Operand} {rest : List Placed} : nextKind rest ≠ .star →
      EndsRight (.value v, rest) .rightValue
  | term {t : Term} {rest : List Placed} : EndsRight (.term t, rest) .rightItem

theorem readScaled_advances (v : Operand) (tokens : List Placed) :
    Advances Prod.snd EndsRight .rightValue tokens (readScaled v tokens) := by
  rcases tokens with _ | ⟨⟨token, span⟩, rest⟩
  · exact .done rfl (.value (by decide))
  · cases token with
    | star =>
        have hobject := @readObject_advances .rightStar .rightItem (fun _ r => r = .rightItem)
          .right (fun _ => rfl) (some v) rest
        refine .step rfl (hobject.map ?_)
        rintro ⟨t, rest⟩ _ rfl
        exact ⟨rfl, .term⟩
    | _ => exact .done rfl (.value (by simp [nextKind, Token.kind]))

theorem readRightSide_advances (tokens : List Placed) :
    Advances Prod.snd EndsRight .right tokens (readRightSide tokens) := by
  rcases tokens with _ | ⟨⟨token, span⟩, rest⟩
  · exact .stuck rfl rfl rfl
  · cases token with
    | minus =>
        rcases rest with _ | ⟨⟨token, span⟩, rest⟩
        · exact .step rfl (.stuck rfl rfl rfl)
        · cases token with
          | number x => exact .step rfl (.step rfl (readScaled_advances _ rest))
          | _ => exact .step rfl (.stuck rfl rfl rfl)
    | number x => exact .step rfl (readScaled_advances _ rest)
    | identifier n => exact .step rfl (readScaled_advances _ rest)
    | dotted owner member => exact .step rfl (.done rfl .term)
    | _ => exact .stuck rfl rfl rfl

/-- Behind an addend, or where there is none, a priority or the end may follow. -/
inductive EndsConstant (second : RightSide) : Option Addend × List Placed → Stage → Prop
  | absent {rest : List Placed} {q : Stage} : EndsRight (second, rest) q →
      nextKind rest ≠ .plus → nextKind rest ≠ .minus → EndsConstant second (none, rest) q
  | given {a : Addend} {rest : List Placed} : EndsConstant second (some a, rest) .addend

theorem readAddend_advances {s : RightSide × List Placed} {q : Stage} (h : EndsRight s q) :
    Advances Prod.snd (EndsConstant s.1) q s.2 (readAddend s.2) := by
  obtain ⟨second, tokens⟩ := s
  have hnext : q.next .plus = some .sign ∧ q.next .minus = some .sign := by
    cases h <;> exact ⟨rfl, rfl⟩
  have hoperand : ∀ (sign : Sign) (rest : List Placed),
      Advances Prod.snd (EndsConstant second) .sign rest
        ((readOperand rest).map fun read => (some ⟨sign, read.1⟩, read.2)) := by
    intro sign rest
    refine (readOperand_advances .addend rest).map ?_
    rintro ⟨o, rest⟩ _ rfl
    exact ⟨rfl, .given⟩
  rcases tokens with _ | ⟨⟨token, span⟩, rest⟩
  · exact .done rfl (.absent h (by simp [nextKind]) (by simp [nextKind]))
  · cases token with
    | plus => exact .step hnext.1 (hoperand .plus rest)
    | minus => exact .step hnext.2 (hoperand .minus rest)
    | _ =>
        exact .done rfl
          (.absent h (by simp [nextKind, Token.kind]) (by simp [nextKind, Token.kind]))

/-- Behind a priority, or where there is none, only the end may follow. -/
inductive EndsPriority (second : RightSide) (constant : Option Addend) :
    Option Operand × List Placed → Stage → Prop
  | absent {rest : List Placed} {q : Stage} : EndsConstant second (constant, rest) q →
      nextKind rest ≠ .atSign → EndsPriority second constant (none, rest) q
  | given {o : Operand} {rest : List Placed} :
      EndsPriority second constant (some o, rest) .priority

theorem readPriority_advances {second : RightSide} {c : Option Addend × List Placed} {q : Stage}
    (h : EndsConstant second c q) :
    Advances Prod.snd (EndsPriority second c.1) q c.2 (readPriority c.2) := by
  obtain ⟨constant, tokens⟩ := c
  have hnext : q.next .atSign = some .atSign := by
    cases h with
    | absent hright _ _ => cases hright <;> rfl
    | given => rfl
  rcases tokens with _ | ⟨⟨token, span⟩, rest⟩
  · exact .done rfl (.absent h (by simp [nextKind]))
  · cases token with
    | atSign =>
        refine .step hnext ((readOperand_advances .priority rest).map ?_)
        rintro ⟨o, rest⟩ _ rfl
        exact ⟨rfl, .given⟩
    | _ => exact .done rfl (.absent h (by simp [nextKind, Token.kind]))

section EndsPriority

variable {second : RightSide} {constant : Option Addend} {p : Option Operand × List Placed}
  {q : Stage}

/-- What is named behind a whole statement is what is expected at its stage. -/
theorem EndsPriority.expected_eq (h : EndsPriority second constant p q) :
    continuations constant p.1 = q.expected := by
  cases h with
  | absent hconstant _ =>
      cases hconstant with
      | absent hright _ _ => cases hright <;> rfl
      | given => rfl
  | given => cases constant <;> rfl

/-- Behind a whole statement no token is left that leads on. -/
theorem EndsPriority.next_eq_none (h : EndsPriority second constant p q) {t : Placed}
    {rest : List Placed} (hrest : p.2 = t :: rest) : q.next t.token.kind = none := by
  obtain ⟨token, span⟩ := t
  cases h with
  | absent hconstant hat =>
      cases hrest
      cases hconstant with
      | absent hright hplus hminus =>
          cases hright with
          | value hstar =>
              cases token with
              | star => exact absurd rfl hstar
              | plus => exact absurd rfl hplus
              | minus => exact absurd rfl hminus
              | atSign => exact absurd rfl hat
              | _ => rfl
          | term =>
              cases token with
              | plus => exact absurd rfl hplus
              | minus => exact absurd rfl hminus
              | atSign => exact absurd rfl hat
              | _ => rfl
      | given =>
          cases token with
          | atSign => exact absurd rfl hat
          | _ => rfl
  | given => cases token <;> rfl

end EndsPriority

/-- A statement that was read is whole at its stage, which is that of a value on the right if it
ends with this value. -/
structure EndsStatement (s : Statement) (q : Stage) : Prop where
  whole : (q.next .endOfInput).isSome = true
  value_iff : q = .rightValue ↔ (∃ v, s.second = .value v) ∧ s.constant = none ∧ s.priority = none

theorem EndsPriority.endsStatement {first : Term} {relation : Relation} {second : RightSide}
    {constant : Option Addend} {p : Option Operand × List Placed} {q : Stage}
    (h : EndsPriority second constant p q) :
    EndsStatement ⟨first, relation, second, constant, p.1⟩ q := by
  cases h with
  | absent hconstant _ =>
      cases hconstant with
      | absent hright _ _ => cases hright <;> exact ⟨rfl, by simp⟩
      | given => exact ⟨rfl, by simp⟩
  | given => exact ⟨rfl, by simp⟩

/-- The whole reader, which leaves no token if it gives a statement. -/
theorem read_advances (tokens : List Placed) :
    Advances (fun _ => []) EndsStatement .start tokens (read tokens) := by
  refine (readTerm_advances tokens).bind fun first _ hfirst => ?_
  refine (readRelation_advances hfirst).bind fun relation _ hrelation => ?_
  rw [hrelation]
  refine (readRightSide_advances relation.2).bind fun second _ hsecond => ?_
  refine (readAddend_advances hsecond).bind fun constant _ hconstant => ?_
  refine (readPriority_advances hconstant).bind ?_
  rintro ⟨priority, rest⟩ q hpriority
  cases rest with
  | nil => exact .done rfl hpriority.endsStatement
  | cons t rest => exact .stuck rfl hpriority.expected_eq (hpriority.next_eq_none rfl)

/-! ## The automaton accepts the statements of the grammar -/

variable {used : List Placed}

theorem run_of_isStatement {s : Statement} (h : IsStatement used s) :
    ∃ q, Stage.start.run used = some q ∧ EndsStatement s q := by
  have hread := read_advances used
  rw [read_of_isStatement h] at hread
  obtain ⟨used', q, hused, hrun, hends⟩ := hread.run_of_ok
  rw [List.append_nil] at hused
  exact ⟨q, hused ▸ hrun, hends⟩

theorem isStatement_iff_run :
    (∃ s, IsStatement used s) ↔
      ∃ q, Stage.start.run used = some q ∧ (q.next .endOfInput).isSome = true := by
  constructor
  · rintro ⟨s, hs⟩
    obtain ⟨q, hrun, hends⟩ := run_of_isStatement hs
    exact ⟨q, hrun, hends.whole⟩
  · rintro ⟨q, hrun, hwhole⟩
    have hread := read_advances used
    cases hs : read used with
    | ok s => exact ⟨s, isStatement_of_read hs⟩
    | error st =>
        -- The reader would be stuck at a stage from which the run goes on to the end.
        rw [hs] at hread
        obtain ⟨used', r, hused, hrun', -, hnone⟩ := hread.run_of_error
        rw [hused, Stage.run_append, hrun', Option.bind_some] at hrun
        cases hrest : st.rest with
        | nil =>
            rw [hrest] at hrun hnone
            cases hrun
            rw [nextKind] at hnone
            simp [hnone] at hwhole
        | cons t rest =>
            rw [hrest] at hrun hnone
            rw [nextKind] at hnone
            simp [Stage.run, hnone] at hrun

/-- Tokens that begin some statement. -/
def Begins (used : List Placed) : Prop := ∃ more s, IsStatement (used ++ more) s

theorem begins_iff_run : Begins used ↔ ∃ q, Stage.start.run used = some q := by
  constructor
  · rintro ⟨more, hs⟩
    obtain ⟨q, hrun, -⟩ := isStatement_iff_run.mp hs
    rw [Stage.run_append] at hrun
    obtain ⟨r, hr, -⟩ := Option.bind_eq_some_iff.mp hrun
    exact ⟨r, hr⟩
  · rintro ⟨q, hrun⟩
    obtain ⟨q', hrun', hwhole⟩ := q.run_completion
    exact ⟨_, isStatement_iff_run.mpr
      ⟨q', by rw [Stage.run_append, hrun, Option.bind_some, hrun'], hwhole⟩⟩

end Statement

end LayoutLang
