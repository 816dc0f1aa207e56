import LayoutLang.Proofs.Statement.Stage
import LayoutLang.Proofs.Token.Spelling

/-!
# Statements without places

`unplaced` forgets where the parts of a statement were read.  The same tokens at other places are
then the same statement, since the grammar looks at no span; and where they are none, the same error
is reported, but for its position, since the automaton looks at kinds alone.
-/

namespace LayoutLang

open Token (Placed)

/-! ## Forgetting the places -/

def Name.unplaced (n : Name) : Name := ⟨n.text, default⟩

def Operand.unplaced : Operand → Operand
  | .number x _ => .number x default
  | .name n => .name n.unplaced

def Term.unplaced (t : Term) : Term :=
  ⟨t.multiplier.map Operand.unplaced, t.object.unplaced, t.part.map Name.unplaced⟩

def RightSide.unplaced : RightSide → RightSide
  | .term t => .term t.unplaced
  | .value o => .value o.unplaced

def Addend.unplaced (a : Addend) : Addend := ⟨a.sign, a.operand.unplaced⟩

def SyntaxError.unplaced (e : SyntaxError) : SyntaxError := ⟨0, e.expected, e.found⟩

namespace Statement

def unplaced (s : Statement) : Statement :=
  ⟨s.first.unplaced, s.relation, s.second.unplaced, s.constant.map Addend.unplaced,
    s.priority.map Operand.unplaced⟩

/-! ## Derivations from the same tokens at other places -/

variable {ts us : List Placed}

theorem IsOperand.replaced {o : Operand} (h : IsOperand ts o)
    (hus : us.map (·.token) = ts.map (·.token)) :
    ∃ o', IsOperand us o' ∧ o'.unplaced = o.unplaced := by
  cases h with
  | number x span =>
      obtain ⟨span', rfl⟩ := Token.exists_placed_single hus
      exact ⟨_, .number x span', rfl⟩
  | name n span =>
      obtain ⟨span', rfl⟩ := Token.exists_placed_single hus
      exact ⟨_, .name n span', rfl⟩

theorem IsObject.replaced {m m' : Option Operand} {t : Term} (h : IsObject m ts t)
    (hm : m'.map Operand.unplaced = m.map Operand.unplaced)
    (hus : us.map (·.token) = ts.map (·.token)) :
    ∃ t', IsObject m' us t' ∧ t'.unplaced = t.unplaced := by
  cases h with
  | whole n span =>
      obtain ⟨span', rfl⟩ := Token.exists_placed_single hus
      exact ⟨_, .whole n span', by rw [Term.unplaced, hm]; rfl⟩
  | dotted owner member span =>
      obtain ⟨span', rfl⟩ := Token.exists_placed_single hus
      exact ⟨_, .dotted owner member span', by rw [Term.unplaced, hm]; rfl⟩

theorem IsTerm.replaced {t : Term} (h : IsTerm ts t) (hus : us.map (·.token) = ts.map (·.token)) :
    ∃ t', IsTerm us t' ∧ t'.unplaced = t.unplaced := by
  cases h with
  | plain hobject =>
      obtain ⟨t', hobject', ht'⟩ := hobject.replaced rfl hus
      exact ⟨t', .plain hobject', ht'⟩
  | @scaled ms os m t star hfactor hobject =>
      rw [List.map_append] at hus
      obtain ⟨ms', rest, rfl, hms, hrest⟩ := List.map_eq_append_iff.mp hus
      obtain ⟨star', os', rfl, hos⟩ := Token.exists_placed hrest
      obtain ⟨m', hfactor', hm'⟩ := hfactor.replaced hms
      have hfactors : (some m').map Operand.unplaced = (some m).map Operand.unplaced :=
        congrArg some hm'
      obtain ⟨t', hobject', ht'⟩ := hobject.replaced hfactors hos
      exact ⟨t', .scaled star' hfactor' hobject', ht'⟩

theorem IsValue.replaced {v : Operand} (h : IsValue ts v)
    (hus : us.map (·.token) = ts.map (·.token)) :
    ∃ v', IsValue us v' ∧ v'.unplaced = v.unplaced := by
  cases h with
  | number x span =>
      obtain ⟨span', rfl⟩ := Token.exists_placed_single hus
      exact ⟨_, .number x span', rfl⟩
  | negated x sign span =>
      obtain ⟨sign', rest, rfl, hrest⟩ := Token.exists_placed hus
      obtain ⟨span', rfl⟩ := Token.exists_placed_single hrest
      exact ⟨_, .negated x sign' span', rfl⟩
  | name n span =>
      obtain ⟨span', rfl⟩ := Token.exists_placed_single hus
      exact ⟨_, .name n span', rfl⟩

theorem IsRightSide.replaced {rs : RightSide} (h : IsRightSide ts rs)
    (hus : us.map (·.token) = ts.map (·.token)) :
    ∃ rs', IsRightSide us rs' ∧ rs'.unplaced = rs.unplaced := by
  cases h with
  | dotted hobject =>
      obtain ⟨t', hobject', ht'⟩ := hobject.replaced rfl hus
      obtain ⟨span', rfl⟩ := Token.exists_placed_single hus
      exact ⟨.term t', .dotted hobject', congrArg RightSide.term ht'⟩
  | value hvalue =>
      obtain ⟨v', hvalue', hv'⟩ := hvalue.replaced hus
      exact ⟨.value v', .value hvalue', congrArg RightSide.value hv'⟩
  | @scaled vs os v t star hvalue hobject =>
      rw [List.map_append] at hus
      obtain ⟨vs', rest, rfl, hvs, hrest⟩ := List.map_eq_append_iff.mp hus
      obtain ⟨star', os', rfl, hos⟩ := Token.exists_placed hrest
      obtain ⟨v', hvalue', hv'⟩ := hvalue.replaced hvs
      have hfactors : (some v').map Operand.unplaced = (some v).map Operand.unplaced :=
        congrArg some hv'
      obtain ⟨t', hobject', ht'⟩ := hobject.replaced hfactors hos
      exact ⟨.term t', .scaled star' hvalue' hobject', congrArg RightSide.term ht'⟩

theorem IsAddend.replaced {a : Option Addend} (h : IsAddend ts a)
    (hus : us.map (·.token) = ts.map (·.token)) :
    ∃ a', IsAddend us a' ∧ a'.map Addend.unplaced = a.map Addend.unplaced := by
  cases h with
  | none =>
      obtain rfl := List.map_eq_nil_iff.mp hus
      exact ⟨_, .none, rfl⟩
  | plus sign hoperand =>
      obtain ⟨sign', os', rfl, hos⟩ := Token.exists_placed hus
      obtain ⟨o', hoperand', ho'⟩ := hoperand.replaced hos
      exact ⟨_, .plus sign' hoperand', by simp [Addend.unplaced, ho']⟩
  | minus sign hoperand =>
      obtain ⟨sign', os', rfl, hos⟩ := Token.exists_placed hus
      obtain ⟨o', hoperand', ho'⟩ := hoperand.replaced hos
      exact ⟨_, .minus sign' hoperand', by simp [Addend.unplaced, ho']⟩

theorem IsPriority.replaced {p : Option Operand} (h : IsPriority ts p)
    (hus : us.map (·.token) = ts.map (·.token)) :
    ∃ p', IsPriority us p' ∧ p'.map Operand.unplaced = p.map Operand.unplaced := by
  cases h with
  | none =>
      obtain rfl := List.map_eq_nil_iff.mp hus
      exact ⟨_, .none, rfl⟩
  | given sign hoperand =>
      obtain ⟨sign', os', rfl, hos⟩ := Token.exists_placed hus
      obtain ⟨o', hoperand', ho'⟩ := hoperand.replaced hos
      exact ⟨_, .given sign' hoperand', congrArg some ho'⟩

/-- The same tokens at other places are the same statement, but for its places. -/
theorem IsStatement.replaced {s : Statement} (h : IsStatement ts s)
    (hus : us.map (·.token) = ts.map (·.token)) :
    ∃ s', IsStatement us s' ∧ s'.unplaced = s.unplaced := by
  cases h with
  | mk relation span hterm hright haddend hpriority =>
      rw [List.map_append] at hus
      obtain ⟨ts', behindTerm, rfl, hts', hbehindTerm⟩ := List.map_eq_append_iff.mp hus
      obtain ⟨span', behindRelation, rfl, hbehindRelation⟩ := Token.exists_placed hbehindTerm
      rw [List.map_append, List.map_append] at hbehindRelation
      obtain ⟨rs', behindRight, rfl, hrs', hbehindRight⟩ :=
        List.map_eq_append_iff.mp hbehindRelation
      obtain ⟨cs', ps', rfl, hcs', hps'⟩ := List.map_eq_append_iff.mp hbehindRight
      obtain ⟨first, hterm', hfirst⟩ := hterm.replaced hts'
      obtain ⟨second, hright', hsecond⟩ := hright.replaced hrs'
      obtain ⟨constant, haddend', hconstant⟩ := haddend.replaced hcs'
      obtain ⟨priority, hpriority', hp⟩ := hpriority.replaced hps'
      refine ⟨_, .mk relation span' hterm' hright' haddend' hpriority', ?_⟩
      simp only [unplaced, hfirst, hsecond, hconstant, hp]

/-! ## Errors from the same tokens at other places -/

/-- What is expected and what is found are read off the kinds of the tokens. -/
theorem exists_halt_of_error {e : SyntaxError} (h : ofTokens ts = .error e) :
    ∃ q, Stage.start.halt (ts.map (·.token.kind)) = (q, e.found) ∧ e.expected = q.expected := by
  obtain ⟨st, hst, rfl⟩ := Outcome.mapError_eq_error.mp h
  have hread := read_advances ts
  rw [hst] at hread
  obtain ⟨q, hhalt, hexpected⟩ := hread.halt_of_error
  obtain ⟨expected, rest⟩ := st
  cases rest <;> exact ⟨q, hhalt, hexpected⟩

/-- Tokens that are no statement are none at other places, for the same reason. -/
theorem ofTokens_error_replaced {e : SyntaxError} (h : ofTokens ts = .error e)
    (hus : us.map (·.token) = ts.map (·.token)) :
    ∃ e', ofTokens us = .error e' ∧ e'.unplaced = e.unplaced := by
  cases hread : ofTokens us with
  | ok s =>
      obtain ⟨s', hs', -⟩ := (ofTokens_eq_ok.mp hread).replaced hus.symm
      cases h.symm.trans (ofTokens_eq_ok.mpr hs')
  | error e' =>
      have hkinds : us.map (·.token.kind) = ts.map (·.token.kind) := by
        have hkinds := congrArg (List.map Token.kind) hus
        rw [List.map_map, List.map_map] at hkinds
        exact hkinds
      obtain ⟨q, hhalt, hexpected⟩ := exists_halt_of_error h
      obtain ⟨q', hhalt', hexpected'⟩ := exists_halt_of_error hread
      rw [hkinds, hhalt] at hhalt'
      obtain ⟨rfl, hfound⟩ := Prod.mk.inj hhalt'
      refine ⟨e', rfl, ?_⟩
      rw [SyntaxError.unplaced, SyntaxError.unplaced, hexpected, hexpected', hfound]

end Statement

end LayoutLang
