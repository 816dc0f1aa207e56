import LayoutLang.Proofs.Constraint.Meaning
import LayoutLang.Proofs.Constraint.WellFormed
import LayoutLang.Proofs.Resolution.Checks
import LayoutLang.Proofs.Spacing

/-!
# Constraints before the left factor is divided out

The numbers of a constraint are those of the text.  Without a factor on the left each of them is
taken over as it is written, and the only rounding is that of the sum of a number on the right and
an addend (`Constraint.AsWritten`).  A factor on the left changes nothing but the two numbers that
it is divided out of, and the relation if it is negative (`Constraint.dividedBy`).

The two constraints that are compared come from two statements, of which one is the other without
its left factor.  It has a text too: the text of the other, cut behind the star.  With blanks of the
same length in front it is that statement to the last span, and with any blanks, or none, it
compiles to the same constraint (`left_factor_only_divides`).
-/

namespace LayoutLang

open Resolution (Failure)
open Statement (IsStatement)
open Text (byteLength)
open Token (IsGap scanFrom tokenize)

variable {View : Type}

/-! ## What is written, and what is left of it -/

/-- The statement without its left factor. -/
def Statement.unscaled (s : Statement) : Statement :=
  { s with first := { s.first with multiplier := none } }

/-- The constraint of a statement. -/
def Statement.solve (settings : Settings) (tables : Tables View) (s : Statement) :
    Except Failure (Constraint View) :=
  (s.resolve settings tables).map (Constraint.ofResolution settings)

/-- The number that stands on the right; none if a view stands there. -/
def RightSide.number? (tables : Tables View) : RightSide → Option Binary64
  | .term _ => none
  | .value (.name n) =>
    if (tables.views.find? n.text).isSome then none else tables.metrics.find? n.text
  | .value (.number x _) => some x

/-- The number that an addend adds. -/
def Addend.value? (metrics : Table Binary64) (a : Addend) : Option Binary64 :=
  (a.operand.value? metrics).map a.sign.apply

/-- The constant of the right side: the number, the addend, or their sum rounded once. -/
def Statement.writtenConstant (tables : Tables View) (s : Statement) : Binary64 :=
  match s.second.number? tables, s.constant.bind (Addend.value? tables.metrics) with
  | none, none => .zero false
  | none, some x => x
  | some v, none => v
  | some v, some x => .ofRat (v.toRat + x.toRat)

namespace Constraint

/-- The numbers of a constraint are those of a statement, what is missing being filled in. -/
structure AsWritten (settings : Settings) (tables : Tables View) (s : Statement)
    (c : Constraint View) : Prop where
  relation : c.relation = s.relation
  multiplier : ∀ o ∈ s.second.multiplier?, o.value? tables.metrics = some c.multiplier
  multiplier_default : s.second.multiplier? = none → c.multiplier = .one
  constant : c.constant.sameNumber (s.writtenConstant tables) = true
  priority : ∀ o ∈ s.priority, o.value? tables.metrics = some c.priority
  priority_default : s.priority = none → c.priority = settings.requiredPriority

/-- The constraint with both sides divided by a factor.  Without a second item there is nothing but
the constant to divide. -/
def dividedBy (k : Binary64) (c : Constraint View) : Constraint View :=
  { c with
    relation := if k < .zero false then c.relation.flip else c.relation
    multiplier := if c.secondView.isSome then c.multiplier / k else c.multiplier
    constant := c.constant / k }

/-- A constraint of a statement, and the one that the statement has without its left factor. -/
structure SolvedFrom (settings : Settings) (tables : Tables View) (s : Statement)
    (undivided c : Constraint View) : Prop where
  written : undivided.AsWritten settings tables s
  unscaled : s.first.multiplier = none → c = undivided
  scaled : ∀ o ∈ s.first.multiplier, ∃ k, o.value? tables.metrics = some k
    ∧ c = undivided.dividedBy k

end Constraint

/-! ## Without the left factor -/

variable {settings : Settings} {tables : Tables View} {s : Statement} {r : Resolution View}

def Resolution.unscaled (r : Resolution View) : Resolution View :=
  { r with first := { r.first with multiplier := none } }

/-- A left factor is needed for no check but its own. -/
theorem Statement.resolve_unscaled (h : s.resolve settings tables = .ok r) :
    s.unscaled.resolve settings tables = .ok r.unscaled := by
  obtain ⟨side, hfirst, -, hside, hconstant, -, hpriority, hrelation, hsecond⟩ :=
    resolve_eq_ok.mp h
  obtain ⟨hview, hpart, -⟩ := Term.resolve_eq_ok.mp hfirst
  have hunscaled : s.unscaled.first.resolve tables = .ok r.unscaled.first :=
    Term.resolve_eq_ok.mpr ⟨hview, hpart, .none⟩
  exact resolve_eq_ok.mpr ⟨side, hunscaled, checkFactor_of_none rfl, hside, hconstant,
    checkQuotients_of_none rfl, hpriority, hrelation, hsecond⟩

/-- What is built with a left factor is what is built without it, divided. -/
theorem Constraint.ofResolution_eq_dividedBy {k : Binary64} (hk : r.first.multiplier = some k) :
    ofResolution settings r = (ofResolution settings r.unscaled).dividedBy k := by
  have hmultiplier : r.solvedMultiplier
      = if (r.second.map (·.item.view)).isSome then r.unscaled.solvedMultiplier / k
        else r.unscaled.solvedMultiplier := by
    cases hsecond : r.second with
    | none =>
        have hunscaled : r.unscaled.solvedMultiplier = .one :=
          Resolution.solvedMultiplier_alone hsecond
        rw [Resolution.solvedMultiplier_alone hsecond, hunscaled]
        rfl
    | some i =>
        rw [Resolution.solvedMultiplier_divided hk hsecond, Resolution.solvedMultiplier_undivided rfl]
        show _ = (r.second.bind _).getD _ / k
        rw [hsecond]
        rfl
  have hconstant : r.solvedConstant = r.unscaled.solvedConstant / k := by
    rw [Resolution.solvedConstant_divided hk, Resolution.solvedConstant_undivided rfl]
    rfl
  have hrelation : r.solvedRelation
      = if k < .zero false then r.unscaled.solvedRelation.flip else r.unscaled.solvedRelation := by
    rw [Resolution.solvedRelation_divided hk, Resolution.solvedRelation_undivided rfl]
    rfl
  unfold dividedBy ofResolution
  rw [hmultiplier, hconstant, hrelation]
  rfl

/-! ## Numbers as they are written -/

theorem RightSide.factor_of_denotes {rs : RightSide} {side : ResolvedSide View}
    (h : rs.Denotes tables side) :
    Option.Rel (fun o k => o.value? tables.metrics = some k) rs.multiplier?
      (side.item?.bind (·.multiplier)) := by
  cases h with
  | @term t i hi =>
      have hfactor := (Term.resolve_eq_ok.mp hi).2.2
      show Option.Rel _ t.multiplier i.multiplier
      generalize t.multiplier = m, i.multiplier = k at hfactor ⊢
      cases hfactor with
      | none => exact .none
      | some hk => exact .some (Operand.resolve_eq_ok.mp hk).1
  | view => exact .none
  | value => exact .none

theorem RightSide.number_of_denotes {rs : RightSide} {side : ResolvedSide View}
    (h : rs.Denotes tables side) : side.constant? = rs.number? tables := by
  cases h with
  | term => rfl
  | view hview => simp [number?, hview, ResolvedSide.constant?]
  | @value o x hnone hx =>
      have hvalue := (Operand.resolve_eq_ok.mp hx).1
      cases o with
      | number y span => exact hvalue.symm
      | name n =>
          simp only [number?, hnone n rfl]
          exact hvalue.symm

theorem Addend.value_of_resolve {metrics : Table Binary64} {a : Addend} {x : Binary64}
    (h : a.resolve metrics = .ok x) : a.value? metrics = some x ∧ x.isFinite = true := by
  obtain ⟨y, hy, rfl⟩ := Outcome.map_eq_ok.mp h
  obtain ⟨hvalue, hfinite⟩ := Operand.resolve_eq_ok.mp hy
  rw [value?, hvalue]
  cases a.sign with
  | plus => exact ⟨rfl, hfinite⟩
  | minus => exact ⟨rfl, (Binary64.isFinite_neg y).trans hfinite⟩

theorem Statement.sameNumber_writtenConstant (h : s.resolve settings tables = .ok r) :
    (r.constant.getD (.zero false)).sameNumber (s.writtenConstant tables) = true := by
  obtain ⟨side, -, -, hside, hconstant, -, -, -, -⟩ := resolve_eq_ok.mp h
  have hbase := (RightSide.isFinite_of_denotes hside).2
  rw [RightSide.number_of_denotes hside] at hbase hconstant
  unfold writtenConstant
  generalize s.second.number? tables = base at hbase hconstant
  cases hc : s.constant with
  | none =>
      rw [hc] at hconstant
      rw [← resolveConstant_none.mp hconstant]
      cases base with
      | none => exact Binary64.sameNumber_refl rfl
      | some v => exact Binary64.sameNumber_refl (hbase v rfl)
  | some a =>
      rw [hc] at hconstant
      obtain ⟨x, hx, hsum, hr⟩ := resolveConstant_some.mp hconstant
      obtain ⟨hvalue, hfinite⟩ := Addend.value_of_resolve hx
      rw [← hr, Option.bind_some, hvalue]
      cases base with
      | none => exact Binary64.sameNumber_zero_add hfinite
      | some v => exact Binary64.sameNumber_add (hbase v rfl) hfinite hsum

/-- Without its left factor, a statement has a constraint with its numbers as they are written. -/
theorem Constraint.asWritten_ofResolution (h : s.resolve settings tables = .ok r) :
    (ofResolution settings r.unscaled).AsWritten settings tables s := by
  have hbuilt := builtFrom_ofResolution (Statement.resolve_unscaled h)
  obtain ⟨side, -, -, hside, -, -, -, hrelation, hsecond⟩ := Statement.resolve_eq_ok.mp h
  have hfactor := RightSide.factor_of_denotes hside
  rw [← hsecond] at hfactor
  have hundivided : r.unscaled.first.multiplier = none := rfl
  have hmultiplier : (ofResolution settings r.unscaled).multiplier
      = (r.second.bind (·.multiplier)).getD .one := Resolution.solvedMultiplier_undivided hundivided
  have hconstant : (ofResolution settings r.unscaled).constant = r.constant.getD (.zero false) :=
    Resolution.solvedConstant_undivided hundivided
  refine
    { relation := hrelation
      multiplier := ?_
      multiplier_default := ?_
      constant := ?_
      priority := fun o ho => (hbuilt.priority_given o ho).1
      priority_default := hbuilt.priority_default }
  · intro o ho
    rw [ho] at hfactor
    obtain ⟨k, hk, hvalue⟩ := optionRel_some_left hfactor
    rw [hmultiplier, hk]
    exact hvalue
  · intro hnone
    rw [hnone] at hfactor
    rw [hmultiplier, optionRel_none_left hfactor]
    rfl
  · rw [hconstant]
    exact Statement.sameNumber_writtenConstant h

/-! ## Texts without a left factor -/

theorem Statement.IsObject.unscaled {m : Option Operand} {os : List Token.Placed} {t : Term}
    (h : IsObject m os t) : IsObject none os { t with multiplier := none } := by
  cases h with
  | whole n span => exact .whole n span
  | dotted owner member span => exact .dotted owner member span

theorem Statement.IsObject.multiplier_eq {m : Option Operand} {os : List Token.Placed} {t : Term}
    (h : IsObject m os t) : t.multiplier = m := by
  cases h <;> rfl

/-- The tokens behind the left factor and its star are a statement too. -/
theorem Statement.IsStatement.exists_unscaled {tokens : List Token.Placed}
    (h : IsStatement tokens s) :
    ∃ used rest, tokens = used ++ rest ∧ IsStatement rest s.unscaled
      ∧ (s.first.multiplier = none → used = []) := by
  cases h with
  | mk relation span ht hr hc hp =>
      cases ht with
      | plain ho => exact ⟨[], _, rfl, .mk relation span (.plain ho.unscaled) hr hc hp, fun _ => rfl⟩
      | @scaled ms os m _ star hm ho =>
          refine ⟨ms ++ [⟨.star, star⟩], _, ?_, .mk relation span (.plain ho.unscaled) hr hc hp, ?_⟩
          · simp only [List.append_assoc, List.cons_append, List.nil_append]
          · intro hnone
            cases ho.multiplier_eq.symm.trans hnone

/-- Blanks over the left factor and its star, and the text is the statement without them. -/
theorem Statement.ofText_unscaled {text : String} (h : ofText text = .ok s) :
    ∃ front back, text.toList = front ++ back ∧ (s.first.multiplier = none → front = [])
      ∧ ∀ gap, IsGap gap → byteLength gap = byteLength front →
          ofText (.ofList (gap ++ back)) = .ok s.unscaled := by
  obtain ⟨tokens, htokens, hs⟩ := ofText_eq_ok.mp h
  obtain ⟨used, rest, rfl, hrest, hused⟩ := hs.exists_unscaled
  have hscan : scanFrom 0 text.toList = used.map .ok ++ rest.map .ok := by
    rw [← List.map_append]
    exact Outcome.mapM_id_eq_ok.mp htokens
  obtain ⟨front, back, htext, hback, hfront⟩ := Token.exists_front_of_scanFrom hscan
  refine ⟨front, back, htext, fun hnone => hfront (List.map_eq_nil_iff.mpr (hused hnone)), ?_⟩
  intro gap hgap hlength
  have hblanked : tokenize (.ofList (gap ++ back)) = .ok rest := by
    refine Outcome.mapM_id_eq_ok.mpr ?_
    rw [Token.scan, String.toList_ofList, Token.scanFrom_gap_append hgap, hlength, hback]
  exact ofText_eq_ok.mpr ⟨rest, hblanked, hrest⟩

/-! ## A left factor only divides -/

theorem Statement.exists_solvedFrom {c : Constraint View} (h : s.solve settings tables = .ok c) :
    ∃ c₀, s.unscaled.solve settings tables = .ok c₀
      ∧ Constraint.SolvedFrom settings tables s c₀ c := by
  obtain ⟨r, hr, rfl⟩ := Outcome.map_eq_ok.mp h
  obtain ⟨side, hfirst, -⟩ := resolve_eq_ok.mp hr
  have hfactor := (Term.resolve_eq_ok.mp hfirst).2.2
  refine ⟨_, Outcome.map_eq_ok.mpr ⟨_, resolve_unscaled hr, rfl⟩,
    Constraint.asWritten_ofResolution hr, ?_, ?_⟩
  · intro hnone
    rw [hnone] at hfactor
    rw [Resolution.unscaled, ← optionRel_none_left hfactor]
  · intro o ho
    rw [ho] at hfactor
    obtain ⟨k, hk, hresolve⟩ := optionRel_some_left hfactor
    exact ⟨k, (Operand.resolve_eq_ok.mp hresolve).1, Constraint.ofResolution_eq_dividedBy hk⟩

theorem compile_eq_ok_iff_solve {text : String} {c : Constraint View} :
    compile settings tables text = .ok c ↔
      ∃ s, Statement.ofText text = .ok s ∧ s.solve settings tables = .ok c := by
  simp only [compile_eq_ok, Statement.ofText_eq_ok, Statement.solve, Outcome.map_eq_ok]
  constructor
  · rintro ⟨tokens, s, r, htokens, hs, hr⟩
    exact ⟨s, ⟨tokens, htokens, hs⟩, r, hr⟩
  · rintro ⟨s, ⟨tokens, htokens, hs⟩, r, hr⟩
    exact ⟨tokens, s, r, htokens, hs, hr⟩

/-- A statement that has a constraint has one without its left factor too.  Its numbers are the
written ones, and the factor only divides it.  A text is cut behind the factor and its star, and
compiles to that constraint if they are taken away, or if blanks stand in their place. -/
theorem left_factor_only_divides (settings : Settings) (tables : Tables View) :
    (∀ s c, s.solve settings tables = .ok c → ∃ c₀, s.unscaled.solve settings tables = .ok c₀
        ∧ Constraint.SolvedFrom settings tables s c₀ c)
      ∧ ∀ text c, compile settings tables text = .ok c →
        ∃ s c₀ front back, Statement.ofText text = .ok s
          ∧ Constraint.SolvedFrom settings tables s c₀ c
          ∧ text.toList = front ++ back ∧ (s.first.multiplier = none → front = [])
          ∧ ∀ gap, IsGap gap → compile settings tables (.ofList (gap ++ back)) = .ok c₀
            ∧ (byteLength gap = byteLength front →
              Statement.ofText (.ofList (gap ++ back)) = .ok s.unscaled) := by
  refine ⟨fun s c h => Statement.exists_solvedFrom h, ?_⟩
  intro text c h
  obtain ⟨s, hs, hc⟩ := compile_eq_ok_iff_solve.mp h
  obtain ⟨c₀, hc₀, hsolved⟩ := Statement.exists_solvedFrom hc
  obtain ⟨front, back, htext, hfront, hblanked⟩ := Statement.ofText_unscaled hs
  refine ⟨s, c₀, front, back, hs, hsolved, htext, hfront, fun gap hgap => ⟨?_, hblanked gap hgap⟩⟩
  -- Blanks of the length of the factor leave every place as it is; other gaps compile to the same.
  obtain ⟨blanks, hblanks, hlength⟩ := Token.exists_gap (byteLength front)
  have hcompile := compile_eq_ok_iff_solve.mpr ⟨_, hblanked blanks hblanks hlength, hc₀⟩
  have hwords : ∀ {gap}, IsGap gap →
      Token.Spaced (Token.wordsOf back) (String.ofList (gap ++ back)).toList := by
    intro gap hgap
    rw [String.toList_ofList, Token.spaced_gap_append hgap]
    exact Token.spaced_iff.mpr rfl
  exact compile_eq_ok_of_spaced (hwords hblanks) (hwords hgap) hcompile

open Statement (negatedStatement negatedTables)

/-- The text of `negatedStatement`. -/
def negatedText : String := "k * v.width <= 3 * s.width - gap"

/-- Its constraint, where `k` is -2 and `gap` is 10. -/
def negatedConstraint : Constraint Nat where
  first := ⟨0, .width⟩
  relation := .greaterOrEqual
  secondView := some 1
  secondPart := .width
  multiplier := .ofRat (-3 / 2)
  constant := .ofInt 5
  priority := .ofInt 1000

theorem left_factor_only_divides_negated :
    negatedStatement.solve {} negatedTables = .ok negatedConstraint
      ∧ compile {} negatedTables negatedText = .ok negatedConstraint
      ∧ (∃ c₀, negatedStatement.unscaled.solve {} negatedTables = .ok c₀
        ∧ Constraint.SolvedFrom {} negatedTables negatedStatement c₀ negatedConstraint)
      ∧ ∃ s c₀ front back, Statement.ofText negatedText = .ok s
        ∧ Constraint.SolvedFrom {} negatedTables s c₀ negatedConstraint
        ∧ negatedText.toList = front ++ back ∧ (s.first.multiplier = none → front = [])
        ∧ ∀ gap, IsGap gap → compile {} negatedTables (.ofList (gap ++ back)) = .ok c₀
          ∧ (byteLength gap = byteLength front →
            Statement.ofText (.ofList (gap ++ back)) = .ok s.unscaled) := by
  have hsolve : negatedStatement.solve {} negatedTables = .ok negatedConstraint := by
    decide +kernel
  have hcompile : compile {} negatedTables negatedText = .ok negatedConstraint := by
    decide +kernel
  obtain ⟨hstatements, htexts⟩ := left_factor_only_divides {} negatedTables
  exact ⟨hsolve, hcompile, hstatements _ _ hsolve, htexts _ _ hcompile⟩

end LayoutLang
