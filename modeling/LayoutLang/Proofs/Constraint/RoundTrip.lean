import LayoutLang.Proofs.Constraint.Canonical

/-!
# A constraint is read back from its canonical text

The canonical text of a well-formed constraint compiles to the same constraint, whatever metrics
there are: the text names no metric, since a bare name on the right is looked up among the views
first.  Lexing is settled by the tokens of the canonical text.  What is left is that these tokens
derive a statement and that the statement is resolved to the constraint.  Each piece of the text is
taken by itself: an object, a number on the right, a number behind a sign, the scaled item, the
addend.

The constraint that is read back may differ from the first one in the sign of a zero constant, which
the text leaves out behind an item.  So the two are the same number by number, and have the same
text.
-/

namespace LayoutLang

open Statement (IsObject IsOperand IsValue IsTerm IsRightSide IsAddend IsPriority IsStatement)
open Token (Placed)

variable {View : Type} {settings : Settings} {tables : Tables View} {metrics : Table Binary64}
variable {ts : List Placed} {c : Constraint View}

/-! ## Constraints with other numbers -/

namespace Constraint

/-- What is built from a right side and a constant, next to the rest of a constraint. -/
def withRight (settings : Settings) (c : Constraint View) (second : Option (ScaledItem View))
    (constant : Option Binary64) : Constraint View :=
  ofResolution settings ⟨⟨none, c.first⟩, c.relation, second, constant, some c.priority⟩

theorem withRight_item {v : View} (hsecond : c.secondView = some v) {m k : Option Binary64} :
    withRight settings c (some ⟨m, ⟨v, c.secondPart⟩⟩) k
      = { c with multiplier := m.getD .one, constant := k.getD (.zero false) } := by
  obtain ⟨first, relation, secondView, secondPart, multiplier, constant, priority⟩ := c
  cases hsecond
  rfl

theorem withRight_none (hsecond : c.secondView = none) (hpart : c.secondPart = .notAnAttribute)
    {k : Option Binary64} :
    withRight settings c none k
      = { c with multiplier := .one, constant := k.getD (.zero false) } := by
  obtain ⟨first, relation, secondView, secondPart, multiplier, constant, priority⟩ := c
  cases hsecond
  cases hpart
  rfl

/-- Constraints that differ in numbers only are the same if these are the same. -/
theorem same_with [DecidableEq View] {m k : Binary64} (hm : m.sameNumber c.multiplier = true)
    (hk : k.sameNumber c.constant = true) (hp : c.priority.sameNumber c.priority = true) :
    same { c with multiplier := m, constant := k } c = true := by
  simp [same, hm, hk, hp]

end Constraint

variable [ToString View]

/-! ## Objects and numbers -/

/-- The token of an item is an object: the view and the attribute of the item. -/
theorem Item.exists_object (i : Item View) (m : Option Operand)
    (hts : ts.map (·.token) = [i.token]) :
    ∃ t, IsObject m ts t ∧ t.multiplier = m ∧ t.object.text = toString i.view
      ∧ t.attribute? = some i.part := by
  obtain ⟨span, rfl⟩ := Token.exists_placed_single hts
  obtain ⟨view, part⟩ := i
  have hdotted : ∀ a : Attribute, ∃ t,
      IsObject m [⟨.dotted (toString view) a.name, span⟩] t ∧ t.multiplier = m
        ∧ t.object.text = toString view ∧ t.attribute? = some a := by
    intro a
    exact ⟨_, .dotted _ _ span, rfl, rfl, Attribute.ofName?_name a⟩
  cases part with
  | notAnAttribute => exact ⟨_, .whole _ span, rfl, rfl, rfl⟩
  | _ => exact hdotted _

/-- Such an object is resolved to the item if the view is in the table under its name. -/
theorem Item.resolve_object {i : Item View} {t : Term} {k : Option Binary64}
    (hview : tables.views.find? (toString i.view) = some i.view)
    (hobject : t.object.text = toString i.view) (hpart : t.attribute? = some i.part)
    (hfactor : Option.Rel (fun o k => o.resolve tables.metrics = .ok k) t.multiplier k) :
    t.resolve tables = .ok ⟨k, i⟩ :=
  Term.resolve_eq_ok.mpr ⟨by rw [hobject, hview], hpart, hfactor⟩

namespace Binary64

variable {x : Binary64}

theorem resolve_number (hx : x.isFinite = true) (span : Span) :
    (Operand.number x span).resolve metrics = .ok x :=
  Operand.resolve_eq_ok.mpr ⟨rfl, hx⟩

/-- On the right, a minus sign belongs to the number. -/
theorem exists_value (hx : x.isFinite = true) (hts : ts.map (·.token) = x.tokens) :
    ∃ span, IsValue ts (.number x span) := by
  obtain ⟨negative, rank, rfl⟩ := isFinite_iff.mp hx
  cases negative with
  | false =>
      obtain ⟨span, rfl⟩ := Token.exists_placed_single hts
      exact ⟨span, .number _ span⟩
  | true =>
      obtain ⟨sign, rest, rfl, hrest⟩ := Token.exists_placed hts
      obtain ⟨span, rfl⟩ := Token.exists_placed_single hrest
      exact ⟨_, .negated _ sign span⟩

/-- Elsewhere there is no sign, and a positive number needs none. -/
theorem exists_operand (hx : x.isFinite = true) (hpos : zero false < x)
    (hts : ts.map (·.token) = x.tokens) : ∃ span, IsOperand ts (.number x span) := by
  obtain ⟨negative, rank, rfl⟩ := isFinite_iff.mp hx
  cases negative with
  | false =>
      obtain ⟨span, rfl⟩ := Token.exists_placed_single hts
      exact ⟨span, .number _ span⟩
  | true =>
      have hlt := (zero_lt_iff rfl).mp hpos
      exact absurd hlt (not_lt.mpr (neg_nonpos.mpr (magnitude_nonneg rank)))

end Binary64

namespace Constraint

/-! ## The right side -/

/-- An item without factor.  Alone it is a bare name, which is a view before it is a metric. -/
theorem exists_unscaled {i : Item View}
    (hview : tables.views.find? (toString i.view) = some i.view)
    (hts : ts.map (·.token) = [i.token]) :
    ∃ second, IsRightSide ts second ∧ second.Denotes tables (.item ⟨none, i⟩) := by
  obtain ⟨t, hobject, hmultiplier, hname, hpart⟩ := i.exists_object none hts
  have hresolve : t.resolve tables = .ok ⟨none, i⟩ :=
    Item.resolve_object hview hname hpart (hmultiplier ▸ .none)
  obtain ⟨view, part⟩ := i
  cases hobject with
  | whole n span =>
      obtain rfl : Attribute.notAnAttribute = part := Option.some.inj hpart
      obtain rfl : n = toString view := hname
      exact ⟨_, .value (.name _ span), .view hview⟩
  | dotted owner member span => exact ⟨_, .dotted (.dotted owner member span), .term hresolve⟩

/-- The item on the right with its factor.  The factor is 1 if it was left out. -/
theorem exists_scaled {i : Item View} {m : Binary64} (hm : m.isFinite = true)
    (hview : tables.views.find? (toString i.view) = some i.view)
    (hts : ts.map (·.token) = multiplierTokens m ++ [i.token]) :
    ∃ second k, IsRightSide ts second ∧ second.Denotes tables (.item ⟨k, i⟩)
      ∧ (k.getD .one).sameNumber m = true
      ∧ multiplierText (k.getD .one) = multiplierText m := by
  unfold multiplierTokens at hts
  split at hts
  · next hone =>
    obtain ⟨second, hside, hdenotes⟩ := exists_unscaled hview hts
    refine ⟨second, none, hside, hdenotes, ?_, ?_⟩
    · rw [Option.getD_none, Binary64.sameNumber_comm]
      exact hone
    · rw [Option.getD_none, multiplierText, multiplierText, if_pos hone]
      rfl
  · obtain ⟨_, os, rfl, hscale, hos⟩ := List.map_eq_append_iff.mp hts
    obtain ⟨vs, _, rfl, hvs, hstar⟩ := List.map_eq_append_iff.mp hscale
    obtain ⟨star, rfl⟩ := Token.exists_placed_single hstar
    obtain ⟨span, hvalue⟩ := Binary64.exists_value hm hvs
    obtain ⟨t, hobject, hmultiplier, hname, hpart⟩ := i.exists_object (some (.number m span)) hos
    have hfactor : Option.Rel (fun o k => o.resolve tables.metrics = .ok k) t.multiplier (some m) :=
      hmultiplier ▸ .some (Binary64.resolve_number hm span)
    refine ⟨.term t, some m, ?_, .term (Item.resolve_object hview hname hpart hfactor), ?_, rfl⟩
    · rw [List.append_assoc]
      exact .scaled star hvalue hobject
    · exact Binary64.sameNumber_refl hm

/-- An addend alone is the constant, unless it is 0. -/
theorem resolveConstant_of_addend {x : Binary64} (hx : x.isFinite = true) (hne : x.toRat ≠ 0)
    {a : Addend} (ha : a.resolve metrics = .ok x) :
    Statement.resolveConstant metrics none (some a) = .ok (some x) := by
  have hsum : Option.getD none (.zero false) + x = x :=
    (Binary64.zero_add_eq hx).trans (if_neg hne)
  refine Statement.resolveConstant_some.mpr ⟨x, ha, ?_, ?_⟩
  · rw [hsum]
    exact hx
  · rw [hsum]

/-- The addend gives the constant, whose sign is that of the addend.  No addend is a constant of
0. -/
theorem exists_addend {x : Binary64} (hx : x.isFinite = true)
    (hts : ts.map (·.token) = constantTokens x) :
    ∃ a k, IsAddend ts a ∧ Statement.resolveConstant metrics none a = .ok k
      ∧ (k.getD (.zero false)).sameNumber x = true
      ∧ constantText (k.getD (.zero false)) = constantText x := by
  have hsame := Binary64.sameNumber_refl hx
  unfold constantTokens at hts
  split at hts
  · next hpos =>
    obtain ⟨sign, rest, rfl, hrest⟩ := Token.exists_placed hts
    obtain ⟨span, hoperand⟩ := Binary64.exists_operand hx hpos hrest
    have hne : x.toRat ≠ 0 := ((Binary64.zero_lt_iff hx).mp hpos).ne'
    have haddend : (Addend.mk .plus (.number x span)).resolve metrics = .ok x :=
      Outcome.map_eq_ok.mpr ⟨x, Binary64.resolve_number hx span, rfl⟩
    exact ⟨_, some x, .plus sign hoperand, resolveConstant_of_addend hx hne haddend, hsame, rfl⟩
  · next hnotpos =>
    split at hts
    · next hneg =>
      obtain ⟨sign, rest, rfl, hrest⟩ := Token.exists_placed hts
      have hlt := (Binary64.lt_zero_iff hx).mp hneg
      have hfinite : (-x).isFinite = true := (Binary64.isFinite_neg x).trans hx
      have hpos : Binary64.zero false < -x := by
        rw [Binary64.zero_lt_iff hfinite, Binary64.toRat_neg]
        exact neg_pos.mpr hlt
      obtain ⟨span, hoperand⟩ := Binary64.exists_operand hfinite hpos hrest
      have haddend : (Addend.mk .minus (.number (-x) span)).resolve metrics = .ok x :=
        Outcome.map_eq_ok.mpr ⟨-x, Binary64.resolve_number hfinite span, Binary64.neg_neg_eq x⟩
      exact ⟨_, some x, .minus sign hoperand, resolveConstant_of_addend hx hlt.ne haddend,
        hsame, rfl⟩
    · next hnotneg =>
      obtain rfl := List.map_eq_nil_iff.mp hts
      refine ⟨none, none, .none, rfl, ?_, ?_⟩
      · rw [Option.getD_none, Binary64.sameNumber_comm, Binary64.sameNumber_zero_iff hx]
        rw [Binary64.zero_lt_iff hx, not_lt] at hnotpos
        rw [Binary64.lt_zero_iff hx, not_lt] at hnotneg
        exact le_antisymm hnotpos hnotneg
      · rw [Option.getD_none, constantText, constantText, if_neg hnotpos, if_neg hnotneg]
        rfl

/-! ## The whole text -/

/-- The tokens behind the relation, up to the priority, give the right side of the constraint. -/
theorem exists_right [DecidableEq View] (h : c.WellFormed settings)
    (hview : ∀ v ∈ c.secondView, tables.views.find? (toString v) = some v)
    (hts : ts.map (·.token) = c.rightTokens) :
    ∃ rs cs second a side k, ts = rs ++ cs ∧ IsRightSide rs second ∧ IsAddend cs a
      ∧ second.Denotes tables side
      ∧ Statement.resolveConstant tables.metrics side.constant? a = .ok k
      ∧ (withRight settings c side.item? k).same c = true
      ∧ (withRight settings c side.item? k).text = c.text := by
  have hpriority := Binary64.sameNumber_refl h.priority_finite
  unfold rightTokens at hts
  cases hsecond : c.secondView with
  | some v =>
      rw [hsecond] at hts
      obtain ⟨rs, cs, rfl, hrs, hcs⟩ := List.map_eq_append_iff.mp
        (hts.trans (List.append_cons _ _ _))
      obtain ⟨second, m, hside, hdenotes, hm, hmtext⟩ :=
        exists_scaled (i := ⟨v, c.secondPart⟩) h.multiplier_finite (hview v hsecond) hrs
      obtain ⟨a, k, haddend, hconstant, hk, hktext⟩ := exists_addend h.constant_finite hcs
      refine ⟨rs, cs, second, a, _, k, rfl, hside, haddend, hdenotes, hconstant, ?_, ?_⟩
      · exact (congrArg (same · c) (withRight_item hsecond)).trans (same_with hm hk hpriority)
      · refine (congrArg text (withRight_item hsecond)).trans ?_
        simp [text, rightText, hsecond, hmtext, hktext]
  | none =>
      rw [hsecond] at hts
      obtain ⟨hpart, hone⟩ := h.alone hsecond
      obtain ⟨span, hvalue⟩ := Binary64.exists_value h.constant_finite hts
      have hdenotes : (RightSide.value (.number c.constant span)).Denotes tables
          (.constant c.constant) := by
        refine .value ?_ (Binary64.resolve_number h.constant_finite span)
        intro n hn
        cases hn
      have hmultiplier : Binary64.one.sameNumber c.multiplier = true :=
        (Binary64.sameNumber_comm _ _).trans hone
      have hconstant := Binary64.sameNumber_refl h.constant_finite
      refine ⟨ts, [], _, none, _, some c.constant, (List.append_nil _).symm, .value hvalue, .none,
        hdenotes, rfl, ?_, ?_⟩
      · exact (congrArg (same · c) (withRight_none hsecond hpart)).trans
          (same_with hmultiplier hconstant hpriority)
      · refine (congrArg text (withRight_none hsecond hpart)).trans ?_
        simp [text, rightText, hsecond]

/-- The canonical text of a well-formed constraint compiles to the constraint. -/
theorem compile_text [DecidableEq View] (h : c.WellFormed settings)
    (hfirst : tables.views.find? (toString c.first.view) = some c.first.view)
    (hview : ∀ v ∈ c.secondView, tables.views.find? (toString v) = some v) :
    ∃ d, compile settings tables c.text = .ok d ∧ d.same c = true ∧ d.text = c.text := by
  obtain ⟨placed, htokenize, hplaced⟩ := tokenize_text h
  -- The pieces of the text, from left to right.
  obtain ⟨span, _, rfl, hafterFirst⟩ := Token.exists_placed hplaced
  obtain ⟨relationSpan, _, rfl, hafterRelation⟩ := Token.exists_placed hafterFirst
  obtain ⟨right, _, rfl, hright, hafterRight⟩ := List.map_eq_append_iff.mp hafterRelation
  obtain ⟨sign, os, rfl, hos⟩ := Token.exists_placed hafterRight
  have htoken : [(⟨c.first.token, span⟩ : Placed)].map (·.token) = [c.first.token] := rfl
  obtain ⟨t, hobject, hmultiplier, hname, hpart⟩ := c.first.exists_object none htoken
  have hleft : t.resolve tables = .ok ⟨none, c.first⟩ :=
    Item.resolve_object hfirst hname hpart (hmultiplier ▸ .none)
  obtain ⟨rs, cs, second, a, side, k, rfl, hside, haddend, hdenotes, hconstant, hsame, htext⟩ :=
    exists_right h hview hright
  obtain ⟨prioritySpan, hoperand⟩ :=
    Binary64.exists_operand h.priority_finite h.priority_pos hos
  -- They are a statement, and it is resolved.
  have hstatement := IsStatement.mk c.relation relationSpan (.plain hobject) hside haddend
    (.given sign hoperand)
  have hpriority : Statement.resolvePriority settings tables.metrics
      (some (.number c.priority prioritySpan)) = .ok (some c.priority) :=
    Statement.resolvePriority_some.mpr ⟨c.priority,
      Binary64.resolve_number h.priority_finite prioritySpan, ⟨h.priority_pos, h.priority_le⟩, rfl⟩
  have hresolve : (Statement.mk t c.relation second a
        (some (.number c.priority prioritySpan))).resolve settings tables
      = .ok ⟨⟨none, c.first⟩, c.relation, side.item?, k, some c.priority⟩ :=
    Statement.resolve_eq_ok.mpr ⟨side, hleft, Statement.checkFactor_of_none rfl, hdenotes,
      hconstant, Statement.checkQuotients_of_none rfl, hpriority, rfl, rfl⟩
  rw [List.append_assoc] at htokenize
  exact ⟨withRight settings c side.item? k,
    compile_eq_ok.mpr ⟨_, _, _, htokenize, hstatement, hresolve, rfl⟩, hsame, htext⟩

/-- A well-formed constraint is read back from its canonical text, with any metrics, as the same
constraint with the same text.  So is everything that was compiled with views that have the names
that they are written with. -/
theorem canonical_round_trip [DecidableEq View] (settings : Settings) :
    (∀ (c : Constraint View) (tables : Tables View), c.WellFormed settings →
      tables.views.find? (toString c.first.view) = some c.first.view →
      (∀ v ∈ c.secondView, tables.views.find? (toString v) = some v) →
      ∃ d, compile settings tables c.text = .ok d ∧ d.same c = true ∧ d.text = c.text)
    ∧ ∀ (tables : Tables View) (text : String) (c : Constraint View), tables.views.SelfNamed →
        settings.requiredPriority.isFinite = true → .zero false < settings.requiredPriority →
        compile settings tables text = .ok c →
        ∀ metrics, ∃ d, compile settings ⟨tables.views, metrics⟩ c.text = .ok d
          ∧ d.same c = true ∧ d.text = c.text := by
  refine ⟨fun c tables => compile_text, ?_⟩
  intro tables text c hnamed hrequired hpos hcompile metrics
  obtain ⟨hformed, hfirst, hsecond⟩ := wellFormed_of_compile hnamed hrequired hpos hcompile
  exact compile_text hformed hfirst hsecond

/-- The constraint `v.width >= -0.5 * s - 7.25 @ 1000`. -/
def negatedHalf : Constraint String where
  first := ⟨"v", .width⟩
  relation := .greaterOrEqual
  secondView := some "s"
  secondPart := .notAnAttribute
  multiplier := .ofDecimal true ⟨5, -1⟩
  constant := .ofDecimal true ⟨725, -2⟩
  priority := .ofInt 1000

/-- Views with their names as handles; `s` is a metric as well. -/
def negatedHalfTables : Tables String where
  views := ⟨[("v", "v"), ("s", "s")]⟩
  metrics := ⟨[("s", .infinity false), ("k", .ofInt (-4))]⟩

theorem canonical_round_trip_negatedHalf :
    (negatedHalf.WellFormed {} ∧ ∃ d, compile {} negatedHalfTables negatedHalf.text = .ok d
        ∧ d.same negatedHalf = true ∧ d.text = negatedHalf.text)
      ∧ compile {} negatedHalfTables "k * v.width <= 2 * s + 29" = .ok negatedHalf
      ∧ ∃ d, compile {} ⟨negatedHalfTables.views, .empty⟩ negatedHalf.text = .ok d
        ∧ d.same negatedHalf = true ∧ d.text = negatedHalf.text := by
  have hformed : negatedHalf.WellFormed {} := by
    refine ⟨by decide +kernel, by decide +kernel, by decide +kernel, by decide +kernel,
      by decide +kernel, ?_, by decide +kernel, by decide +kernel⟩
    intro hnone
    cases hnone
  have hcompile : compile {} negatedHalfTables "k * v.width <= 2 * s + 29" = .ok negatedHalf := by
    decide +kernel
  refine ⟨⟨hformed, ?_⟩, hcompile, ?_⟩
  · exact (canonical_round_trip {}).1 negatedHalf negatedHalfTables hformed rfl (by decide)
  · exact (canonical_round_trip {}).2 negatedHalfTables _ negatedHalf
      (Table.selfNamed_of_entries (by decide)) (by decide +kernel) (by decide +kernel) hcompile .empty

end Constraint

end LayoutLang
