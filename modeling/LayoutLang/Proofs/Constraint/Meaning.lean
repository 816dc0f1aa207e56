import LayoutLang.Constraint
import LayoutLang.Proofs.Binary64.Order
import LayoutLang.Proofs.Resolution.Checks
import Mathlib.Algebra.Order.Field.Basic

/-!
# Solving a statement keeps its meaning

A statement relates two rational numbers as soon as every attribute of every view has one:
`Statement.Holds` reads it as it is written.  The constraint that is built from it has the first
item alone on the left, so that a factor there has been divided out of the right side, and the
relation turned around if the factor is negative.  `Statement.solve_preserves_meaning` says that
this changes nothing.

Doubles stand between the two.  The constant of the right side may be a sum, and sum and quotients
are rounded.  So two constants are read off a statement, the sum over the rationals
(`Statement.exactConstant`) and the sum over the doubles (`Statement.constantNumber`), and it is the
second that a resolution has.  `Resolution.solution` is what the same steps give over the rationals;
with the first constant it always means the same as the statement.  The constraint over doubles
means the same if the operations that are made for it are exact (`Statement.Exact`).
-/

namespace LayoutLang

variable {View : Type}

/-- A number for every attribute of every view. -/
abbrev Assignment (View : Type) := Item View → Rat

/-- What a relation says of two numbers. -/
def Relation.Holds : Relation → Rat → Rat → Prop
  | .equal, a, b => a = b
  | .lessOrEqual, a, b => a ≤ b
  | .greaterOrEqual, a, b => b ≤ a

/-! ## Statements as they are written

A reading is missing where a name stands for nothing. -/

/-- The number that an operand stands for. -/
def Operand.reading? (metrics : Table Binary64) (o : Operand) : Option Rat :=
  (o.value? metrics).map Binary64.toRat

/-- An attribute times the factor before it. -/
def Term.reading? (tables : Tables View) (A : Assignment View) (t : Term) : Option Rat := do
  let view ← tables.views.find? t.object.text
  let part ← t.attribute?
  let factor ←
    match t.multiplier with
    | none => some 1
    | some o => o.reading? tables.metrics
  some (factor * A ⟨view, part⟩)

/-- A bare name is a view as a whole if there is one of that name. -/
def RightSide.reading? (tables : Tables View) (A : Assignment View) : RightSide → Option Rat
  | .term t => t.reading? tables A
  | .value (.name n) =>
    match tables.views.find? n.text with
    | some v => some (A ⟨v, .notAnAttribute⟩)
    | none => (Operand.name n).reading? tables.metrics
  | .value o => o.reading? tables.metrics

/-- What an addend adds. -/
def Addend.reading? (metrics : Table Binary64) (a : Addend) : Option Rat :=
  (a.operand.reading? metrics).map fun x =>
    match a.sign with
    | .plus => x
    | .minus => -x

namespace Statement

/-- The right side with its addend. -/
def rightReading? (tables : Tables View) (A : Assignment View) (s : Statement) : Option Rat :=
  match s.constant with
  | none => s.second.reading? tables A
  | some a => do
    let x ← s.second.reading? tables A
    let y ← a.reading? tables.metrics
    some (x + y)

/-- The statement is true under an assignment. -/
def Holds (tables : Tables View) (A : Assignment View) (s : Statement) : Prop :=
  ∃ a b, s.first.reading? tables A = some a ∧ s.rightReading? tables A = some b
    ∧ s.relation.Holds a b

end Statement

/-! ## Solved for the first item -/

/-- `first relation factor * second + constant`, or without a second item the constant alone. -/
structure LinearForm (View : Type) where
  first : Item View
  relation : Relation
  second : Option (Rat × Item View)
  constant : Rat

/-- The linear form is true under an assignment. -/
def LinearForm.Holds (A : Assignment View) (f : LinearForm View) : Prop :=
  f.relation.Holds (A f.first)
    (match f.second with
      | some (factor, item) => factor * A item + f.constant
      | none => f.constant)

/-- What a constraint says, its doubles taken as the rationals that they stand for. -/
def Constraint.linearForm (c : Constraint View) : LinearForm View where
  first := c.first
  relation := c.relation
  second := c.secondView.map fun v => (c.multiplier.toRat, ⟨v, c.secondPart⟩)
  constant := c.constant.toRat

/-- The constraint is true under an assignment. -/
def Constraint.Holds (A : Assignment View) (c : Constraint View) : Prop := c.linearForm.Holds A

namespace Resolution

/-- The left factor; 1 if none was given. -/
def leftFactor (r : Resolution View) : Rat := (r.first.multiplier.getD .one).toRat

theorem leftFactor_undivided {r : Resolution View} (hk : r.first.multiplier = none) :
    r.leftFactor = 1 := by
  rw [leftFactor, hk]
  exact Binary64.toRat_one

theorem leftFactor_divided {r : Resolution View} {k : Binary64}
    (hk : r.first.multiplier = some k) : r.leftFactor = k.toRat := by
  rw [leftFactor, hk]
  rfl

/-- The steps that solve a statement, over the rationals, for a constant that may not have been
rounded. -/
def solution (r : Resolution View) (constant : Rat) : LinearForm View where
  first := r.first.item
  relation := if r.leftFactor < 0 then r.relation.flip else r.relation
  second := r.second.map fun i => ((i.multiplier.getD .one).toRat / r.leftFactor, i.item)
  constant := constant / r.leftFactor

end Resolution

/-- The number that an addend adds; a zero where its name stands for nothing. -/
def Addend.number (metrics : Table Binary64) (a : Addend) : Binary64 :=
  a.sign.apply ((a.operand.value? metrics).getD (.zero false))

namespace Statement

/-- The number on the right and the addend, added up without rounding. -/
def exactConstant (tables : Tables View) (s : Statement) : Rat :=
  match s.constant with
  | none => (s.second.number tables).toRat
  | some a => (s.second.number tables).toRat + (a.number tables.metrics).toRat

/-- The operations on doubles that are made for a constraint give the exact results: the sum of the
number on the right and the addend, and the two quotients by the left factor. -/
structure Exact (tables : Tables View) (s : Statement) (r : Resolution View) : Prop where
  sum : ∀ a ∈ s.constant, (s.second.number tables + a.number tables.metrics).toRat
    = (s.second.number tables).toRat + (a.number tables.metrics).toRat
  multiplier : ∀ k ∈ r.first.multiplier, ∀ i ∈ r.second,
    (i.multiplier.getD .one / k).toRat = (i.multiplier.getD .one).toRat / k.toRat
  constant : ∀ k ∈ r.first.multiplier,
    (r.constant.getD (.zero false) / k).toRat = (r.constant.getD (.zero false)).toRat / k.toRat

end Statement

/-! ## Dividing by the left factor -/

/-- Both sides may be divided by a number, if the relation is turned around for a negative one. -/
theorem Relation.holds_mul_iff {k : Rat} (hk : k ≠ 0) (r : Relation) (a b : Rat) :
    r.Holds (k * a) b ↔ (if k < 0 then r.flip else r).Holds a (b / k) := by
  rcases lt_or_gt_of_ne hk with hneg | hpos
  · rw [if_pos hneg]
    cases r with
    | equal =>
        show k * a = b ↔ a = b / k
        rw [eq_div_iff hk, mul_comm]
    | lessOrEqual =>
        show k * a ≤ b ↔ b / k ≤ a
        rw [div_le_iff_of_neg hneg, mul_comm]
    | greaterOrEqual =>
        show b ≤ k * a ↔ a ≤ b / k
        rw [le_div_iff_of_neg hneg, mul_comm]
  · rw [if_neg (not_lt.mpr hpos.le)]
    cases r with
    | equal =>
        show k * a = b ↔ a = b / k
        rw [eq_div_iff hk, mul_comm]
    | lessOrEqual =>
        show k * a ≤ b ↔ a ≤ b / k
        rw [le_div_iff₀ hpos, mul_comm]
    | greaterOrEqual =>
        show b ≤ k * a ↔ b / k ≤ a
        rw [div_le_iff₀ hpos, mul_comm]

/-! ## Readings of resolved parts

What a part of a statement is resolved to has the reading of that part. -/

variable {tables : Tables View} {A : Assignment View}

theorem Operand.reading?_of_resolve {metrics : Table Binary64} {o : Operand} {x : Binary64}
    (h : o.resolve metrics = .ok x) : o.reading? metrics = some x.toRat := by
  have hvalue := (Operand.resolve_eq_ok.mp h).1
  rw [Operand.reading?, hvalue]
  rfl

theorem Term.reading?_of_resolve {t : Term} {i : ScaledItem View} (h : t.resolve tables = .ok i) :
    t.reading? tables A = some ((i.multiplier.getD .one).toRat * A i.item) := by
  obtain ⟨multiplier, object, part⟩ := t
  obtain ⟨k, item⟩ := i
  obtain ⟨hview, hpart, hfactor⟩ := Term.resolve_eq_ok.mp h
  simp only [Term.reading?, hview, hpart, Option.bind_eq_bind, Option.bind_some]
  cases hfactor with
  | none => simp
  | some hk => simp [Operand.reading?_of_resolve hk]

/-- The part of a right side that depends on the assignment. -/
def ResolvedSide.itemReading (A : Assignment View) (side : ResolvedSide View) : Rat :=
  match side.item? with
  | some i => (i.multiplier.getD .one).toRat * A i.item
  | none => 0

theorem RightSide.reading?_of_denotes {s : RightSide} {side : ResolvedSide View}
    (h : s.Denotes tables side) :
    s.reading? tables A = some (side.itemReading A + (s.number tables).toRat) := by
  have hnumber := (s.makes_checks.result_of_ok (RightSide.resolve_eq_ok.mpr h)).number
  rw [← hnumber]
  cases h with
  | term hi =>
      simp [RightSide.reading?, Term.reading?_of_resolve hi, ResolvedSide.itemReading,
        ResolvedSide.item?, ResolvedSide.constant?]
  | view hview =>
      simp [RightSide.reading?, hview, ResolvedSide.itemReading, ResolvedSide.item?,
        ResolvedSide.constant?]
  | @value o x hnone hx =>
      have hreading := Operand.reading?_of_resolve hx
      have hzero : ResolvedSide.itemReading A (.constant x) = 0 := rfl
      rw [hzero, zero_add]
      show _ = some x.toRat
      cases o with
      | number y span => exact hreading
      | name n => simpa only [RightSide.reading?, hnone n rfl] using hreading

/-- An addend that is resolved is read as the number that it adds. -/
theorem Addend.reading?_of_resolve {metrics : Table Binary64} {a : Addend} {x : Binary64}
    (h : a.resolve metrics = .ok x) : a.reading? metrics = some (a.number metrics).toRat := by
  obtain ⟨sign, operand⟩ := a
  obtain ⟨y, hy, rfl⟩ := Outcome.map_eq_ok.mp h
  have hvalue := (Operand.resolve_eq_ok.mp hy).1
  rw [Addend.reading?, Operand.reading?_of_resolve hy, Addend.number, hvalue]
  cases sign with
  | plus => rfl
  | minus => exact congrArg some (Binary64.toRat_neg y).symm

namespace Statement

variable {settings : Settings} {s : Statement} {r : Resolution View}

/-- The right side is read as its item and the constant that is not rounded. -/
theorem rightReading?_of_resolve (h : s.resolve settings tables = .ok r) :
    ∃ side : ResolvedSide View, r.second = side.item?
      ∧ s.rightReading? tables A = some (side.itemReading A + s.exactConstant tables) := by
  obtain ⟨side, -, -, hside, hconstant, -, -, -, hsecond⟩ := resolve_eq_ok.mp h
  refine ⟨side, hsecond, ?_⟩
  have hreading := RightSide.reading?_of_denotes (A := A) hside
  unfold rightReading? exactConstant
  cases ha : s.constant with
  | none => exact hreading
  | some a =>
      rw [ha] at hconstant
      obtain ⟨x, hx, -, -⟩ := resolveConstant_some.mp hconstant
      simp [hreading, Addend.reading?_of_resolve hx, add_assoc]

/-- The constant of a resolution is the number on the right and the addend, added up as doubles. -/
theorem constant_of_resolve (h : s.resolve settings tables = .ok r) :
    r.constant.getD (.zero false) = s.constantNumber tables := by
  obtain ⟨side, -, -, hside, hconstant, -⟩ := resolve_eq_ok.mp h
  have hcontributes := s.second.makes_checks.result_of_ok (RightSide.resolve_eq_ok.mpr hside)
  exact (makes_constantChecks hcontributes).result_of_ok hconstant

/-- If the sum is exact, it is the one over the rationals. -/
theorem toRat_constantNumber (hexact : s.Exact tables r) :
    (s.constantNumber tables).toRat = s.exactConstant tables := by
  unfold constantNumber exactConstant
  cases hc : s.constant with
  | none => rfl
  | some a => exact hexact.sum a hc

/-- The left factor of a resolved statement is a finite double other than zero. -/
theorem leftFactor_ne_zero (h : s.resolve settings tables = .ok r) :
    (∀ k ∈ r.first.multiplier, k.isFinite = true) ∧ r.leftFactor ≠ 0 := by
  obtain ⟨side, hfirst, hfactor, -, -, -, -, -, -⟩ := resolve_eq_ok.mp h
  cases hk : r.first.multiplier with
  | none =>
      rw [Resolution.leftFactor_undivided hk]
      refine ⟨?_, one_ne_zero⟩
      intro k hk
      cases hk
  | some k =>
      obtain ⟨hfinite, o, ho⟩ := Term.factor_of_resolve hfirst hk
      rw [Resolution.leftFactor_divided hk]
      refine ⟨?_, ?_⟩
      · intro k' hk'
        cases hk'
        exact hfinite
      · intro hzero
        have hsame := (Binary64.sameNumber_zero_iff hfinite).mpr hzero
        rw [checkFactor_eq_ok.mp hfactor o k ho hk] at hsame
        cases hsame

/-! ## The meaning is kept -/

/-- Over the rationals, a statement and its solution always say the same. -/
theorem holds_solution_iff (h : s.resolve settings tables = .ok r) :
    s.Holds tables A ↔ (r.solution (s.exactConstant tables)).Holds A := by
  obtain ⟨side, hsecond, hright⟩ := rightReading?_of_resolve (A := A) h
  obtain ⟨-, hfirst, -, -, -, -, -, hrelation, -⟩ := resolve_eq_ok.mp h
  have hleft := Term.reading?_of_resolve (A := A) hfirst
  have hne := (leftFactor_ne_zero h).2
  have hquotient : (side.itemReading A + s.exactConstant tables) / r.leftFactor
      = match (r.solution (s.exactConstant tables)).second with
        | some (factor, item) => factor * A item + s.exactConstant tables / r.leftFactor
        | none => s.exactConstant tables / r.leftFactor := by
    rw [add_div, Resolution.solution, hsecond, ResolvedSide.itemReading]
    cases side.item? with
    | none => simp
    | some i => simp [mul_div_right_comm]
  have hsolved : s.Holds tables A ↔ s.relation.Holds (r.leftFactor * A r.first.item)
      (side.itemReading A + s.exactConstant tables) := by
    constructor
    · rintro ⟨a, b, ha, hb, hholds⟩
      obtain rfl := Option.some.inj (hleft.symm.trans ha)
      obtain rfl := Option.some.inj (hright.symm.trans hb)
      exact hholds
    · intro hholds
      exact ⟨_, _, hleft, hright, hholds⟩
  rw [hsolved, Relation.holds_mul_iff hne, hquotient, ← hrelation]
  rfl

/-- The factor that decides whether the relation is turned around is negative as a double if it is
as a number. -/
theorem solvedRelation_eq (h : s.resolve settings tables = .ok r) :
    r.solvedRelation = if r.leftFactor < 0 then r.relation.flip else r.relation := by
  have hfinite := (leftFactor_ne_zero h).1
  cases hk : r.first.multiplier with
  | none =>
      rw [Resolution.solvedRelation_undivided hk, Resolution.leftFactor_undivided hk,
        if_neg (not_lt.mpr zero_le_one)]
  | some k =>
      rw [Resolution.solvedRelation_divided hk, Resolution.leftFactor_divided hk]
      simp only [Binary64.lt_zero_iff (hfinite k hk)]

/-- If nothing was rounded, the constraint is the solution. -/
theorem linearForm_ofResolution (h : s.resolve settings tables = .ok r)
    (hexact : s.Exact tables r) :
    (Constraint.ofResolution settings r).linearForm = r.solution (s.exactConstant tables) := by
  have hsum : (r.constant.getD (.zero false)).toRat = s.exactConstant tables := by
    rw [constant_of_resolve h, toRat_constantNumber hexact]
  have hconstant : r.solvedConstant.toRat = s.exactConstant tables / r.leftFactor := by
    rw [← hsum]
    cases hk : r.first.multiplier with
    | none =>
        rw [Resolution.solvedConstant_undivided hk, Resolution.leftFactor_undivided hk, div_one]
    | some k =>
        rw [Resolution.solvedConstant_divided hk, Resolution.leftFactor_divided hk]
        exact hexact.constant k hk
  have hsecond : (r.second.map (·.item.view)).map
        (fun v => (r.solvedMultiplier.toRat,
          (⟨v, (r.second.map (·.item.part)).getD .notAnAttribute⟩ : Item View)))
      = r.second.map fun i => ((i.multiplier.getD .one).toRat / r.leftFactor, i.item) := by
    cases hi : r.second with
    | none => rfl
    | some i =>
        cases hk : r.first.multiplier with
        | none =>
            rw [Resolution.solvedMultiplier_undivided hk, Resolution.leftFactor_undivided hk, hi]
            simp
        | some k =>
            rw [Resolution.solvedMultiplier_divided hk hi, Resolution.leftFactor_divided hk,
              hexact.multiplier k hk i hi]
            rfl
  unfold Constraint.linearForm Resolution.solution
  simp only [Constraint.ofResolution, solvedRelation_eq h, hconstant, hsecond]

/-- What is built for a statement holds exactly where the statement does: always if it is computed
over the rationals, and over doubles if the operations that are made are exact.  The constant over
doubles is the sum of the same two numbers. -/
theorem solve_preserves_meaning (h : s.resolve settings tables = .ok r) (A : Assignment View) :
    (s.Holds tables A ↔ (r.solution (s.exactConstant tables)).Holds A)
      ∧ r.constant.getD (.zero false) = s.constantNumber tables
      ∧ (s.Exact tables r →
          (s.Holds tables A ↔ (Constraint.ofResolution settings r).Holds A)) := by
  refine ⟨holds_solution_iff h, constant_of_resolve h, ?_⟩
  intro hexact
  rw [Constraint.Holds, linearForm_ofResolution h hexact]
  exact holds_solution_iff h

/-- `k * v.width <= 3 * s.width - gap`, to be solved for `v.width`. -/
def negatedStatement : Statement where
  first := ⟨some (.name ⟨"k", ⟨0, 1⟩⟩), ⟨"v", ⟨4, 5⟩⟩, some ⟨"width", ⟨6, 11⟩⟩⟩
  relation := .lessOrEqual
  second := .term ⟨some (.number (.ofInt 3) ⟨15, 16⟩), ⟨"s", ⟨19, 20⟩⟩, some ⟨"width", ⟨21, 26⟩⟩⟩
  constant := some ⟨.minus, .name ⟨"gap", ⟨29, 32⟩⟩⟩
  priority := none

/-- Here `k` is -2, so that the relation is turned around. -/
def negatedTables : Tables Nat where
  views := ⟨[("v", 0), ("s", 1)]⟩
  metrics := ⟨[("k", .ofInt (-2)), ("gap", .ofInt 10)]⟩

def negatedResolution : Resolution Nat where
  first := ⟨some (.ofInt (-2)), ⟨0, .width⟩⟩
  relation := .lessOrEqual
  second := some ⟨some (.ofInt 3), ⟨1, .width⟩⟩
  constant := some (.ofInt (-10))
  priority := none

/-- `k * v.width <= 100 + 20`. -/
def sumStatement : Statement :=
  { negatedStatement with
    second := .value (.number (.ofInt 100) ⟨15, 18⟩)
    constant := some ⟨.plus, .number (.ofInt 20) ⟨21, 23⟩⟩ }

def sumResolution : Resolution Nat :=
  { negatedResolution with
    second := none
    constant := some (.ofInt 120) }

/-- The left factor is negative; one right side has an item, the other is the sum of two numbers. -/
theorem solve_preserves_meaning_negated :
    (negatedStatement.resolve {} negatedTables = .ok negatedResolution
      ∧ negatedStatement.Exact negatedTables negatedResolution
      ∧ (negatedStatement.Holds negatedTables (fun (i : Item Nat) => 4 - 3 * i.view)
          ↔ (Constraint.ofResolution {} negatedResolution).Holds
              (fun (i : Item Nat) => 4 - 3 * i.view)))
    ∧ sumStatement.resolve {} negatedTables = .ok sumResolution
      ∧ sumStatement.Exact negatedTables sumResolution
      ∧ (.ofInt 120 : Binary64) = sumStatement.constantNumber negatedTables
      ∧ (sumStatement.Holds negatedTables (fun (_ : Item Nat) => -60)
          ↔ (Constraint.ofResolution {} sumResolution).Holds (fun (_ : Item Nat) => -60)) := by
  have hnegated : negatedStatement.resolve {} negatedTables = .ok negatedResolution := by
    decide +kernel
  have hsum : sumStatement.resolve {} negatedTables = .ok sumResolution := by decide +kernel
  have hnegatedExact : negatedStatement.Exact negatedTables negatedResolution := by
    refine ⟨?_, ?_, ?_⟩
    · rintro a ⟨⟩
      decide +kernel
    · rintro k ⟨⟩ i ⟨⟩
      decide +kernel
    · rintro k ⟨⟩
      decide +kernel
  have hsumExact : sumStatement.Exact negatedTables sumResolution := by
    refine ⟨?_, nofun, ?_⟩
    · rintro a ⟨⟩
      decide +kernel
    · rintro k ⟨⟩
      decide +kernel
  obtain ⟨-, -, hnegatedHolds⟩ :=
    solve_preserves_meaning hnegated (fun (i : Item Nat) => 4 - 3 * i.view)
  obtain ⟨-, hconstant, hsumHolds⟩ := solve_preserves_meaning hsum (fun (_ : Item Nat) => -60)
  exact ⟨⟨hnegated, hnegatedExact, hnegatedHolds hnegatedExact⟩, hsum, hsumExact, hconstant,
    hsumHolds hsumExact⟩

end Statement

end LayoutLang
