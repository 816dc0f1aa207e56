import LayoutLang.Constraint
import LayoutLang.Proofs.Resolution.Checks
import Mathlib.Control.Monad.Basic

/-!
# Which left factors are refused

Dividing a left factor out may take a number out of the range of the doubles, and a resolution
refuses the factor then.  The question is asked of two quotients, before anything is built, and this
module compares them with the numbers that are built in the end.

With a second item the two are the same numbers.  Without one they are not: the right factor is
missing and taken to be 1, and its quotient is checked though it is never built.  So a factor whose
reciprocal overflows is refused even where the constraint would be finite
(`Statement.refused_although_finite`), and apart from that the check is exact
(`Statement.refused_iff_overflow`).
-/

namespace LayoutLang

open Resolution (Check Failure Makes)

variable {View : Type}

/-- The two numbers that a left factor is divided out of are finite. -/
def Constraint.IsFinite (c : Constraint View) : Prop :=
  c.multiplier.isFinite = true ∧ c.constant.isFinite = true

namespace Statement

/-! ## Everything but the quotients -/

/-- The checks of a statement, less that of the quotients. -/
def partChecks (settings : Settings) (tables : Tables View) (s : Statement) : List Check :=
  s.first.checks tables ++ (s.factorChecks tables.metrics ++ (s.second.checks tables
    ++ (s.constantChecks tables ++ s.priorityChecks settings tables.metrics)))

/-- What the parts of a statement stand for, whatever becomes of the quotients. -/
def resolveParts (settings : Settings) (tables : Tables View) (s : Statement) :
    Except Failure (Resolution View) :=
  s.resolveWith (fun _ _ _ => .ok ()) (resolvePriority settings tables.metrics s.priority) tables

variable {settings : Settings} {tables : Tables View} {s : Statement} {r : Resolution View}

theorem makes_partChecks (settings : Settings) (tables : Tables View) (s : Statement) :
    Makes (fun _ => True) (s.partChecks settings tables) (s.resolveParts settings tables) := by
  rw [partChecks, ← List.nil_append (s.priorityChecks _ _)]
  exact makes_resolveWith (fun _ _ _ => .done trivial)
    (makes_priorityChecks settings tables.metrics s)

/-- With parts that stand for something, the check of the quotients decides. -/
theorem resolve_of_resolveParts (h : s.resolveParts settings tables = .ok r) :
    s.resolve settings tables = (s.checkQuotients r.first r.second r.constant).map fun _ => r := by
  obtain ⟨first, relation, second, constant, priority⟩ := r
  obtain ⟨side, hfirst, hfactor, hside, hconstant, -, hpriority, rfl, rfl⟩ :=
    resolveWith_eq_ok.mp h
  rw [resolve, resolveWith, Outcome.bind_of_ok hfirst, Outcome.bind_of_ok hfactor,
    Outcome.bind_of_ok (RightSide.resolve_eq_ok.mpr hside), Outcome.bind_of_ok hconstant]
  cases s.checkQuotients first side.item? constant with
  | error f => rfl
  | ok _ => exact Outcome.bind_of_ok hpriority _

/-- The left factor of the parts is what its operand stands for. -/
theorem exists_factor_of_resolveParts (h : s.resolveParts settings tables = .ok r) {o : Operand}
    (ho : s.first.multiplier = some o) :
    ∃ k, o.value? tables.metrics = some k ∧ r.first.multiplier = some k := by
  obtain ⟨-, hfirst, -⟩ := resolveWith_eq_ok.mp h
  have hfactor := (Term.resolve_eq_ok.mp hfirst).2.2
  rw [ho] at hfactor
  generalize r.first.multiplier = m at hfactor ⊢
  cases hfactor with
  | some hk => exact ⟨_, (Operand.resolve_eq_ok.mp hk).1, rfl⟩

theorem checkQuotients_of_some {first : ScaledItem View} {second : Option (ScaledItem View)}
    {constant : Option Binary64} {o : Operand} {k : Binary64} (ho : s.first.multiplier = some o)
    (hk : first.multiplier = some k) :
    s.checkQuotients first second constant
      = if ((second.bind (·.multiplier)).getD .one / k).isFinite
          && (constant.getD (.zero false) / k).isFinite then .ok ()
        else .error (.ofOperand .nonFiniteValue o) := by
  rw [checkQuotients, ho, hk]

/-! ## What is checked and what is built -/

/-- The quotients are finite if the constraint is and, where no second item is, the reciprocal of
the factor. -/
theorem quotients_isFinite_iff (settings : Settings) {k : Binary64} (hk : r.first.multiplier = some k) :
    ((r.second.bind (·.multiplier)).getD .one / k).isFinite = true
        ∧ (r.constant.getD (.zero false) / k).isFinite = true
      ↔ (Constraint.ofResolution settings r).IsFinite
        ∧ (r.second = none → (Binary64.one / k).isFinite = true) := by
  have hconstant : (Constraint.ofResolution settings r).constant
      = r.constant.getD (.zero false) / k := Resolution.solvedConstant_divided hk
  rw [Constraint.IsFinite, hconstant]
  cases hsecond : r.second with
  | none =>
      have hone : (Constraint.ofResolution settings r).multiplier = .one :=
        Resolution.solvedMultiplier_alone hsecond
      rw [hone]
      constructor
      · rintro ⟨hfactor, hfinite⟩
        exact ⟨⟨rfl, hfinite⟩, fun _ => hfactor⟩
      · rintro ⟨⟨-, hfinite⟩, hfactor⟩
        exact ⟨hfactor rfl, hfinite⟩
  | some i =>
      have hquotient : (Constraint.ofResolution settings r).multiplier
          = i.multiplier.getD .one / k := Resolution.solvedMultiplier_divided hk hsecond
      rw [hquotient]
      constructor
      · intro hfinite
        exact ⟨hfinite, nofun⟩
      · rintro ⟨hfinite, -⟩
        exact hfinite

/-- Where every other check of a statement passes, its left factor is refused if a number of the
constraint would not be finite, and otherwise only if there is no second item and the reciprocal of
the factor is not finite.  In all other cases the statement is resolved. -/
theorem refused_iff_overflow (settings : Settings) (tables : Tables View) {s : Statement}
    {o : Operand} (ho : s.first.multiplier = some o)
    (h : ∀ c ∈ s.partChecks settings tables, c.Passes) :
    ∃ r k, s.resolveParts settings tables = .ok r ∧ o.value? tables.metrics = some k
      ∧ (s.resolve settings tables = .error (.ofOperand .nonFiniteValue o) ↔
          ¬ (Constraint.ofResolution settings r).IsFinite
            ∨ r.second = none ∧ (Binary64.one / k).isFinite = false)
      ∧ (s.resolve settings tables = .ok r ↔
          (Constraint.ofResolution settings r).IsFinite
            ∧ (r.second = none → (Binary64.one / k).isFinite = true)) := by
  obtain ⟨r, hr⟩ := (makes_partChecks settings tables s).exists_ok_iff.mpr h
  obtain ⟨k, hvalue, hk⟩ := exists_factor_of_resolveParts hr ho
  have hfinite := quotients_isFinite_iff settings hk
  rw [← Bool.and_eq_true] at hfinite
  refine ⟨r, k, hr, hvalue, ?_⟩
  rw [resolve_of_resolveParts hr, checkQuotients_of_some ho hk]
  split
  · next hquotients =>
    have hboth := hfinite.mp hquotients
    refine ⟨⟨nofun, ?_⟩, ⟨fun _ => hboth, fun _ => rfl⟩⟩
    rintro (hinfinite | ⟨hsecond, hinfinite⟩)
    · exact absurd hboth.1 hinfinite
    · exact absurd (hboth.2 hsecond) (by simp [hinfinite])
  · next hquotients =>
    have hnot := mt hfinite.mpr hquotients
    refine ⟨⟨fun _ => ?_, fun _ => rfl⟩, ⟨nofun, fun hboth => absurd hboth hnot⟩⟩
    rw [not_and_or, Classical.not_imp, Bool.not_eq_true] at hnot
    exact hnot

/-! ## A factor of which the reciprocal overflows -/

/-- The metric is 1e-320. -/
def tinyTables : Tables Nat where
  views := ⟨[("v", 0), ("s", 1)]⟩
  metrics := ⟨[("tiny", .finite false ⟨0x7E8, by decide⟩)]⟩

def tinyFactor : Operand := .name ⟨"tiny", ⟨0, 4⟩⟩

/-- `tiny * v.width =`, and some right side. -/
def tinyStatement (second : RightSide) : Statement where
  first := ⟨some tinyFactor, ⟨"v", ⟨7, 8⟩⟩, some ⟨"width", ⟨9, 14⟩⟩⟩
  relation := .equal
  second := second
  constant := none
  priority := none

/-- The right side `s.width`. -/
def widthTerm : RightSide := .term ⟨none, ⟨"s", ⟨17, 18⟩⟩, some ⟨"width", ⟨19, 24⟩⟩⟩

/-- The right side `tiny`. -/
def tinyValue : RightSide := .value (.name ⟨"tiny", ⟨17, 21⟩⟩)

theorem passes_of_resolveParts (h : s.resolveParts settings tables = .ok r) :
    ∀ c ∈ s.partChecks settings tables, c.Passes :=
  (makes_partChecks settings tables s).exists_ok_iff.mp ⟨r, h⟩

/-- With a second item, the factor 1 / 1e-320 would be built. -/
theorem refused_iff_overflow_tiny :
    (tinyStatement widthTerm).resolve {} tinyTables = .error (.ofOperand .nonFiniteValue tinyFactor)
      ∧ (∀ c ∈ (tinyStatement widthTerm).partChecks {} tinyTables, c.Passes)
      ∧ ∃ r k, (tinyStatement widthTerm).resolveParts {} tinyTables = .ok r
        ∧ tinyFactor.value? tinyTables.metrics = some k
        ∧ ((tinyStatement widthTerm).resolve {} tinyTables
              = .error (.ofOperand .nonFiniteValue tinyFactor) ↔
            ¬ (Constraint.ofResolution {} r).IsFinite
              ∨ r.second = none ∧ (Binary64.one / k).isFinite = false)
        ∧ ((tinyStatement widthTerm).resolve {} tinyTables = .ok r ↔
            (Constraint.ofResolution {} r).IsFinite
              ∧ (r.second = none → (Binary64.one / k).isFinite = true)) := by
  have hparts : (tinyStatement widthTerm).resolveParts {} tinyTables
      = .ok ⟨⟨some (.finite false ⟨0x7E8, by decide⟩), ⟨0, .width⟩⟩, .equal,
          some ⟨none, ⟨1, .width⟩⟩, none, none⟩ := by decide +kernel
  have hpasses := passes_of_resolveParts hparts
  exact ⟨by decide +kernel, hpasses, refused_iff_overflow {} tinyTables rfl hpasses⟩

/-- Without one, 1e-320 / 1e-320 is all that would be built, and yet the factor is refused. -/
theorem refused_although_finite :
    ∃ r : Resolution Nat, (∀ c ∈ (tinyStatement tinyValue).partChecks {} tinyTables, c.Passes)
      ∧ (tinyStatement tinyValue).resolveParts {} tinyTables = .ok r
      ∧ (Constraint.ofResolution {} r).multiplier = .one
      ∧ (Constraint.ofResolution {} r).constant = .one
      ∧ (tinyStatement tinyValue).resolve {} tinyTables
        = .error (.ofOperand .nonFiniteValue tinyFactor) := by
  have hparts : (tinyStatement tinyValue).resolveParts {} tinyTables
      = .ok ⟨⟨some (.finite false ⟨0x7E8, by decide⟩), ⟨0, .width⟩⟩, .equal, none,
          some (.finite false ⟨0x7E8, by decide⟩), none⟩ := by decide +kernel
  exact ⟨_, passes_of_resolveParts hparts, hparts, by decide +kernel, by decide +kernel,
    by decide +kernel⟩

end Statement

end LayoutLang
