import LayoutLang.Resolution

/-!
# Constraints

What a layout engine is given: `first relation multiplier * second + constant` at a priority, with
every part filled in.  The first item stands alone on its side; a factor that the text gave it has
been divided out, on the right side and, if it is negative, with the relation flipped.
-/

namespace LayoutLang

/-- A constraint.  If there is no second view, the first item is related to the constant alone. -/
structure Constraint (View : Type) where
  first : Item View
  relation : Relation
  secondView : Option View
  secondPart : Attribute
  multiplier : Binary64
  constant : Binary64
  priority : Binary64
deriving DecidableEq, Inhabited

variable {View : Type}

namespace Resolution

/-- The right factor, 1 if none was given, divided by the left one.  Without a second item there
is nothing to scale, and it stays as it is. -/
def solvedMultiplier (r : Resolution View) : Binary64 :=
  let multiplier := (r.second.bind (·.multiplier)).getD .one
  match r.first.multiplier, r.second with
  | some k, some _ => multiplier / k
  | _, _ => multiplier

/-- The constant, 0 if none was given, divided by the left factor. -/
def solvedConstant (r : Resolution View) : Binary64 :=
  let constant := r.constant.getD (.zero false)
  match r.first.multiplier with
  | some k => constant / k
  | none => constant

/-- The relation, flipped if both sides are divided by a negative factor. -/
def solvedRelation (r : Resolution View) : Relation :=
  match r.first.multiplier with
  | some k => if k < .zero false then r.relation.flip else r.relation
  | none => r.relation

/-! ### With a left factor and without -/

variable {r : Resolution View} {k : Binary64}

theorem solvedMultiplier_alone (hsecond : r.second = none) : r.solvedMultiplier = .one := by
  rw [solvedMultiplier, hsecond]
  cases r.first.multiplier <;> rfl

theorem solvedMultiplier_undivided (hk : r.first.multiplier = none) :
    r.solvedMultiplier = (r.second.bind (·.multiplier)).getD .one := by
  rw [solvedMultiplier, hk]

theorem solvedMultiplier_divided (hk : r.first.multiplier = some k) {i : ScaledItem View}
    (hsecond : r.second = some i) : r.solvedMultiplier = i.multiplier.getD .one / k := by
  rw [solvedMultiplier, hk, hsecond]
  rfl

theorem solvedConstant_undivided (hk : r.first.multiplier = none) :
    r.solvedConstant = r.constant.getD (.zero false) := by
  rw [solvedConstant, hk]

theorem solvedConstant_divided (hk : r.first.multiplier = some k) :
    r.solvedConstant = r.constant.getD (.zero false) / k := by
  rw [solvedConstant, hk]

theorem solvedRelation_undivided (hk : r.first.multiplier = none) :
    r.solvedRelation = r.relation := by
  rw [solvedRelation, hk]

theorem solvedRelation_divided (hk : r.first.multiplier = some k) :
    r.solvedRelation = if k < .zero false then r.relation.flip else r.relation := by
  rw [solvedRelation, hk]

end Resolution

namespace Constraint

/-- The constraint of a resolved statement: solved for the first item, and with the required
priority if none was given. -/
def ofResolution (settings : Settings) (r : Resolution View) : Constraint View where
  first := r.first.item
  relation := r.solvedRelation
  secondView := r.second.map (·.item.view)
  secondPart := (r.second.map (·.item.part)).getD .notAnAttribute
  multiplier := r.solvedMultiplier
  constant := r.solvedConstant
  priority := r.priority.getD settings.requiredPriority

/-- Whether the first item is related to the constant alone. -/
def isConstant (c : Constraint View) : Bool := c.secondView.isNone

/-- Whether two constraints are equal field by field, numbers being compared as numbers: zeros of
either sign are equal, and a NaN is not equal to itself. -/
def same [DecidableEq View] (c d : Constraint View) : Bool :=
  c.first = d.first && c.relation = d.relation && c.secondView = d.secondView
    && c.secondPart = d.secondPart && c.multiplier.sameNumber d.multiplier
    && c.constant.sameNumber d.constant && c.priority.sameNumber d.priority

end Constraint

end LayoutLang
