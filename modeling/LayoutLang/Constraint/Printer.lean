import LayoutLang.Constraint

/-!
# The canonical text of a constraint

A constraint is written back in the language, so that compiling its text gives it again.  The
text leaves out what the language fills in: a factor of 1, a constant of 0, and the attribute of
an item as a whole.  The priority is always written.
-/

namespace LayoutLang

variable {View : Type} [ToString View]

/-- A view with its attribute, or alone if the whole item is meant. -/
def Item.text (i : Item View) : String :=
  match i.part with
  | .notAnAttribute => toString i.view
  | a => toString i.view ++ "." ++ a.name

namespace Constraint

/-- The factor before the second item, unless it is 1. -/
def multiplierText (m : Binary64) : String :=
  if m.sameNumber .one then "" else m.text ++ " * "

/-- The constant after the second item, with its sign as that of the addend, unless it is 0. -/
def constantText (x : Binary64) : String :=
  if .zero false < x then " + " ++ x.text
  else if x < .zero false then " - " ++ (-x).text
  else ""

/-- What stands to the right of the relation. -/
def rightText (c : Constraint View) : String :=
  match c.secondView with
  | some v =>
    multiplierText c.multiplier ++ (Item.mk v c.secondPart).text ++ constantText c.constant
  | none => c.constant.text

/-- The canonical text of a constraint. -/
def text (c : Constraint View) : String :=
  c.first.text ++ " " ++ c.relation.text ++ " " ++ c.rightText ++ " @ " ++ c.priority.text

end Constraint

instance : ToString (Constraint View) := ⟨Constraint.text⟩

end LayoutLang
