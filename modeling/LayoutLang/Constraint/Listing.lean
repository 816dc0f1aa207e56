import LayoutLang.Constraint
import LayoutLang.Text.Quoted

/-!
# The listing of a constraint

All fields of a constraint, one to a line.  Nothing is left out here, and every text is quoted
and every number annotated, so that a listing shows exactly what a field holds.
-/

namespace LayoutLang.Constraint

/-- One field of the listing. -/
def field (name value : String) : String := "    " ++ name ++ ": " ++ value ++ ",\n"

/-- A view that may be missing; one that is there stands on a line of its own. -/
def viewListing : Option String → String
  | none => "None"
  | some v => "Some(\n        " ++ Text.quoted v ++ ",\n    )"

/-- The listing of a constraint between named views. -/
def listing (c : Constraint String) : String :=
  "Constraint \x7b\n"
    ++ field "first_item" (Text.quoted c.first.view)
    ++ field "first_attribute" c.first.part.title
    ++ field "relation" c.relation.title
    ++ field "second_item" (viewListing c.secondView)
    ++ field "second_attribute" c.secondPart.title
    ++ field "multiplier" c.multiplier.annotated
    ++ field "constant" c.constant.annotated
    ++ field "priority" c.priority.annotated
    ++ "\x7d"

end LayoutLang.Constraint
