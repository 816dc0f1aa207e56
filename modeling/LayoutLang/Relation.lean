/-!
# Relations
-/

namespace LayoutLang

/-- How the two sides of a constraint are related. -/
inductive Relation where
  | equal
  | lessOrEqual
  | greaterOrEqual
deriving DecidableEq, Repr, Inhabited

namespace Relation

/-- The relation between two sides that have both been multiplied by a negative number. -/
def flip : Relation → Relation
  | .equal => .equal
  | .lessOrEqual => .greaterOrEqual
  | .greaterOrEqual => .lessOrEqual

/-- The sign of the relation in the language. -/
def text : Relation → String
  | .equal => "="
  | .lessOrEqual => "<="
  | .greaterOrEqual => ">="

/-- The name of the relation in a listing. -/
def title : Relation → String
  | .equal => "Equal"
  | .lessOrEqual => "LessOrEqual"
  | .greaterOrEqual => "GreaterOrEqual"

@[simp] theorem flip_flip (r : Relation) : r.flip.flip = r := by cases r <;> rfl

end Relation

end LayoutLang
