import LayoutLang.Binary64.Basic
import LayoutLang.Relation
import LayoutLang.Span

/-!
# Statements

What a text of the language says, before its names are looked up: a term on the left, a relation,
a term or a value on the right, and then perhaps an addend and a priority.  Each name and number
keeps the span of the text it was read from.
-/

namespace LayoutLang

/-- A name as it stands in a text. -/
structure Name where
  text : String
  span : Span
deriving DecidableEq, Inhabited

/-- What stands where a number is wanted: a number, or a name for one. -/
inductive Operand where
  | number (value : Binary64) (span : Span)
  | name (name : Name)
deriving DecidableEq, Inhabited

/-- The bytes that an operand was read from. -/
def Operand.span : Operand → Span
  | .number _ span => span
  | .name n => n.span

/-- An item or, if a part is named, one of its attributes, perhaps with a factor before it. -/
structure Term where
  multiplier : Option Operand
  object : Name
  part : Option Name
deriving DecidableEq, Inhabited

/-- What stands to the right of the relation.  A bare name is a value here: only the tables tell
whether it is an item. -/
inductive RightSide where
  | term (term : Term)
  | value (operand : Operand)
deriving DecidableEq, Inhabited

/-- Whether an addend is added or taken away. -/
inductive Sign where
  | plus
  | minus
deriving DecidableEq, Repr, Inhabited

/-- An operand that is added to the right side. -/
structure Addend where
  sign : Sign
  operand : Operand
deriving DecidableEq, Inhabited

/-- A whole text. -/
structure Statement where
  first : Term
  relation : Relation
  second : RightSide
  constant : Option Addend
  priority : Option Operand
deriving DecidableEq, Inhabited

end LayoutLang
