import LayoutLang.Decimal.Layout
import LayoutLang.Statement

/-!
# Statements in prefix form

A statement as one parenthesized expression, each part behind its sign.  It shows how a text was
understood: what is a factor of what, and whether a bare name stands for a value.
-/

namespace LayoutLang

/-- A number in the plain form, a name as it stands. -/
def Operand.text : Operand → String
  | .number x _ => x.text
  | .name n => n.text

/-- The term as `item.attribute`, within `(* factor ...)` if it has a factor. -/
def Term.text (t : Term) : String :=
  let object :=
    match t.part with
    | some a => t.object.text ++ "." ++ a.text
    | none => t.object.text
  match t.multiplier with
  | some m => "(* " ++ m.text ++ " " ++ object ++ ")"
  | none => object

/-- The term, or the value as `(value operand)`. -/
def RightSide.text : RightSide → String
  | .term t => t.text
  | .value o => "(value " ++ o.text ++ ")"

/-- The character of a sign. -/
def Sign.text : Sign → String
  | .plus => "+"
  | .minus => "-"

/-- The addend as `(+ operand)`. -/
def Addend.text (a : Addend) : String := "(" ++ a.sign.text ++ " " ++ a.operand.text ++ ")"

/-- The prefix form of a statement. -/
def Statement.text (s : Statement) : String :=
  let constant :=
    match s.constant with
    | some a => " " ++ a.text
    | none => ""
  let priority :=
    match s.priority with
    | some o => " (@ " ++ o.text ++ ")"
    | none => ""
  "(" ++ s.relation.text ++ " " ++ s.first.text ++ " " ++ s.second.text ++ constant ++ priority
    ++ ")"

end LayoutLang
