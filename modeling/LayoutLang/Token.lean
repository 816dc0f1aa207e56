import LayoutLang.Binary64.Basic
import LayoutLang.Relation
import LayoutLang.Span

/-!
# Tokens

What a text of the language is made of, once blanks are gone.  A token carries what it means (a
number has its value, not its digits), and its place is kept beside it.
-/

namespace LayoutLang

/-- A token. -/
inductive Token where
  | relation (relation : Relation)
  | star
  | plus
  | minus
  | atSign
  | number (value : Binary64)
  | identifier (name : String)
  /-- Two identifiers with a point between them and no blank. -/
  | dotted (owner member : String)
deriving DecidableEq, Inhabited

namespace Token

/-- What a token is, without what it carries.  The end of the input is one more kind, which no
token has: it is what is found where a token is missing. -/
inductive Kind where
  | relation
  | star
  | plus
  | minus
  | atSign
  | number
  | identifier
  | dotted
  | endOfInput
deriving DecidableEq, Repr, Inhabited

/-- The wording of a kind in a message. -/
def Kind.text : Kind → String
  | .relation => "relation (`=`, `<=`, `>=`)"
  | .star => "`*`"
  | .plus => "`+`"
  | .minus => "`-`"
  | .atSign => "`@`"
  | .number => "number"
  | .identifier => "identifier"
  | .dotted => "`view.attribute`"
  | .endOfInput => "end of input"

/-- The kind of a token. -/
def kind : Token → Kind
  | .relation _ => .relation
  | .star => .star
  | .plus => .plus
  | .minus => .minus
  | .atSign => .atSign
  | .number _ => .number
  | .identifier _ => .identifier
  | .dotted .. => .dotted

/-- A token and where it stands. -/
structure Placed where
  token : Token
  span : Span
deriving DecidableEq, Inhabited

end Token

end LayoutLang
