import LayoutLang.Constraint
import LayoutLang.Rejection

/-!
# Compiling a text

The way from a text to a constraint: tokens, a statement, its resolution.  The first of these
that cannot be had is the reason for the rejection.
-/

namespace LayoutLang

/-- The statement that a text is. -/
def Statement.ofText (text : String) : Except Rejection Statement := do
  let tokens ← (Token.tokenize text).mapError .lexical
  (Statement.ofTokens tokens).mapError .syntactic

/-- The constraint that a text describes. -/
def compile {View : Type} (settings : Settings) (tables : Tables View) (text : String) :
    Except Rejection (Constraint View) := do
  let s ← Statement.ofText text
  let r ← (s.resolve settings tables).mapError .resolution
  .ok (.ofResolution settings r)

end LayoutLang
