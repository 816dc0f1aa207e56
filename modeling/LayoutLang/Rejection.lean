import LayoutLang.Resolution
import LayoutLang.Statement.Parser
import LayoutLang.Token.Lexer

/-!
# Rejections

Why a text was not compiled.  A rejection names the place, so that it can be shown under the text:

    error: unknown view: `s`
      | v.centerX = s.centerX
      |             ^
-/

namespace LayoutLang

/-- Why a text was not compiled: it has a character that starts no token, its tokens are no
statement, or the statement fails a check. -/
inductive Rejection where
  | lexical (reason : Token.Unexpected)
  | syntactic (reason : SyntaxError)
  | resolution (reason : Resolution.Failure)
deriving DecidableEq, Repr

namespace Rejection

/-- The wording of the error. -/
def message : Rejection → String
  | .lexical e => e.message
  | .syntactic e => e.message
  | .resolution e => e.message

/-- The bytes that the error is about. -/
def span : Rejection → Span
  | .lexical e => e.span
  | .syntactic e => e.span
  | .resolution e => e.span

/-- The columns to underline: how many characters stand before the span, and how many in it, but
at least one.  A span that ends before it starts, or that is not from this text, is cut down to
what there is of it. -/
def columns (span : Span) (source : List Char) : Nat × Nat :=
  let column := (Text.before span.start source).length
  let past := (Text.before (Nat.max span.stop span.start) source).length
  (column, Nat.max (past - column) 1)

/-- The error, the text it was found in, and carets under the place. -/
def diagnostic (source : String) (e : Rejection) : String :=
  let (column, width) := columns e.span source.toList
  "error: " ++ e.message ++ "\n  | " ++ source ++ "\n  | "
    ++ .ofList (List.replicate column ' ' ++ List.replicate width '^')

end Rejection

end LayoutLang
