/-!
# Spans
-/

namespace LayoutLang

/-- A range of bytes in a text.  Nothing here demands that it ends after its start, or inside the
text. -/
structure Span where
  start : Nat
  stop : Nat
deriving DecidableEq, Repr, Inhabited

end LayoutLang
