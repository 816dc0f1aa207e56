/-!
# Alternatives in a sentence
-/

namespace LayoutLang.Text

/-- A list of alternatives as `a`, `a or b`, `a, b or c`. -/
def alternatives : List String → String
  | [] => ""
  | [a] => a
  | [a, b] => a ++ " or " ++ b
  | a :: rest => a ++ ", " ++ alternatives rest

end LayoutLang.Text
