import LayoutLang.Unicode.WhiteSpace

/-!
# Lines and outer white space

A line ends at a line feed.  A carriage return before it is left to `trim`, being white space like
any other.
-/

namespace LayoutLang.Text

/-- The text without the white space at its two ends. -/
def trim (cs : List Char) : List Char :=
  ((cs.dropWhile Unicode.isWhiteSpace).reverse.dropWhile Unicode.isWhiteSpace).reverse

/-- The pieces between the line feeds of a text; always at least one. -/
def lines : List Char → List (List Char)
  | [] => [[]]
  | c :: cs =>
    if c = '\n' then [] :: lines cs
    else
      match lines cs with
      | [] => [[c]]
      | line :: rest => (c :: line) :: rest

/-- Lines as one text, each with its line feed. -/
def unlines (lines : List String) : String := String.join (lines.map (· ++ "\n"))

end LayoutLang.Text
