import LayoutLang.Unicode.DefaultIgnorable
import LayoutLang.Unicode.GraphemeExtend
import LayoutLang.Unicode.Unprintable

/-!
# Quoted text

Messages show a character in single quotes, and listings show a text in double quotes.  Inside
the quotes a character stands for itself if it can be seen there; otherwise it is escaped, by a
letter if it has one and by its code point if not.
-/

namespace LayoutLang.Text

/-- The halfwidth katakana sound marks.  They extend a grapheme as marks do, but are letters and
take a place of their own. -/
def isSoundLetter (c : Char) : Bool := c = '\uff9e' || c = '\uff9f'

/-- Whether a character is seen as itself wherever it stands: it has a glyph, is not left blank,
and is not drawn onto the character before it. -/
def isVisible (c : Char) : Bool :=
  !Unicode.isUnprintable c && !Unicode.isDefaultIgnorable c
    && (!Unicode.isGraphemeExtend c || isSoundLetter c)

/-- How a character is written between two quotes. -/
def escape (quote c : Char) : List Char :=
  if c = '\x00' then ['\\', '0']
  else if c = '\t' then ['\\', 't']
  else if c = '\n' then ['\\', 'n']
  else if c = '\r' then ['\\', 'r']
  else if c = '\\' ∨ c = quote then ['\\', c]
  else if isVisible c then [c]
  else ['\\', 'u', '\x7b'] ++ Nat.toDigits 16 c.toNat ++ ['\x7d']

/-- A character in single quotes. -/
def quotedChar (c : Char) : String := .ofList ('\x27' :: escape '\x27' c ++ ['\x27'])

/-- A text in double quotes. -/
def quoted (s : String) : String := .ofList ('"' :: s.toList.flatMap (escape '"') ++ ['"'])

/-! ## What is escaped -/

example : quotedChar 'é' = "'é'" := by decide +kernel
example : quotedChar '\u0301' = "'\\u\x7b301\x7d'" := by decide +kernel
example : quotedChar '\u3164' = "'\\u\x7b3164\x7d'" := by decide +kernel
example : quotedChar '\uff9e' = "'\uff9e'" := by decide +kernel
example : quoted "it's\n\"" = "\"it's\\n\\\"\"" := by decide +kernel

end LayoutLang.Text
