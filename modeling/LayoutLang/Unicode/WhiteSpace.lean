import LayoutLang.Unicode.Ranges

/-!
# White space

The property `White_Space`.  It says what is trimmed from the lines of a file and from the two
sides of a metric; between the tokens of the language only five characters are blank.
-/

namespace LayoutLang.Unicode

/-- The code points of `White_Space`. -/
def whiteSpaceRanges : List (Nat × Nat) :=
  [(0x9, 0xD), (0x20, 0x20), (0x85, 0x85), (0xA0, 0xA0), (0x1680, 0x1680), (0x2000, 0x200A),
   (0x2028, 0x2029), (0x202F, 0x202F), (0x205F, 0x205F), (0x3000, 0x3000)]

/-- The runs are in ascending order. -/
theorem ascending_whiteSpaceRanges : ascending 0 whiteSpaceRanges = true := by decide +kernel

/-- Whether a character has the property `White_Space`. -/
def isWhiteSpace (c : Char) : Bool := inRanges c.toNat whiteSpaceRanges

end LayoutLang.Unicode
