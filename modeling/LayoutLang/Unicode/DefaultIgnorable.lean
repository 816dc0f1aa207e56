import LayoutLang.Unicode.Ranges

/-!
# Characters that are left blank

The property `Default_Ignorable_Code_Point` of Unicode 17.0: characters that show nothing even
where there is a glyph for them.  Most are marks or format characters; the four Hangul fillers
are letters.
-/

namespace LayoutLang.Unicode

/-- The code points of `Default_Ignorable_Code_Point`. -/
def defaultIgnorableRanges : List (Nat × Nat) :=
  [(0xAD, 0xAD), (0x34F, 0x34F), (0x61C, 0x61C), (0x115F, 0x1160), (0x17B4, 0x17B5),
   (0x180B, 0x180F), (0x200B, 0x200F), (0x202A, 0x202E), (0x2060, 0x206F), (0x3164, 0x3164),
   (0xFE00, 0xFE0F), (0xFEFF, 0xFEFF), (0xFFA0, 0xFFA0), (0xFFF0, 0xFFF8), (0x1BCA0, 0x1BCA3),
   (0x1D173, 0x1D17A), (0xE0000, 0xE0FFF)]

/-- The runs are in ascending order. -/
theorem ascending_defaultIgnorableRanges : ascending 0 defaultIgnorableRanges = true := by
  decide +kernel

/-- Whether a character is left blank. -/
def isDefaultIgnorable (c : Char) : Bool := inRanges c.toNat defaultIgnorableRanges

end LayoutLang.Unicode
