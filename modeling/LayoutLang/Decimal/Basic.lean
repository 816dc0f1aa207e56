import LayoutLang.Binary64.Rounding

/-!
# Decimal numbers

A decimal is a natural number scaled by a power of ten.  One rational has many decimals (`10` and
`1 * 10 ^ 1`); which of them is written is a question of text, and of no concern here.
-/

namespace LayoutLang

/-- The number `digits * 10 ^ exponent`. -/
structure Decimal where
  digits : Nat
  exponent : Int
deriving DecidableEq, Repr, Inhabited

namespace Decimal

/-- The rational number that a decimal stands for. -/
def value (d : Decimal) : Rat := d.digits * 10 ^ d.exponent

/-- The decimal written with these digits before the point and those after it. -/
def ofParts (whole fraction : List Char) : Decimal :=
  ⟨Nat.ofDigitChars 10 (whole ++ fraction) 0, -(fraction.length : Int)⟩

end Decimal

/-- The double of the given sign that is nearest to a decimal. -/
def Binary64.ofDecimal (negative : Bool) (d : Decimal) : Binary64 := nearest negative d.value

end LayoutLang
