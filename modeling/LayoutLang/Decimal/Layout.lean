import LayoutLang.Decimal.Shortest

/-!
# Doubles as text

A double is written with its shortest digits in one of two forms.  The plain form (`text`) is
that of constraints and messages: always positional, without a point if the number is whole.  The
annotated form (`annotated`) is that of listings: it always shows that the number is a double, by
a `.0` if need be, and has an exponent where the positional form would be long.
-/

namespace LayoutLang

namespace Decimal

/-- Digits around a point, as many after it as the exponent asks for; no point if it asks for
none. -/
def positional (d : Decimal) : List Char :=
  match d.exponent with
  | .ofNat zeros => Nat.toDigits 10 (d.digits * Nat.pow 10 zeros)
  | .negSucc n =>
    let places := n + 1
    let unit := Nat.pow 10 places
    Nat.toDigits 10 (d.digits / unit)
      ++ '.' :: (Nat.toDigits 10 (d.digits % unit)).leftpad places '0'

/-- One digit, the others after a point, and the exponent that this position of the point
needs. -/
def scientific (d : Decimal) : List Char :=
  let ds := Nat.toDigits 10 d.digits
  let fraction := if ds.length = 1 then [] else '.' :: ds.drop 1
  let exponent := d.exponent + ds.length - 1
  ds.take 1 ++ fraction ++ 'e' :: (toString exponent).toList

end Decimal

namespace Binary64

/-- The minus sign of a negative number. -/
def signText (negative : Bool) : List Char := if negative then ['-'] else []

/-- The plain form: the shortest digits, positional, `-0` for the negative zero. -/
def text : Binary64 → String
  | .nan => "NaN"
  | .infinity negative => .ofList (signText negative ++ ['i', 'n', 'f'])
  | .finite negative rank => .ofList (signText negative ++ (shortest rank).positional)

/-- Whether the annotated form has an exponent: nonzero magnitudes below 1/10000, and those from
10^16 on. -/
def needsExponent (rank : Fin rankCount) : Bool :=
  let q := magnitude rank
  rank.val ≠ 0 && (q < 1 / 10000 || 10000000000000000 ≤ q)

/-- The annotated form of a magnitude. -/
def annotatedMagnitude (rank : Fin rankCount) : List Char :=
  let d := shortest rank
  if needsExponent rank then d.scientific
  else if d.exponent < 0 then d.positional
  else d.positional ++ ['.', '0']

/-- The annotated form: with an exponent if the number is very small or large, otherwise with a
point. -/
def annotated : Binary64 → String
  | .finite negative rank => .ofList (signText negative ++ annotatedMagnitude rank)
  | x => x.text

/-! ## Where the forms differ -/

example : (zero true).text = "-0" := by decide +kernel
example : (ofDecimal false ⟨1, 21⟩).text = "1000000000000000000000" := by decide +kernel
example : (ofDecimal true ⟨15, -8⟩).text = "-0.00000015" := by decide +kernel
example : (zero true).annotated = "-0.0" := by decide +kernel
example : (ofDecimal false ⟨1, 15⟩).annotated = "1000000000000000.0" := by decide +kernel
example : (ofDecimal false ⟨1, 16⟩).annotated = "1e16" := by decide +kernel
example : (ofDecimal false ⟨1, -4⟩).annotated = "0.0001" := by decide +kernel
example : (ofDecimal true ⟨15, -8⟩).annotated = "-1.5e-7" := by decide +kernel

end Binary64

end LayoutLang
