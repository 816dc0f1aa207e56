import LayoutLang.Decimal.Basic

/-!
# The shortest decimal of a double

Of the decimals that round to a given double, the one with the fewest digits is written, and of
several such the nearest.  Decimals with a given exponent form a grid.  A coarser grid has fewer
digits, so the search goes from a grid too coarse to hold a hit to ever finer ones.  On each it
tries the two points around the exact value: if any point of the grid rounds to the double, one
of these two does.  Seventeen digits always suffice; the exact decimal stands after the last grid
so that the result rounds to the double by construction.
-/

namespace LayoutLang.Binary64

/-- Whether a decimal rounds to the positive double of this rank. -/
def readsAs (rank : Fin rankCount) (d : Decimal) : Bool := ofDecimal false d = .finite false rank

/-- The point of a grid that is nearest to the magnitude and rounds to it, if there is one.  Of
two equally near points it is the upper one. -/
def onGrid? (rank : Fin rankCount) (exponent : Int) : Option Decimal :=
  let q := magnitude rank
  let lower : Decimal := ⟨(q / 10 ^ exponent).floor.toNat, exponent⟩
  let upper : Decimal := ⟨lower.digits + 1, exponent⟩
  match readsAs rank lower, readsAs rank upper with
  | true, true => if upper.value - q ≤ q - lower.value then some upper else some lower
  | true, false => some lower
  | false, true => some upper
  | false, false => none

/-- The exponent of a grid whose step is greater than the magnitude: 30103 / 100000 is a bound
for the decimal logarithm of two. -/
def coarsestExponent (q : Rat) : Int := (binade q + 1) * 30103 / 100000 + 1

/-- The grids that are searched reach from no digit to at least eighteen. -/
def gridCount : Nat := 21

/-- The decimal that is the magnitude itself: one factor of five for each factor of two in the
denominator. -/
def exactDecimal (q : Rat) : Decimal :=
  let halvings := q.den.log2
  ⟨q.num.natAbs * Nat.pow 5 halvings, -(halvings : Int)⟩

/-- The decimal with the fewest digits that rounds to the positive double of this rank. -/
def shortest (rank : Fin rankCount) : Decimal :=
  let q := magnitude rank
  if rank.val = 0 then ⟨0, 0⟩
  else
    ((List.range gridCount).findSome? fun (k : Nat) => onGrid? rank (coarsestExponent q - k)).getD
      (exactDecimal q)

end LayoutLang.Binary64
