import LayoutLang.Binary64.Basic

/-!
# Rounding a rational to a double

`nearest` is the one place where precision is lost.  It takes an exact magnitude and gives the
double next to it, to the even neighbour when two are equally near, and to infinity from half a
step above the greatest double on.  The steps: `binade` finds the power of two below the
magnitude, `spacing` the distance between doubles there, and the quotient by that distance is
rounded to an integer.  Because ranks count the magnitudes in order, the rounded quotient may be
added to the rank at which the binade starts without a case for the carry into the next binade.
-/

namespace LayoutLang.Binary64

/-- The integer nearest to a rational; of two, the even one. -/
def roundHalfEven (q : Rat) : Int :=
  let below := q.floor
  let rest := q - below
  if rest < 1 / 2 then below
  else if 1 / 2 < rest then below + 1
  else if below % 2 = 0 then below else below + 1

/-- The greatest `k` with `2 ^ k ≤ q`, for a positive `q`: numerator and denominator have lengths
whose difference is `k` or `k + 1`. -/
def binade (q : Rat) : Int :=
  let k : Int := (q.num.natAbs.log2 : Int) - (q.den.log2 : Int)
  if 2 ^ k ≤ q then k else k - 1

/-- The distance between neighbouring doubles around `q` is two to this power: a significand has
53 bits, fewer below the least normal magnitude. -/
def spacing (q : Rat) : Int := max (binade q - 52) (-1074)

/-- The rank nearest to a positive magnitude, counted on past the greatest finite one. -/
def nearestRank (q : Rat) : Nat :=
  let e := spacing q
  ((e + 1074) * binadeSize + roundHalfEven (q / 2 ^ e)).toNat

/-- The double of the given sign that is nearest to a magnitude. -/
def nearest (negative : Bool) (q : Rat) : Binary64 :=
  if q ≤ 0 then zero negative
  else if h : nearestRank q < rankCount then .finite negative ⟨nearestRank q, h⟩
  else .infinity negative

/-- The double nearest to a rational; it is positive for zero. -/
def ofRat (q : Rat) : Binary64 := nearest (q < 0) q.abs

end LayoutLang.Binary64
