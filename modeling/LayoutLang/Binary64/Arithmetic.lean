import LayoutLang.Binary64.Rounding

/-!
# Sums, quotients and conversions of doubles

Each operation on finite doubles is the exact one on rationals, rounded once.  What remains are
the cases that have no rational result: the sign of an exact zero, the infinities, division by
zero, and the NaN that stands for an undefined result.
-/

namespace LayoutLang.Binary64

/-- The rounded sum.  A sum that is exactly zero is negative only if both terms are. -/
def add : Binary64 → Binary64 → Binary64
  | .nan, _ => .nan
  | _, .nan => .nan
  | .infinity s, .infinity t => if s = t then .infinity s else .nan
  | .infinity s, .finite .. => .infinity s
  | .finite .., .infinity t => .infinity t
  | .finite s m, .finite t n =>
    let sum := toRat (.finite s m) + toRat (.finite t n)
    if sum = 0 then zero (s && t) else ofRat sum

instance : Add Binary64 := ⟨add⟩

/-- The rounded quotient.  It is negative if exactly one of the two is, also where it is zero or
infinite; zero by zero and infinity by infinity have none. -/
def div : Binary64 → Binary64 → Binary64
  | .nan, _ => .nan
  | _, .nan => .nan
  | .infinity _, .infinity _ => .nan
  | .infinity s, .finite t _ => .infinity (s != t)
  | .finite s _, .infinity t => zero (s != t)
  | .finite s m, .finite t n =>
    if n.val = 0 then
      if m.val = 0 then .nan else .infinity (s != t)
    else nearest (s != t) (magnitude m / magnitude n)

instance : Div Binary64 := ⟨div⟩

/-- The double nearest to an integer. -/
def ofInt (i : Int) : Binary64 := ofRat i

/-- The double that is the same number as the single with the given bits: every single is a
double. -/
def ofSingleBits (bits : UInt32) : Binary64 :=
  let n := bits.toNat
  let negative : Bool := 0x80000000 ≤ n
  let exponent := n / 0x800000 % 0x100
  let fraction := n % 0x800000
  if exponent = 0xFF then
    if fraction = 0 then .infinity negative else .nan
  else if exponent = 0 then nearest negative (fraction * 2 ^ (-149 : Int))
  else nearest negative ((0x800000 + fraction : Nat) * 2 ^ ((exponent : Int) - 150))

end LayoutLang.Binary64
