/-!
# Doubles

A double is a NaN, an infinity or a finite number.  The finite magnitudes are numbered upwards
from zero, and a finite double holds its sign and the *rank* of its magnitude: rank 0 is zero,
rank 1 the least positive double, and the magnitude of rank `r + 1` is the next one above that
of rank `r`.  A rank is at the same time the low 63 bits of the interchange format.  So the type
has exactly one value for each double (all NaNs being one), equality of values is equality of
bits, the order of magnitudes is the order of ranks, and there is no field that could disagree
with another.

What a finite double means is a rational number, `toRat`.  Comparisons are those of numbers: the
two zeros are equal, and a NaN is neither below, above nor equal to anything, itself included.
-/

namespace LayoutLang

/-- How many finite magnitudes there are; also the bits of the positive infinity. -/
abbrev Binary64.rankCount : Nat := 0x7FF0000000000000

/-- A double: `rank` counts the finite magnitudes upwards from zero. -/
inductive Binary64 where
  | nan
  | infinity (negative : Bool)
  | finite (negative : Bool) (rank : Fin Binary64.rankCount)
deriving DecidableEq, Inhabited

namespace Binary64

/-! ## Numbers that the format names -/

/-- The zero of the given sign. -/
def zero (negative : Bool) : Binary64 := .finite negative ⟨0, by decide⟩

/-- The double 1. -/
def one : Binary64 := .finite false ⟨0x3FF0000000000000, by decide⟩

/-! ## The value of a finite double -/

/-- Ranks below this one are the subnormal magnitudes; each run of as many ranks after it is one
binade. -/
abbrev binadeSize : Nat := 0x10000000000000

/-- The integer factor of a magnitude. -/
def significand (rank : Nat) : Nat :=
  if rank < binadeSize then rank else binadeSize + rank % binadeSize

/-- The power of two by which `significand` is scaled. -/
def scale (rank : Nat) : Int :=
  if rank < binadeSize then -1074 else (rank / binadeSize : Nat) - 1075

/-- The rational number of a rank: `significand * 2 ^ scale`. -/
def magnitude (rank : Nat) : Rat := significand rank * 2 ^ scale rank

/-- The rational number that a finite double stands for; 0 for the others, which stand for none. -/
def toRat : Binary64 → Rat
  | .finite negative rank => if negative then -magnitude rank else magnitude rank
  | _ => 0

/-- Neither a NaN nor an infinity. -/
def isFinite : Binary64 → Bool
  | .finite .. => true
  | _ => false

/-! ## Sign and order -/

/-- The double with the other sign. -/
def neg : Binary64 → Binary64
  | .nan => .nan
  | .infinity negative => .infinity !negative
  | .finite negative rank => .finite (!negative) rank

instance : Neg Binary64 := ⟨neg⟩

/-- The place of a double in the order of numbers: its rank with its sign, the infinities coming
after all finite ranks.  A NaN has no place. -/
def place? : Binary64 → Option Int
  | .nan => none
  | .infinity negative => some (if negative then -(rankCount : Int) else rankCount)
  | .finite negative rank => some (if negative then -(rank.val : Int) else rank.val)

/-- Whether the first is the lesser number. -/
def lt (x y : Binary64) : Bool :=
  match x.place?, y.place? with
  | some a, some b => a < b
  | _, _ => false

/-- Whether the first is the lesser number or an equal one. -/
def le (x y : Binary64) : Bool :=
  match x.place?, y.place? with
  | some a, some b => a ≤ b
  | _, _ => false

/-- Whether the two are the same number.  This is not equality of values: the zeros are the same
number, and a NaN is no number. -/
def sameNumber (x y : Binary64) : Bool :=
  match x.place?, y.place? with
  | some a, some b => a = b
  | _, _ => false

instance : LT Binary64 := ⟨fun x y => x.lt y = true⟩

instance : LE Binary64 := ⟨fun x y => x.le y = true⟩

instance (x y : Binary64) : Decidable (x < y) := inferInstanceAs (Decidable (x.lt y = true))

instance (x y : Binary64) : Decidable (x ≤ y) := inferInstanceAs (Decidable (x.le y = true))

/-! ## The interchange format -/

/-- The bit that holds the sign. -/
abbrev signBit : Nat := 0x8000000000000000

/-- The double with the given bits. -/
def ofBits (bits : UInt64) : Binary64 :=
  let negative : Bool := signBit ≤ bits.toNat
  let rest := bits.toNat % signBit
  if h : rest < rankCount then .finite negative ⟨rest, h⟩
  else if rest = rankCount then .infinity negative
  else .nan

/-- The bits of a double; a NaN has those of the positive quiet one. -/
def toBits : Binary64 → UInt64
  | .nan => 0x7FF8000000000000
  | .infinity negative => .ofNat (rankCount + if negative then signBit else 0)
  | .finite negative rank => .ofNat (rank.val + if negative then signBit else 0)

/-- No two doubles share their bits. -/
theorem ofBits_toBits (x : Binary64) : ofBits x.toBits = x := by
  cases x with
  | nan => decide
  | infinity negative => cases negative <;> decide
  | finite negative rank =>
    obtain ⟨rank, hrank⟩ := rank
    unfold rankCount at hrank
    cases negative
    · have hbits : (UInt64.ofNat rank).toNat = rank := UInt64.toNat_ofNat_of_lt' (by
        unfold UInt64.size; omega)
      have hmod : rank % 0x8000000000000000 = rank := Nat.mod_eq_of_lt (by omega)
      have hsign : ¬ 0x8000000000000000 ≤ rank := by omega
      simp [toBits, ofBits, signBit, rankCount, hbits, hmod, hsign, hrank]
    · have hbits : (UInt64.ofNat (rank + 0x8000000000000000)).toNat = rank + 0x8000000000000000 :=
        UInt64.toNat_ofNat_of_lt' (by unfold UInt64.size; omega)
      have hmod : (rank + 0x8000000000000000) % 0x8000000000000000 = rank := by omega
      have hsign : 0x8000000000000000 ≤ rank + 0x8000000000000000 := by omega
      simp only [toBits, ofBits, if_true, signBit, rankCount, hbits, hmod]
      simp [hrank]

end Binary64

end LayoutLang
