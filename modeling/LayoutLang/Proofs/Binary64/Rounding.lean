import LayoutLang.Binary64.Rounding
import Mathlib.Algebra.Order.Field.Power
import Mathlib.Data.Rat.Lemmas
import Mathlib.Tactic.NormNum

/-!
# Rounding leaves doubles alone

A magnitude is a significand scaled by a power of two.  Rounding finds the power again from the
size of the number (`spacing_magnitude`), divides by it, and is left with an integer, so that
nothing is rounded: the double nearest to a magnitude is the double of that magnitude
(`nearest_magnitude`).

The power is found through the lengths of numerator and denominator.  `binade_spec` says that this
gives the binary logarithm, and `binade_eq` that a number between two neighbouring powers of two
has no other.
-/

namespace LayoutLang.Binary64

/-! ## Powers of two -/

theorem two_zpow_pos (e : Int) : (0 : Rat) < 2 ^ e := zpow_pos two_pos e

theorem two_zpow_lt_iff {a b : Int} : (2 : Rat) ^ a < 2 ^ b ↔ a < b :=
  zpow_lt_zpow_iff_right₀ one_lt_two

/-- Numbers of one length are between two neighbouring powers of two. -/
theorem log2_bounds {n : Nat} (h : n ≠ 0) :
    (2 : Rat) ^ (n.log2 : Int) ≤ n ∧ (n : Rat) < 2 ^ ((n.log2 : Int) + 1) := by
  have hle : 2 ^ n.log2 ≤ n := Nat.log2_self_le h
  have hlt : n < 2 ^ (n.log2 + 1) := Nat.lt_log2_self
  constructor
  · rw [zpow_natCast]
    exact_mod_cast hle
  · rw [← Nat.cast_succ, zpow_natCast]
    exact_mod_cast hlt

/-! ## The binade of a number -/

/-- The lengths of numerator and denominator give the logarithm up to one. -/
theorem log2_quotient_bounds {q : Rat} (h : 0 < q) :
    (2 : Rat) ^ ((q.num.natAbs.log2 : Int) - q.den.log2 - 1) ≤ q
      ∧ q < 2 ^ ((q.num.natAbs.log2 : Int) - q.den.log2 + 1) := by
  have hnum : q.num.natAbs ≠ 0 := Int.natAbs_ne_zero.mpr (Rat.num_pos.mpr h).ne'
  have hq : q * q.den = (q.num.natAbs : Rat) := by
    rw [Rat.mul_den_eq_num, Nat.cast_natAbs, abs_of_pos (Rat.num_pos.mpr h)]
  have hden : (0 : Rat) < q.den := by exact_mod_cast q.den_pos
  obtain ⟨hnumLe, hnumLt⟩ := log2_bounds hnum
  obtain ⟨hdenLe, hdenLt⟩ := log2_bounds q.den_nz
  rw [← hq] at hnumLe hnumLt
  constructor
  · refine le_of_mul_le_mul_right ?_ hden
    calc (2 : Rat) ^ ((q.num.natAbs.log2 : Int) - q.den.log2 - 1) * q.den
        ≤ 2 ^ ((q.num.natAbs.log2 : Int) - q.den.log2 - 1) * 2 ^ ((q.den.log2 : Int) + 1) :=
          mul_le_mul_of_nonneg_left hdenLt.le (two_zpow_pos _).le
      _ = 2 ^ (q.num.natAbs.log2 : Int) := by
          rw [← zpow_add₀ two_ne_zero]
          congr 1
          omega
      _ ≤ q * q.den := hnumLe
  · refine lt_of_mul_lt_mul_right ?_ hden.le
    calc q * q.den < 2 ^ ((q.num.natAbs.log2 : Int) + 1) := hnumLt
      _ = 2 ^ ((q.num.natAbs.log2 : Int) - q.den.log2 + 1) * 2 ^ (q.den.log2 : Int) := by
          rw [← zpow_add₀ two_ne_zero]
          congr 1
          omega
      _ ≤ 2 ^ ((q.num.natAbs.log2 : Int) - q.den.log2 + 1) * q.den :=
          mul_le_mul_of_nonneg_left hdenLe (two_zpow_pos _).le

/-- The binade of a positive number is its binary logarithm, rounded down. -/
theorem binade_spec {q : Rat} (h : 0 < q) : (2 : Rat) ^ binade q ≤ q ∧ q < 2 ^ (binade q + 1) := by
  obtain ⟨hle, hlt⟩ := log2_quotient_bounds h
  unfold binade
  dsimp only
  split
  · next hk => exact ⟨hk, hlt⟩
  · next hk =>
    rw [sub_add_cancel]
    exact ⟨hle, not_le.mp hk⟩

/-- There is only one power of two from which a number is less than twice away. -/
theorem binade_eq {q : Rat} {k : Int} (hle : (2 : Rat) ^ k ≤ q) (hlt : q < 2 ^ (k + 1)) :
    binade q = k := by
  obtain ⟨hle', hlt'⟩ := binade_spec ((two_zpow_pos k).trans_le hle)
  have hk : k < binade q + 1 := two_zpow_lt_iff.mp (hle.trans_lt hlt')
  have hb : binade q < k + 1 := two_zpow_lt_iff.mp (hle'.trans_lt hlt)
  omega

/-! ## The parts of a magnitude -/

theorem significand_lt (rank : Nat) : significand rank < 2 * binadeSize := by
  unfold significand
  split
  · omega
  · have hmod := Nat.mod_lt rank (show 0 < binadeSize by decide)
    omega

theorem significand_pos {rank : Nat} (h : 0 < rank) : 0 < significand rank := by
  unfold significand
  split
  · exact h
  · exact Nat.add_pos_left (by decide) _

theorem magnitude_zero : magnitude 0 = 0 := by
  show ((0 : Nat) : Rat) * _ = 0
  rw [Nat.cast_zero, zero_mul]

theorem magnitude_pos {rank : Nat} (h : 0 < rank) : 0 < magnitude rank :=
  mul_pos (Nat.cast_pos.mpr (significand_pos h)) (two_zpow_pos _)

/-- A rank counts the binades below it and the steps in its own. -/
theorem rank_eq (rank : Nat) : (scale rank + 1074) * binadeSize + significand rank = rank := by
  unfold scale significand
  split
  · simp
  · have hdiv := Nat.div_add_mod rank binadeSize
    push_cast
    omega

/-- The distance between doubles around a magnitude is the power by which it is scaled. -/
theorem spacing_magnitude {rank : Nat} (h : 0 < rank) :
    spacing (magnitude rank) = scale rank := by
  have hsize : ((binadeSize : Nat) : Rat) = 2 ^ (52 : Int) := by norm_num
  unfold spacing
  by_cases hsub : rank < binadeSize
  · -- Below the least normal magnitude the distance does not shrink any further.
    have hscale : scale rank = -1074 := if_pos hsub
    have hsig : significand rank = rank := if_pos hsub
    have hlt : magnitude rank < 2 ^ (-1022 : Int) := by
      calc magnitude rank = (rank : Rat) * 2 ^ (-1074 : Int) := by rw [magnitude, hscale, hsig]
        _ < (binadeSize : Nat) * 2 ^ (-1074 : Int) :=
            mul_lt_mul_of_pos_right (Nat.cast_lt.mpr hsub) (two_zpow_pos _)
        _ = 2 ^ (-1022 : Int) := by rw [hsize, ← zpow_add₀ two_ne_zero]; rfl
    have hbinade := two_zpow_lt_iff.mp ((binade_spec (magnitude_pos h)).1.trans_lt hlt)
    rw [hscale]
    omega
  · have hscale : scale rank = (rank / binadeSize : Nat) - 1075 := if_neg hsub
    have hdiv : 1 ≤ rank / binadeSize := by
      rw [Nat.le_div_iff_mul_le (by decide)]
      omega
    have hsig : binadeSize ≤ significand rank := by
      rw [significand, if_neg hsub]
      exact Nat.le_add_right _ _
    have hbinade : binade (magnitude rank) = 52 + scale rank := by
      refine binade_eq ?_ ?_
      · rw [zpow_add₀ two_ne_zero, ← hsize]
        exact mul_le_mul_of_nonneg_right (Nat.cast_le.mpr hsig) (two_zpow_pos _).le
      · have hlt : (significand rank : Rat) < 2 ^ (53 : Int) := by
          calc (significand rank : Rat) < ((2 * binadeSize : Nat) : Rat) :=
                Nat.cast_lt.mpr (significand_lt rank)
            _ = 2 ^ (53 : Int) := by norm_num
        rw [show 52 + scale rank + 1 = 53 + scale rank by omega, zpow_add₀ two_ne_zero]
        exact mul_lt_mul_of_pos_right hlt (two_zpow_pos _)
    rw [hbinade]
    omega

/-! ## Nothing is rounded -/

theorem roundHalfEven_intCast (n : Int) : roundHalfEven n = n := by
  unfold roundHalfEven
  rw [Rat.floor_intCast]
  simp

theorem nearestRank_magnitude {rank : Nat} (h : 0 < rank) : nearestRank (magnitude rank) = rank := by
  have hquotient : magnitude rank / 2 ^ scale rank = ((significand rank : Int) : Rat) := by
    rw [magnitude, mul_div_cancel_right₀ _ (two_zpow_pos _).ne', Int.cast_natCast]
  unfold nearestRank
  dsimp only
  rw [spacing_magnitude h, hquotient, roundHalfEven_intCast, rank_eq, Int.toNat_natCast]

/-- The double nearest to the magnitude of a double is that double. -/
theorem nearest_magnitude (negative : Bool) (rank : Fin rankCount) :
    nearest negative (magnitude rank) = .finite negative rank := by
  obtain ⟨rank, hrank⟩ := rank
  unfold nearest
  cases Nat.eq_zero_or_pos rank with
  | inl h =>
      subst h
      rw [if_pos magnitude_zero.le]
      rfl
  | inr h =>
      have hnearest := nearestRank_magnitude h
      rw [if_neg (not_le.mpr (magnitude_pos h)), dif_pos (hnearest.symm ▸ hrank)]
      simp only [hnearest]

end LayoutLang.Binary64
