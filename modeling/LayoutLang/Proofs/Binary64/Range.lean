import LayoutLang.Proofs.Binary64.Rounding

/-!
# The range of doubles

Magnitudes of `2 ^ 1024` and more round to infinity, and those below half of the least positive
double to zero.  The sign of what is rounded has no part in this: `nearest` takes a magnitude and a
sign, and with the other sign it gives the other double.
-/

namespace LayoutLang.Binary64

/-- The other sign, the other double. -/
theorem nearest_not (negative : Bool) (q : Rat) : nearest (!negative) q = -nearest negative q := by
  unfold nearest
  split
  · rfl
  · split <;> rfl

/-! ## Rounding to an integer -/

/-- An integer below a number is not above what it is rounded to. -/
theorem le_roundHalfEven {n : Int} {q : Rat} (h : (n : Rat) ≤ q) : n ≤ roundHalfEven q := by
  have hfloor : n ≤ q.floor := Rat.le_floor_iff.mpr h
  unfold roundHalfEven
  dsimp only
  split
  · exact hfloor
  · split
    · omega
    · split <;> omega

/-- Less than one half is rounded to zero. -/
theorem roundHalfEven_eq_zero {q : Rat} (hnonneg : 0 ≤ q) (h : q < 1 / 2) :
    roundHalfEven q = 0 := by
  have hfloor : q.floor = 0 := by
    have hle : 0 ≤ q.floor := Rat.le_floor_iff.mpr (by exact_mod_cast hnonneg)
    have hlt : q.floor < 1 := by
      have hone : q < (1 : Int) := h.trans (by norm_num)
      exact not_le.mp fun hle => absurd (Rat.le_floor_iff.mp hle) (not_le.mpr hone)
    omega
  unfold roundHalfEven
  simp only [hfloor, Int.cast_zero, sub_zero]
  exact if_pos h

/-! ## Too great -/

theorem rankCount_le_nearestRank {q : Rat} (h : (2 : Rat) ^ (1024 : Int) ≤ q) :
    rankCount ≤ nearestRank q := by
  obtain ⟨hle, hlt⟩ := binade_spec ((two_zpow_pos 1024).trans_le h)
  have hbinade : (1024 : Int) < binade q + 1 := two_zpow_lt_iff.mp (h.trans_lt hlt)
  have hspacing : spacing q = binade q - 52 := by
    unfold spacing
    omega
  have hsize : ((binadeSize : Int) : Rat) = 2 ^ (52 : Int) := by norm_num
  have hround : (binadeSize : Int) ≤ roundHalfEven (q / 2 ^ spacing q) := by
    refine le_roundHalfEven ?_
    rw [le_div_iff₀ (two_zpow_pos _), hsize, ← zpow_add₀ two_ne_zero, hspacing]
    simpa using hle
  unfold nearestRank
  dsimp only
  unfold rankCount binadeSize at *
  omega

theorem nearest_of_le {q : Rat} (h : (2 : Rat) ^ (1024 : Int) ≤ q) (negative : Bool) :
    nearest negative q = .infinity negative := by
  have hpos : 0 < q := (two_zpow_pos 1024).trans_le h
  unfold nearest
  rw [if_neg (not_le.mpr hpos), dif_neg (not_lt.mpr (rankCount_le_nearestRank h))]

/-! ## Too small -/

theorem nearestRank_of_lt {q : Rat} (hpos : 0 < q) (h : q < (2 : Rat) ^ (-1075 : Int)) :
    nearestRank q = 0 := by
  have hbinade : binade q < -1075 := two_zpow_lt_iff.mp ((binade_spec hpos).1.trans_lt h)
  have hspacing : spacing q = -1074 := by
    unfold spacing
    omega
  have hhalf : q / 2 ^ (-1074 : Int) < 1 / 2 := by
    rw [div_lt_iff₀ (two_zpow_pos _)]
    calc q < 2 ^ (-1075 : Int) := h
      _ = 1 / 2 * 2 ^ (-1074 : Int) := by
          rw [show (-1075 : Int) = -1 + -1074 by omega, zpow_add₀ two_ne_zero]
          norm_num
  unfold nearestRank
  dsimp only
  rw [hspacing, roundHalfEven_eq_zero (div_pos hpos (two_zpow_pos _)).le hhalf]
  rfl

theorem nearest_of_lt {q : Rat} (h : q < (2 : Rat) ^ (-1075 : Int)) (negative : Bool) :
    nearest negative q = zero negative := by
  unfold nearest
  split
  · rfl
  · next hpos =>
    have hrank := nearestRank_of_lt (not_le.mp hpos) h
    rw [dif_pos (by rw [hrank]; decide)]
    simp only [hrank]
    rfl

end LayoutLang.Binary64
