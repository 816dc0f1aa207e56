import LayoutLang.Binary64.Arithmetic
import LayoutLang.Proofs.Binary64.Rounding
import Mathlib.Order.Monotone.Basic

/-!
# Comparisons are those of numbers

Doubles are compared by their places, which count ranks.  One rank up is one distance up
(`magnitude_succ`), so that ranks are ordered as their magnitudes are, and comparing two finite
doubles is comparing the rationals that they stand for (`lt_iff`, `le_iff`, `sameNumber_iff`).
Negation negates the rational, and a sum with zero is the other term.
-/

namespace LayoutLang.Binary64

/-! ## The order of magnitudes -/

/-- One rank up is one step up in a binade, or the first step of the next one. -/
theorem succ_div_mod (rank : Nat) :
    ((rank + 1) % binadeSize = rank % binadeSize + 1
        ∧ (rank + 1) / binadeSize = rank / binadeSize)
      ∨ ((rank + 1) % binadeSize = 0 ∧ rank % binadeSize + 1 = binadeSize
        ∧ (rank + 1) / binadeSize = rank / binadeSize + 1) := by
  unfold binadeSize
  omega

/-- The next magnitude is one distance away, also where the distance changes. -/
theorem magnitude_succ (rank : Nat) : magnitude (rank + 1) = magnitude rank + 2 ^ scale rank := by
  have hstep := succ_div_mod rank
  have hmod : (rank + 1) % binadeSize < binadeSize := Nat.mod_lt _ (by decide)
  have hsub : rank < binadeSize → rank / binadeSize = 0 ∧ rank % binadeSize = rank := fun h =>
    ⟨Nat.div_eq_of_lt h, Nat.mod_eq_of_lt h⟩
  by_cases hcarry : binadeSize ≤ rank ∧ (rank + 1) % binadeSize = 0
  · -- The last rank of a binade: half the significand at twice the scale.
    obtain ⟨hnormal, hmod⟩ := hcarry
    have hsig : significand rank + 1 = 2 * binadeSize := by
      rw [significand, if_neg (by omega)]
      omega
    have hsig' : significand (rank + 1) = binadeSize := by
      rw [significand, if_neg (by omega), hmod]
    have hscale : scale (rank + 1) = 1 + scale rank := by
      rw [scale, scale, if_neg (by omega), if_neg (by omega)]
      omega
    calc magnitude (rank + 1) = (binadeSize : Nat) * (2 ^ (1 : Int) * 2 ^ scale rank) := by
          rw [magnitude, hsig', hscale, zpow_add₀ two_ne_zero]
      _ = ((2 * binadeSize : Nat) : Rat) * 2 ^ scale rank := by
          rw [zpow_one, ← mul_assoc, Nat.cast_mul, mul_comm ((2 : Nat) : Rat)]
          rfl
      _ = magnitude rank + 2 ^ scale rank := by
          rw [← hsig, Nat.cast_succ, add_mul, one_mul, magnitude]
  · have hsig : significand (rank + 1) = significand rank + 1 := by
      unfold significand
      split <;> split <;> omega
    have hscale : scale (rank + 1) = scale rank := by
      unfold scale
      split <;> split <;> omega
    rw [magnitude, magnitude, hsig, hscale, Nat.cast_succ, add_mul, one_mul]

theorem magnitude_strictMono : StrictMono magnitude := by
  refine strictMono_nat_of_lt_succ ?_
  intro rank
  rw [magnitude_succ]
  exact lt_add_of_pos_right _ (two_zpow_pos _)

theorem magnitude_nonneg (rank : Nat) : 0 ≤ magnitude rank := by
  rw [← magnitude_zero]
  exact magnitude_strictMono.monotone (Nat.zero_le rank)

/-! ## The order of finite doubles -/

/-- The finite doubles, as values. -/
theorem isFinite_iff {x : Binary64} :
    x.isFinite = true ↔ ∃ negative rank, x = .finite negative rank := by
  constructor
  · intro h
    cases x with
    | finite negative rank => exact ⟨negative, rank, rfl⟩
    | nan => cases h
    | infinity negative => cases h
  · rintro ⟨negative, rank, rfl⟩
    rfl

/-- Places are ordered as the numbers are. -/
theorem signed_lt_iff (s t : Bool) (m n : Nat) :
    (if s then -(m : Int) else m) < (if t then -(n : Int) else n)
      ↔ (if s then -magnitude m else magnitude m) < (if t then -magnitude n else magnitude n) := by
  have hlt : ∀ a b : Nat, magnitude a < magnitude b ↔ a < b := fun a b =>
    magnitude_strictMono.lt_iff_lt
  have hzero : ∀ a : Nat, 0 < magnitude a ↔ 0 < a := by
    intro a
    rw [← hlt 0 a, magnitude_zero]
  have hm := magnitude_nonneg m
  have hn := magnitude_nonneg n
  cases s with
  | false =>
      cases t with
      | false => simp [hlt]
      | true =>
          have hnot : ¬ magnitude m < -magnitude n := not_lt.mpr ((neg_nonpos.mpr hn).trans hm)
          simp only [Bool.false_eq_true, if_false, if_true, hnot, iff_false]
          omega
  | true =>
      cases t with
      | true => simp [hlt]
      | false =>
          simp only [Bool.false_eq_true, if_false, if_true]
          constructor
          · intro h
            by_cases hpos : 0 < n
            · exact (neg_nonpos.mpr hm).trans_lt ((hzero n).mpr hpos)
            · have hmpos : 0 < m := by omega
              exact (neg_neg_of_pos ((hzero m).mpr hmpos)).trans_le hn
          · intro h
            by_contra hle
            obtain ⟨rfl, rfl⟩ : m = 0 ∧ n = 0 := by omega
            rw [magnitude_zero, neg_zero] at h
            exact lt_irrefl _ h

theorem signed_le_iff (s t : Bool) (m n : Nat) :
    (if s then -(m : Int) else m) ≤ (if t then -(n : Int) else n)
      ↔ (if s then -magnitude m else magnitude m) ≤ (if t then -magnitude n else magnitude n) :=
  not_lt.symm.trans ((not_congr (signed_lt_iff t s n m)).trans not_lt)

variable {x y : Binary64}

theorem lt_iff (hx : x.isFinite = true) (hy : y.isFinite = true) : x < y ↔ x.toRat < y.toRat := by
  obtain ⟨s, m, rfl⟩ := isFinite_iff.mp hx
  obtain ⟨t, n, rfl⟩ := isFinite_iff.mp hy
  show decide _ = true ↔ _
  rw [decide_eq_true_iff]
  exact signed_lt_iff s t m n

theorem le_iff (hx : x.isFinite = true) (hy : y.isFinite = true) : x ≤ y ↔ x.toRat ≤ y.toRat := by
  obtain ⟨s, m, rfl⟩ := isFinite_iff.mp hx
  obtain ⟨t, n, rfl⟩ := isFinite_iff.mp hy
  show decide _ = true ↔ _
  rw [decide_eq_true_iff]
  exact signed_le_iff s t m n

/-- Two finite doubles are the same number if they stand for the same rational. -/
theorem sameNumber_iff (hx : x.isFinite = true) (hy : y.isFinite = true) :
    x.sameNumber y = true ↔ x.toRat = y.toRat := by
  obtain ⟨s, m, rfl⟩ := isFinite_iff.mp hx
  obtain ⟨t, n, rfl⟩ := isFinite_iff.mp hy
  show decide _ = true ↔ _
  rw [decide_eq_true_iff]
  exact le_antisymm_iff.trans
    ((and_congr (signed_le_iff s t m n) (signed_le_iff t s n m)).trans le_antisymm_iff.symm)

theorem sameNumber_comm (x y : Binary64) : x.sameNumber y = y.sameNumber x := by
  unfold sameNumber
  cases x.place? with
  | none => cases y.place? <;> rfl
  | some a =>
      cases y.place? with
      | none => rfl
      | some b => simp only [eq_comm]

theorem sameNumber_refl (hx : x.isFinite = true) : x.sameNumber x = true :=
  (sameNumber_iff hx hx).mpr rfl

/-- What is compared is the places; a NaN has none. -/
theorem le_iff_place {x y : Binary64} :
    x ≤ y ↔ ∃ a ∈ x.place?, ∃ b ∈ y.place?, a ≤ b := by
  show x.le y = true ↔ _
  unfold le
  cases x.place? with
  | none => simp
  | some a => cases y.place? <;> simp

protected theorem le_trans {x y z : Binary64} (hxy : x ≤ y) (hyz : y ≤ z) : x ≤ z := by
  obtain ⟨a, ha, b, hb, hab⟩ := le_iff_place.mp hxy
  obtain ⟨b', hb', c, hc, hbc⟩ := le_iff_place.mp hyz
  obtain rfl : b = b' := Option.some.inj (hb.symm.trans hb')
  exact le_iff_place.mpr ⟨a, ha, c, hc, Int.le_trans hab hbc⟩

/-! ## Negation and zero -/

@[simp] theorem isFinite_neg (x : Binary64) : (-x).isFinite = x.isFinite := by
  cases x <;> rfl

@[simp] theorem isFinite_zero (negative : Bool) : (zero negative).isFinite = true := rfl

@[simp] theorem isFinite_one : one.isFinite = true := rfl

@[simp] theorem neg_neg_eq (x : Binary64) : - -x = x := by
  cases x with
  | nan => rfl
  | infinity negative => exact congrArg infinity (Bool.not_not negative)
  | finite negative rank => exact congrArg (finite · rank) (Bool.not_not negative)

@[simp] theorem toRat_zero (negative : Bool) : (zero negative).toRat = 0 := by
  cases negative <;> simp [zero, toRat, magnitude_zero]

theorem zero_lt_iff (hx : x.isFinite = true) : zero false < x ↔ 0 < x.toRat := by
  rw [lt_iff (isFinite_zero false) hx, toRat_zero]

theorem lt_zero_iff (hx : x.isFinite = true) : x < zero false ↔ x.toRat < 0 := by
  rw [lt_iff hx (isFinite_zero false), toRat_zero]

theorem sameNumber_zero_iff (hx : x.isFinite = true) :
    x.sameNumber (zero false) = true ↔ x.toRat = 0 := by
  rw [sameNumber_iff hx (isFinite_zero false), toRat_zero]

/-- A positive number that is not above a finite one is finite. -/
theorem isFinite_of_le (hpos : .zero false < x) (hle : x ≤ y)
    (hy : y.isFinite = true) : x.isFinite = true := by
  obtain ⟨t, n, rfl⟩ := isFinite_iff.mp hy
  cases x with
  | finite _ _ => rfl
  | nan => exact absurd hpos (by decide)
  | infinity negative =>
      cases negative with
      | true => exact absurd hpos (by decide)
      | false =>
          have hrank := n.isLt
          have hplace : (rankCount : Int) ≤ if t then -(n.val : Int) else n.val :=
            of_decide_eq_true hle
          split at hplace <;> omega

theorem toRat_neg (x : Binary64) : (-x).toRat = -x.toRat := by
  cases x with
  | nan => rfl
  | infinity negative => rfl
  | finite negative rank =>
      show toRat (.finite (!negative) rank) = _
      cases negative <;> simp [toRat]

@[simp] theorem toRat_one : one.toRat = 1 := by
  show ((significand 0x3FF0000000000000 : Nat) : Rat) * 2 ^ scale 0x3FF0000000000000 = 1
  rw [show significand 0x3FF0000000000000 = 2 ^ 52 by decide,
    show scale 0x3FF0000000000000 = -52 by decide]
  norm_num

/-- The double nearest to what a double stands for is that double, if it is not a zero, whose sign
the rational does not have. -/
theorem ofRat_toRat (hx : x.isFinite = true) (hne : x.toRat ≠ 0) : ofRat x.toRat = x := by
  obtain ⟨s, m, rfl⟩ := isFinite_iff.mp hx
  have hpos : 0 < magnitude m := by
    refine lt_of_le_of_ne (magnitude_nonneg m) ?_
    rintro h
    cases s <;> simp [toRat, ← h] at hne
  unfold ofRat
  cases s with
  | false =>
      show nearest (decide (magnitude m < 0)) (magnitude m).abs = _
      rw [decide_eq_false (not_lt.mpr hpos.le), Rat.abs_of_nonneg hpos.le, nearest_magnitude]
  | true =>
      show nearest (decide (-magnitude m < 0)) (-magnitude m).abs = _
      rw [decide_eq_true (neg_neg_of_pos hpos), Rat.abs_of_nonpos (neg_nonpos.mpr hpos.le), neg_neg,
        nearest_magnitude]

theorem finite_add_finite (s t : Bool) (m n : Fin rankCount) :
    finite s m + finite t n
      = if toRat (.finite s m) + toRat (.finite t n) = 0 then zero (s && t)
        else ofRat (toRat (.finite s m) + toRat (.finite t n)) := rfl

/-- A sum with zero is the other term; only a negative zero loses its sign. -/
theorem zero_add_eq (hx : x.isFinite = true) :
    zero false + x = if x.toRat = 0 then zero false else x := by
  obtain ⟨s, m, rfl⟩ := isFinite_iff.mp hx
  have hzero : toRat (.finite false ⟨0, by decide⟩) = 0 := toRat_zero false
  rw [zero, finite_add_finite, hzero, zero_add]
  split
  · rfl
  · next hne => exact ofRat_toRat rfl hne

theorem sameNumber_zero_add (hx : x.isFinite = true) : (zero false + x).sameNumber x = true := by
  rw [zero_add_eq hx]
  split
  · next hzero => rw [sameNumber_iff (isFinite_zero false) hx, toRat_zero, hzero]
  · exact sameNumber_refl hx

/-- A finite sum is the exact one, rounded once. -/
theorem sameNumber_add (hx : x.isFinite = true) (hy : y.isFinite = true)
    (hsum : (x + y).isFinite = true) : (x + y).sameNumber (.ofRat (x.toRat + y.toRat)) = true := by
  obtain ⟨s, m, rfl⟩ := isFinite_iff.mp hx
  obtain ⟨t, n, rfl⟩ := isFinite_iff.mp hy
  rw [finite_add_finite] at hsum ⊢
  split
  · next hzero =>
    rw [hzero]
    cases s && t <;> decide +kernel
  · next hne =>
    rw [if_neg hne] at hsum
    exact sameNumber_refl hsum

end LayoutLang.Binary64
