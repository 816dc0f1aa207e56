import LayoutLang.Decimal.Layout
import LayoutLang.Proofs.Binary64.Order
import LayoutLang.Proofs.Binary64.Rounding
import LayoutLang.Proofs.Decimal.Literal
import Mathlib.Algebra.Field.Rat
import Mathlib.Tactic.NormNum.Prime

/-!
# A written double is read back

The decimal that is written for a double rounds to it.  Where the search on the grids has a hit this
is what a hit is; after the last grid stands the exact decimal, and rounding leaves the magnitude of
a double alone.  The positional form of a decimal is a number literal of the same value.  So the
text of a double without its sign is a number literal, and reading it gives the double
(`isNumeral_positional`, `ofText_shortest`).  Hence no two finite doubles have the same text
(`text_inj`).
-/

namespace LayoutLang

namespace Binary64

/-! ## The decimal that is written -/

/-- Only halves are taken of a significand, so that the denominator is a power of two. -/
theorem den_magnitude (rank : Nat) : ∃ k, (magnitude rank).den = 2 ^ k := by
  obtain hscale | hscale := le_or_gt 0 (scale rank)
  · obtain ⟨n, hn⟩ := Int.eq_ofNat_of_zero_le hscale
    refine ⟨0, ?_⟩
    have hint : magnitude rank = ((significand rank * 2 ^ n : Nat) : Rat) := by
      rw [magnitude, hn, zpow_natCast]
      push_cast
      rfl
    rw [hint]
    rfl
  · obtain ⟨n, hn⟩ := Int.eq_ofNat_of_zero_le (Int.neg_nonneg_of_nonpos hscale.le)
    have hquotient : magnitude rank = Rat.divInt (significand rank) ((2 ^ n : Nat) : Int) := by
      rw [magnitude, ← neg_neg (scale rank), hn, zpow_neg, zpow_natCast, Rat.divInt_eq_div,
        div_eq_mul_inv]
      push_cast
      rfl
    have hdvd : (magnitude rank).den ∣ 2 ^ n := by
      rw [hquotient]
      exact Int.natCast_dvd_natCast.mp (Rat.den_dvd _ _)
    obtain ⟨k, -, hk⟩ := (Nat.dvd_prime_pow Nat.prime_two).mp hdvd
    exact ⟨k, hk⟩

/-- With a power of two as its denominator, a number has a decimal that is exactly it. -/
theorem value_exactDecimal {q : Rat} (hq : 0 ≤ q) {k : Nat} (hden : q.den = 2 ^ k) :
    (exactDecimal q).value = q := by
  have hlog : q.den.log2 = k := by rw [hden, Nat.log2_two_pow]
  have hnum : ((q.num.natAbs : Nat) : Rat) = q * 2 ^ k := by
    rw [Nat.cast_natAbs, abs_of_nonneg (Rat.num_nonneg.mpr hq), ← Rat.mul_den_eq_num, hden]
    push_cast
    rfl
  have hten : (10 : Rat) ^ k = 2 ^ k * 5 ^ k := by
    rw [← mul_pow]
    norm_num
  show ((q.num.natAbs * 5 ^ q.den.log2 : Nat) : Rat) * 10 ^ (-(q.den.log2 : Int)) = q
  rw [hlog, Nat.cast_mul, Nat.cast_pow, hnum, zpow_neg, zpow_natCast, hten, mul_assoc q]
  exact mul_inv_cancel_right₀ (by positivity) q

theorem readsAs_of_onGrid? {rank : Fin rankCount} {e : Int} {d : Decimal}
    (h : onGrid? rank e = some d) : readsAs rank d = true := by
  simp only [onGrid?] at h
  split at h
  · next hlower hupper =>
    split at h
    · exact Option.some.inj h ▸ hupper
    · exact Option.some.inj h ▸ hlower
  · next hlower _ => exact Option.some.inj h ▸ hlower
  · next _ hupper => exact Option.some.inj h ▸ hupper
  · cases h

/-- The shortest decimal of a double rounds to it. -/
theorem ofDecimal_shortest (rank : Fin rankCount) :
    ofDecimal false (shortest rank) = .finite false rank := by
  unfold shortest
  dsimp only
  split
  · next hzero =>
    obtain rfl : rank = ⟨0, by decide⟩ := Fin.ext hzero
    rw [ofDecimal, Decimal.value, Nat.cast_zero, zero_mul, nearest, if_pos le_rfl]
    rfl
  · cases hfind : (List.range gridCount).findSome? fun (k : Nat) =>
        onGrid? rank (coarsestExponent (magnitude rank) - k) with
    | some d =>
        obtain ⟨k, -, hk⟩ := List.exists_of_findSome?_eq_some hfind
        exact of_decide_eq_true (readsAs_of_onGrid? hk)
    | none =>
        obtain ⟨k, hden⟩ := den_magnitude rank
        have hnonneg : 0 ≤ magnitude rank :=
          mul_nonneg (Nat.cast_nonneg _) (two_zpow_pos _).le
        show nearest false (exactDecimal (magnitude rank)).value = _
        rw [value_exactDecimal hnonneg hden, nearest_magnitude]

end Binary64

/-! ## The positional form -/

namespace Decimal

theorem isDigits_toDigits (n : Nat) : IsDigits (Nat.toDigits 10 n) :=
  ⟨Nat.toDigits_ne_nil, fun _ => Nat.isDigit_of_mem_toDigits (by decide) (by decide)⟩

variable {places : Nat}

/-- Zeros in front of the digits of a number that has fewer. -/
theorem isDigits_leftpad (n places : Nat) :
    IsDigits ((Nat.toDigits 10 n).leftpad places '0') := by
  constructor
  · intro h
    rw [List.leftpad, List.append_eq_nil_iff] at h
    exact Nat.toDigits_ne_nil h.2
  · intro c hc
    rw [List.leftpad, List.mem_append] at hc
    rcases hc with hc | hc
    · rw [List.eq_of_mem_replicate hc]
      decide
    · exact (isDigits_toDigits n).2 c hc

theorem ofDigitChars_leftpad (n places : Nat) :
    Nat.ofDigitChars 10 ((Nat.toDigits 10 n).leftpad places '0') 0 = n := by
  rw [List.leftpad, Nat.ofDigitChars_append, Nat.ofDigitChars_replicate_zero, Nat.mul_zero,
    Nat.ofDigitChars_ten_toDigits]

theorem length_leftpad_toDigits {n : Nat} (hplaces : 0 < places) (hn : n < 10 ^ places) :
    ((Nat.toDigits 10 n).leftpad places '0').length = places := by
  rw [List.length_leftpad]
  exact Nat.max_eq_left ((Nat.length_toDigits_le_iff (by decide) hplaces).mpr hn)

/-- The digits around a point are those of the decimal. -/
theorem ofParts_split (digits : Nat) (hplaces : 0 < places) :
    ofParts (Nat.toDigits 10 (digits / 10 ^ places))
        ((Nat.toDigits 10 (digits % 10 ^ places)).leftpad places '0')
      = ⟨digits, -(places : Int)⟩ := by
  have hlt : digits % 10 ^ places < 10 ^ places := Nat.mod_lt _ (Nat.pow_pos (by decide))
  have hlength := length_leftpad_toDigits hplaces hlt
  rw [ofParts, Nat.ofDigitChars_append, Nat.ofDigitChars_ten_toDigits,
    Nat.ofDigitChars_eq_ofDigitChars_zero, hlength, ofDigitChars_leftpad, Nat.div_add_mod]

/-- The positional form of a decimal is a number literal. -/
theorem isNumeral_positional (d : Decimal) : IsNumeral d.positional := by
  unfold positional
  split
  · exact .whole (isDigits_toDigits _)
  · exact .point (isDigits_toDigits _) (isDigits_leftpad _ _)

/-- Its value is that of the decimal. -/
theorem ofText_positional (d : Decimal) :
    Binary64.ofText (.ofList d.positional) = .ok (.ofDecimal false d) := by
  obtain ⟨digits, exponent⟩ := d
  unfold positional
  cases exponent with
  | ofNat zeros =>
      have hvalue : (ofParts (Nat.toDigits 10 (digits * 10 ^ zeros)) []).value
          = value ⟨digits, zeros⟩ := by
        rw [ofParts, List.append_nil, Nat.ofDigitChars_ten_toDigits]
        show ((digits * 10 ^ zeros : Nat) : Rat) * 10 ^ (0 : Int) = digits * 10 ^ (zeros : Int)
        rw [zpow_zero, mul_one, zpow_natCast]
        push_cast
        rfl
      refine (Binary64.ofText_whole (isDigits_toDigits _)).trans ?_
      exact congrArg (fun q => Except.ok (Binary64.nearest false q)) hvalue
  | negSucc n =>
      refine (Binary64.ofText_point (isDigits_toDigits _) (isDigits_leftpad _ _)).trans ?_
      exact congrArg (fun d => Except.ok (Binary64.ofDecimal false d))
        (ofParts_split digits (Nat.succ_pos n))

end Decimal

/-! ## The text of a double -/

namespace Binary64

theorem ofText_shortest (rank : Fin rankCount) :
    ofText (.ofList (shortest rank).positional) = .ok (.finite false rank) := by
  rw [Decimal.ofText_positional, ofDecimal_shortest]

/-- No two magnitudes have the same text. -/
theorem positional_shortest_inj {r r' : Fin rankCount}
    (h : (shortest r).positional = (shortest r').positional) : r = r' := by
  have hread := ofText_shortest r
  rw [h, ofText_shortest r'] at hread
  cases hread
  rfl

/-- The text of a finite number starts with a digit or with a minus sign. -/
theorem head_text {x : Binary64} (hx : x.isFinite = true) :
    ∃ c rest, x.text.toList = c :: rest ∧ (c.isDigit = true ∨ c = '-') := by
  obtain ⟨negative, rank, rfl⟩ := isFinite_iff.mp hx
  obtain ⟨c, rest, hdigits, hc⟩ := (Decimal.isNumeral_positional (shortest rank)).head
  cases negative with
  | false => exact ⟨c, rest, by simp [text, signText, hdigits], .inl hc⟩
  | true => exact ⟨'-', c :: rest, by simp [text, signText, hdigits], .inr rfl⟩

/-- No two finite numbers have the same text; the zeros are two numbers here. -/
theorem text_inj {x y : Binary64} (hx : x.isFinite = true) (hy : y.isFinite = true)
    (h : x.text = y.text) : x = y := by
  obtain ⟨s, r, rfl⟩ := isFinite_iff.mp hx
  obtain ⟨t, q, rfl⟩ := isFinite_iff.mp hy
  -- A magnitude starts with a digit, so that the sign can be told from it.
  have hdigit : ∀ (r : Fin rankCount) rest, (shortest r).positional ≠ '-' :: rest := by
    intro r rest hminus
    obtain ⟨c, cs, hdigits, hc⟩ := (Decimal.isNumeral_positional (shortest r)).head
    obtain ⟨rfl, -⟩ := List.cons.inj (hdigits.symm.trans hminus)
    exact absurd hc (by decide)
  have htext : signText s ++ (shortest r).positional = signText t ++ (shortest q).positional :=
    String.ofList_injective h
  cases s with
  | false =>
      cases t with
      | false => rw [positional_shortest_inj htext]
      | true => exact absurd htext (hdigit r _)
  | true =>
      cases t with
      | false => exact absurd htext.symm (hdigit q _)
      | true => rw [positional_shortest_inj (List.cons.inj htext).2]

end Binary64

end LayoutLang
