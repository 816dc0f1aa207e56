import LayoutLang.Proofs.Binary64.Range
import LayoutLang.Proofs.Decimal.ReadBack
import Mathlib

/-!
# The texts that are numbers

`IsSpelling` is the grammar of the numbers that a flag can give, and says which double each text is:
words stand for the infinities and the NaN, and digits for the double nearest to the decimal that is
written.  It says nothing of how a text is taken apart.  The reader accepts the texts of this
grammar and no others, and reads them as these doubles (`ofText_eq_ok_iff`).

There is one class of texts for each reader, and of each reader it is shown what it takes from a
text of its class and that it takes nothing else.  The reader of decimals does one thing of its own:
it brings the exponent into a range.  An exponent outside of it is so far out that the decimal is
rounded to zero or to infinity whatever its digits are, and so it is with the exponent that is put
in its place (`ofDecimal_clampExponent`).

The text of every double is one of these texts (`isSpelling_text`), and no text of them has white
space or an equals sign in it (`IsSpelling.isNumeric`).
-/

namespace LayoutLang

namespace Decimal

/-! ## The classes of texts -/

/-- A sign or none, and whether it is a minus sign. -/
inductive IsSign : List Char → Bool → Prop
  | none : IsSign [] false
  | plus : IsSign ['+'] false
  | minus : IsSign ['-'] true

/-- Digits with a point among them, which may be missing, and the digits on its two sides. -/
inductive IsMantissa : List Char → List Char → List Char → Prop
  | whole {ds : List Char} : IsDigits ds → IsMantissa ds ds []
  | point {ds fs : List Char} : IsDigits (ds ++ fs) → IsMantissa (ds ++ '.' :: fs) ds fs

/-- What may stand behind the digits, and the exponent that it gives. -/
inductive IsExponent : List Char → Int → Prop
  | none : IsExponent [] 0
  | some {letter : Char} {sign ds : List Char} {negative : Bool} : letter = 'e' ∨ letter = 'E' →
      IsSign sign negative → IsDigits ds →
      IsExponent (letter :: (sign ++ ds))
        (if negative then -(Nat.ofDigitChars 10 ds 0 : Int) else Nat.ofDigitChars 10 ds 0)

/-- A number without its sign, and the decimal that is written. -/
inductive IsDecimal : List Char → Decimal → Prop
  | mk {digits exponent whole fraction : List Char} {e : Int} :
      IsMantissa digits whole fraction → IsExponent exponent e →
      IsDecimal (digits ++ exponent)
        ⟨(ofParts whole fraction).digits, (ofParts whole fraction).exponent + e⟩

end Decimal

/-- The texts of numbers, and the double that each is.  Words may be in any case. -/
inductive Binary64.IsSpelling : List Char → Binary64 → Prop
  | nan {sign word : List Char} {negative : Bool} : Decimal.IsSign sign negative →
      word.map Char.toLower = "nan".toList → IsSpelling (sign ++ word) .nan
  | infinity {sign word : List Char} {negative : Bool} : Decimal.IsSign sign negative →
      word.map Char.toLower = "inf".toList ∨ word.map Char.toLower = "infinity".toList →
      IsSpelling (sign ++ word) (.infinity negative)
  | decimal {sign cs : List Char} {negative : Bool} {d : Decimal} : Decimal.IsSign sign negative →
      Decimal.IsDecimal cs d → IsSpelling (sign ++ cs) (.ofDecimal negative d)

namespace Decimal

/-! ## Signs -/

variable {cs sign rest whole fraction : List Char} {negative : Bool} {e : Int}

/-- A character that is no sign. -/
def IsUnsigned (c : Char) : Prop := c ≠ '+' ∧ c ≠ '-'

theorem isUnsigned_of_isDigit {c : Char} (h : c.isDigit = true) : IsUnsigned c := by
  constructor <;> rintro rfl <;> exact absurd h (by decide)

theorem splitSign_append (hsign : IsSign sign negative) (hcs : ∀ c ∈ cs.head?, IsUnsigned c) :
    splitSign (sign ++ cs) = (negative, cs) := by
  cases hsign with
  | none =>
      cases cs with
      | nil => rfl
      | cons c cs =>
          obtain ⟨hplus, hminus⟩ := hcs c rfl
          rw [List.nil_append]
          unfold splitSign
          split
          · next h => exact absurd (List.cons.inj h).1 hminus
          · next h => exact absurd (List.cons.inj h).1 hplus
          · rfl
  | plus => rfl
  | minus => rfl

theorem exists_sign (cs : List Char) :
    ∃ sign, cs = sign ++ (splitSign cs).2 ∧ IsSign sign (splitSign cs).1 := by
  unfold splitSign
  split
  · exact ⟨['-'], rfl, .minus⟩
  · exact ⟨['+'], rfl, .plus⟩
  · exact ⟨[], rfl, .none⟩

/-! ## Exponents -/

theorem IsDigits.isUnsigned_head (h : IsDigits cs) : ∀ c ∈ cs.head?, IsUnsigned c := by
  obtain ⟨c, rest, rfl, hc⟩ := h.head
  rintro _ ⟨⟩
  exact isUnsigned_of_isDigit hc

theorem signedDigits?_eq_some_iff :
    signedDigits? cs = some e ↔ ∃ sign ds negative, cs = sign ++ ds ∧ IsSign sign negative
      ∧ IsDigits ds
      ∧ e = if negative then -(Nat.ofDigitChars 10 ds 0 : Int) else Nat.ofDigitChars 10 ds 0 := by
  constructor
  · intro h
    obtain ⟨sign, hcs, hsign⟩ := exists_sign cs
    unfold signedDigits? at h
    dsimp only at h
    split at h
    · next hdigits =>
      rw [List.all_eq_true] at hdigits
      exact ⟨sign, _, _, hcs, hsign, hdigits, (Option.some.inj h).symm⟩
    · cases h
  · rintro ⟨sign, ds, negative, rfl, hsign, hds, rfl⟩
    rw [signedDigits?, splitSign_append hsign hds.isUnsigned_head]
    exact if_pos ⟨hds.1, List.all_eq_true.mpr hds.2⟩

theorem exponent?_eq_some_iff : exponent? cs = some e ↔ IsExponent cs e := by
  constructor
  · intro h
    unfold exponent? at h
    split at h
    · cases h
      exact .none
    · obtain ⟨sign, ds, negative, rfl, hsign, hds, rfl⟩ := signedDigits?_eq_some_iff.mp h
      exact .some (.inl rfl) hsign hds
    · obtain ⟨sign, ds, negative, rfl, hsign, hds, rfl⟩ := signedDigits?_eq_some_iff.mp h
      exact .some (.inr rfl) hsign hds
    · cases h
  · intro h
    cases h with
    | none => rfl
    | some hletter hsign hds =>
        rcases hletter with rfl | rfl
        · exact signedDigits?_eq_some_iff.mpr ⟨_, _, _, rfl, hsign, hds, rfl⟩
        · exact signedDigits?_eq_some_iff.mpr ⟨_, _, _, rfl, hsign, hds, rfl⟩

/-- The digits of a number end where its exponent starts. -/
theorem IsExponent.head (h : IsExponent rest e) :
    ∀ c ∈ rest.head?, c.isDigit = false ∧ c ≠ '.' := by
  cases h with
  | none => nofun
  | some hletter _ _ =>
      rintro _ ⟨⟩
      rcases hletter with rfl | rfl <;> decide

/-! ## Digits around a point -/

theorem splitDigits_append {digits : List Char} (hdigits : IsMantissa digits whole fraction)
    (hrest : IsExponent rest e) : splitDigits (digits ++ rest) = (whole, fraction, rest) := by
  have hend : ∀ c ∈ rest.head?, c.isDigit = false := fun c hc => (hrest.head c hc).1
  cases hdigits with
  | whole hds =>
      rw [splitDigits, Text.takeWhile_run hds.2 hend, Text.dropWhile_run hds.2 hend]
      split
      · next hpoint => exact absurd rfl (hrest.head '.' (by simp)).2
      · rfl
  | @point ds fs hds =>
      obtain ⟨hwhole, hfraction⟩ := List.forall_mem_append.mp hds.2
      have hpoint : ∀ c ∈ ('.' :: (fraction ++ rest)).head?, c.isDigit = false := by
        rintro c ⟨⟩
        rfl
      rw [List.append_assoc, List.cons_append, splitDigits, Text.takeWhile_run hwhole hpoint,
        Text.dropWhile_run hwhole hpoint]
      simp only [Text.takeWhile_run hfraction hend, Text.dropWhile_run hfraction hend]

theorem isMantissa_of_splitDigits (h : splitDigits cs = (whole, fraction, rest))
    (hne : whole ++ fraction ≠ []) :
    ∃ digits, cs = digits ++ rest ∧ IsMantissa digits whole fraction := by
  have hrun : ∀ cs : List Char, ∀ c ∈ cs.takeWhile Char.isDigit, c.isDigit = true :=
    fun _ _ => List.mem_takeWhile_imp
  have hcs := List.takeWhile_append_dropWhile (p := Char.isDigit) (l := cs)
  unfold splitDigits at h
  dsimp only at h
  split at h
  · next tail hdrop =>
    cases h
    have htail := List.takeWhile_append_dropWhile (p := Char.isDigit) (l := tail)
    refine ⟨cs.takeWhile Char.isDigit ++ '.' :: tail.takeWhile Char.isDigit, ?_, .point ⟨hne, ?_⟩⟩
    · rw [List.append_assoc, List.cons_append, htail, ← hdrop, hcs]
    · exact List.forall_mem_append.mpr ⟨hrun cs, hrun tail⟩
  · cases h
    rw [List.append_nil] at hne
    exact ⟨_, hcs.symm, .whole ⟨hne, hrun cs⟩⟩

/-! ## Decimals -/

theorem ofDigitChars_lt {ds : List Char} (h : ∀ c ∈ ds, c.isDigit = true) :
    Nat.ofDigitChars 10 ds 0 < 10 ^ ds.length := by
  induction ds with
  | nil => exact Nat.one_pos
  | cons c ds ih =>
      obtain ⟨hc, hds⟩ := List.forall_mem_cons.mp h
      have hdigit : c.toNat - '0'.toNat ≤ 9 := by
        have hle := (Char.isDigit_iff_toNat.mp hc).2
        have hnine : '9'.toNat = '0'.toNat + 9 := rfl
        omega
      calc Nat.ofDigitChars 10 (c :: ds) 0
          = 10 ^ ds.length * (c.toNat - '0'.toNat) + Nat.ofDigitChars 10 ds 0 := by
            rw [Nat.ofDigitChars_cons, Nat.mul_zero, Nat.zero_add,
              Nat.ofDigitChars_eq_ofDigitChars_zero]
        _ < 10 ^ ds.length * 9 + 10 ^ ds.length :=
            Nat.add_lt_add_of_le_of_lt (Nat.mul_le_mul_left _ hdigit) (ih hds)
        _ = 10 ^ (c :: ds).length := by rw [List.length_cons, pow_succ]; omega

theorem IsMantissa.isDigits {digits : List Char} (h : IsMantissa digits whole fraction) :
    IsDigits (whole ++ fraction) := by
  cases h with
  | whole hds => rwa [List.append_nil]
  | point hds => exact hds

theorem IsDecimal.head {d : Decimal} (h : IsDecimal cs d) :
    ∃ c rest, cs = c :: rest ∧ (c.isDigit = true ∨ c = '.') := by
  cases h with
  | @mk digits exponent whole fraction e hdigits hexponent =>
      cases hdigits with
      | whole hds =>
          obtain ⟨c, rest, rfl, hc⟩ := hds.head
          exact ⟨c, _, rfl, .inl hc⟩
      | point hds =>
          cases whole with
          | nil => exact ⟨'.', _, rfl, .inr rfl⟩
          | cons c ds => exact ⟨c, _, rfl, .inl (hds.2 c List.mem_cons_self)⟩

end Decimal

namespace Binary64

open Decimal

/-! ## Exponents out of range -/

theorem ofDecimal_zero (negative : Bool) (e : Int) : ofDecimal negative ⟨0, e⟩ = zero negative := by
  rw [ofDecimal, Decimal.value, Nat.cast_zero, zero_mul, nearest, if_pos le_rfl]

/-- Two to the third is less than ten. -/
theorem two_zpow_le_ten_zpow : (2 : Rat) ^ (1200 : Int) ≤ 10 ^ (400 : Int) := by
  calc (2 : Rat) ^ (1200 : Int) = (2 ^ (3 : Int)) ^ (400 : Int) := by rw [← zpow_mul]; rfl
    _ ≤ 10 ^ (400 : Int) := zpow_le_zpow_left₀ (by decide) (by norm_num) (by norm_num)

/-- With so many digits at most, a decimal is too small at this exponent. -/
theorem ofDecimal_of_small {digits n : Nat} {e : Int} (hdigits : digits < 10 ^ n)
    (he : e ≤ -(n + 400 : Int)) (negative : Bool) :
    ofDecimal negative ⟨digits, e⟩ = zero negative := by
  have hten : (0 : Rat) < 10 ^ e := zpow_pos (by norm_num) e
  have hpower : (10 : Rat) ^ (-400 : Int) ≤ 2 ^ (-1200 : Int) := by
    rw [zpow_neg, zpow_neg]
    exact inv_anti₀ (two_zpow_pos _) two_zpow_le_ten_zpow
  refine nearest_of_lt ?_ negative
  calc (digits : Rat) * 10 ^ e < ((10 ^ n : Nat) : Rat) * 10 ^ e :=
        mul_lt_mul_of_pos_right (Nat.cast_lt.mpr hdigits) hten
    _ = 10 ^ (n + e : Int) := by rw [zpow_add₀ (by norm_num), zpow_natCast]; push_cast; rfl
    _ ≤ 10 ^ (-400 : Int) := zpow_le_zpow_right₀ (by norm_num) (by omega)
    _ ≤ 2 ^ (-1200 : Int) := hpower
    _ < 2 ^ (-1075 : Int) := two_zpow_lt_iff.mpr (by decide)

/-- With any digits but zeros, a decimal is too great at this exponent. -/
theorem ofDecimal_of_large {digits : Nat} {e : Int} (hdigits : digits ≠ 0) (he : 400 ≤ e)
    (negative : Bool) : ofDecimal negative ⟨digits, e⟩ = .infinity negative := by
  have hten : (0 : Rat) < 10 ^ e := zpow_pos (by norm_num) e
  have hone : (1 : Rat) ≤ digits := Nat.one_le_cast.mpr (Nat.one_le_iff_ne_zero.mpr hdigits)
  refine nearest_of_le ?_ negative
  calc (2 : Rat) ^ (1024 : Int) ≤ 2 ^ (1200 : Int) := (two_zpow_lt_iff.mpr (by decide)).le
    _ ≤ 10 ^ (400 : Int) := two_zpow_le_ten_zpow
    _ ≤ 10 ^ e := zpow_le_zpow_right₀ (by norm_num) he
    _ ≤ digits * 10 ^ e := le_mul_of_one_le_left hten.le hone

/-- The exponent that is put in the place of one out of range makes no difference. -/
theorem ofDecimal_clampExponent {digits n : Nat} (hdigits : digits < 10 ^ n) (e : Int)
    (negative : Bool) :
    ofDecimal negative ⟨digits, clampExponent n e⟩ = ofDecimal negative ⟨digits, e⟩ := by
  unfold clampExponent
  split
  · next hsmall =>
    rw [ofDecimal_of_small hdigits le_rfl, ofDecimal_of_small hdigits hsmall.le]
  · split
    · next hlarge =>
      by_cases hzero : digits = 0
      · rw [hzero, ofDecimal_zero, ofDecimal_zero]
      · rw [ofDecimal_of_large hzero le_rfl, ofDecimal_of_large hzero hlarge.le]
    · rfl

/-! ## Decimals -/

variable {cs sign : List Char} {negative : Bool} {d : Decimal} {x : Binary64}

theorem ofDecimal_ofParts {digits whole fraction : List Char}
    (h : IsMantissa digits whole fraction) (e : Int) (negative : Bool) :
    ofDecimal negative
        ⟨(ofParts whole fraction).digits, clampExponent (whole.length + fraction.length) e⟩
      = ofDecimal negative ⟨(ofParts whole fraction).digits, e⟩ := by
  have hlt := ofDigitChars_lt h.isDigits.2
  rw [List.length_append] at hlt
  exact ofDecimal_clampExponent hlt e negative

/-- What is read is the decimal that is written, or one that rounds as it does. -/
theorem exists_ofText?_of_isDecimal (h : IsDecimal cs d) :
    ∃ d', Decimal.ofText? cs = some d'
      ∧ ∀ negative, ofDecimal negative d' = ofDecimal negative d := by
  obtain ⟨hdigits, hexponent⟩ := h
  refine ⟨_, ?_, fun negative => ofDecimal_ofParts hdigits _ negative⟩
  have hne : ¬(_ = [] ∧ _ = []) := fun hnil => hdigits.isDigits.1 (List.append_eq_nil_iff.mpr hnil)
  simp [Decimal.ofText?, splitDigits_append hdigits hexponent, hne,
    exponent?_eq_some_iff.mpr hexponent]

theorem exists_isDecimal_of_ofText? {d' : Decimal} (h : Decimal.ofText? cs = some d') :
    ∃ d, IsDecimal cs d ∧ ∀ negative, ofDecimal negative d' = ofDecimal negative d := by
  rcases hsplit : splitDigits cs with ⟨whole, fraction, rest⟩
  rw [Decimal.ofText?, hsplit] at h
  by_cases hnil : whole = [] ∧ fraction = []
  · simp [hnil] at h
  · simp only [Option.bind_eq_bind, if_neg hnil] at h
    obtain ⟨e, hexponent, hd'⟩ := Option.bind_eq_some_iff.mp h
    obtain rfl := Option.some.inj hd'
    have hne : whole ++ fraction ≠ [] := fun hempty => hnil (List.append_eq_nil_iff.mp hempty)
    obtain ⟨digits, rfl, hdigits⟩ := isMantissa_of_splitDigits hsplit hne
    exact ⟨_, .mk hdigits (exponent?_eq_some_iff.mp hexponent),
      fun negative => ofDecimal_ofParts hdigits _ negative⟩

/-! ## Words -/

theorem ofWord?_eq_some_iff :
    ofWord? negative cs = some x
      ↔ (cs.map Char.toLower = "nan".toList ∧ x = .nan)
        ∨ ((cs.map Char.toLower = "inf".toList ∨ cs.map Char.toLower = "infinity".toList)
          ∧ x = .infinity negative) := by
  have htoList : ∀ {s : String}, String.ofList (cs.map Char.toLower) = s →
      cs.map Char.toLower = s.toList := by
    rintro _ rfl
    rw [String.toList_ofList]
  unfold ofWord?
  constructor
  · intro h
    split at h
    · next hword => exact .inr ⟨.inl (htoList hword), (Option.some.inj h).symm⟩
    · next hword => exact .inr ⟨.inr (htoList hword), (Option.some.inj h).symm⟩
    · next hword => exact .inl ⟨htoList hword, (Option.some.inj h).symm⟩
    · cases h
  · rintro (⟨hword, rfl⟩ | ⟨hword | hword, rfl⟩)
    · rw [hword, String.ofList_toList]
      rfl
    · rw [hword, String.ofList_toList]
      rfl
    · rw [hword, String.ofList_toList]
      rfl

theorem isUnsigned_of_map_toLower {word : List Char} (hcs : cs.map Char.toLower = word)
    (hword : ∀ c ∈ word.head?, IsUnsigned c) : ∀ c ∈ cs.head?, IsUnsigned c := by
  cases cs with
  | nil => nofun
  | cons c cs =>
      rintro _ ⟨⟩
      obtain ⟨hplus, hminus⟩ := hword c.toLower (by simp [← hcs])
      constructor
      · rintro rfl
        exact hplus rfl
      · rintro rfl
        exact hminus rfl

/-- No word starts as a decimal does. -/
theorem ofWord?_of_isDecimal (h : IsDecimal cs d) : ofWord? negative cs = none := by
  obtain ⟨c, rest, rfl, hc⟩ := h.head
  have hlower : c.toLower ≠ 'n' ∧ c.toLower ≠ 'i' := by
    rcases hc with hdigit | rfl
    · rw [toLower_of_isDigit hdigit]
      constructor <;> rintro rfl <;> exact absurd hdigit (by decide)
    · decide
  rw [Option.eq_none_iff_forall_ne_some]
  intro x hx
  rcases ofWord?_eq_some_iff.mp hx with ⟨hword, -⟩ | ⟨hword | hword, -⟩
  · exact hlower.1 (List.cons.inj hword).1
  · exact hlower.2 (List.cons.inj hword).1
  · exact hlower.2 (List.cons.inj hword).1

/-! ## Whole texts -/

/-- Behind its sign, a text is a word or a decimal. -/
theorem ofText_sign_append (hsign : IsSign sign negative) (hcs : ∀ c ∈ cs.head?, IsUnsigned c)
    (hne : cs ≠ []) :
    ofText (.ofList (sign ++ cs)) = match ofWord? negative cs with
      | some x => .ok x
      | none => match Decimal.ofText? cs with
        | some d => .ok (ofDecimal negative d)
        | none => .error .invalid := by
  have hempty : (String.ofList (sign ++ cs)).isEmpty = false := by simp [hne]
  rw [ofText, hempty, String.toList_ofList, splitSign_append hsign hcs]
  rfl

theorem ofText_of_isSpelling (h : IsSpelling cs x) : ofText (.ofList cs) = .ok x := by
  cases h with
  | @nan sign word negative hsign hword =>
      have hhead := isUnsigned_of_map_toLower hword (by simp [IsUnsigned])
      have hne : word ≠ [] := by
        rintro rfl
        cases hword
      rw [ofText_sign_append hsign hhead hne, ofWord?_eq_some_iff.mpr (.inl ⟨hword, rfl⟩)]
  | @infinity sign word negative hsign hword =>
      have hhead : ∀ c ∈ word.head?, IsUnsigned c := by
        rcases hword with hword | hword
        · exact isUnsigned_of_map_toLower hword (by simp [IsUnsigned])
        · exact isUnsigned_of_map_toLower hword (by simp [IsUnsigned])
      have hne : word ≠ [] := by
        rintro rfl
        rcases hword with hword | hword <;> cases hword
      rw [ofText_sign_append hsign hhead hne, ofWord?_eq_some_iff.mpr (.inr ⟨hword, rfl⟩)]
  | @decimal sign cs negative d hsign hdecimal =>
      obtain ⟨c, rest, hcs, hc⟩ := hdecimal.head
      have hhead : ∀ c ∈ cs.head?, IsUnsigned c := by
        rw [hcs]
        rintro _ ⟨⟩
        rcases hc with hdigit | rfl
        · exact isUnsigned_of_isDigit hdigit
        · simp [IsUnsigned]
      obtain ⟨d', hd', hround⟩ := exists_ofText?_of_isDecimal hdecimal
      rw [ofText_sign_append hsign hhead (by simp [hcs]), ofWord?_of_isDecimal hdecimal, hd',
        ← hround]

theorem isSpelling_of_ofText {text : String} (h : ofText text = .ok x) :
    IsSpelling text.toList x := by
  obtain ⟨sign, htext, hsign⟩ := exists_sign text.toList
  rw [ofText] at h
  split at h
  · cases h
  · rw [htext]
    generalize splitSign text.toList = parts at h hsign
    obtain ⟨negative, cs⟩ := parts
    dsimp only at h hsign ⊢
    split at h
    · next y hword =>
      cases h
      rcases ofWord?_eq_some_iff.mp hword with ⟨hnan, rfl⟩ | ⟨hinfinity, rfl⟩
      · exact .nan hsign hnan
      · exact .infinity hsign hinfinity
    · split at h
      · next d' hd' =>
        cases h
        obtain ⟨d, hd, hround⟩ := exists_isDecimal_of_ofText? hd'
        rw [hround]
        exact .decimal hsign hd
      · cases h

/-- The reader accepts the texts of numbers, and reads each as the double that it is. -/
theorem ofText_eq_ok_iff {text : String} : ofText text = .ok x ↔ IsSpelling text.toList x := by
  constructor
  · exact isSpelling_of_ofText
  · intro h
    rw [← ofText_of_isSpelling h, String.ofList_toList]

theorem eq_of_ofText_error {text : String} {e : NumberError} (h : ofText text = .error e) :
    e = if text.toList = [] then .empty else .invalid := by
  have hempty : text.isEmpty = true ↔ text.toList = [] := by simp
  rw [ofText] at h
  split at h
  · next hnil =>
    rw [if_pos (hempty.mp hnil)]
    exact (Except.error.inj h).symm
  · next hnil =>
    rw [if_neg (mt hempty.mpr hnil)]
    generalize splitSign text.toList = parts at h
    obtain ⟨negative, cs⟩ := parts
    dsimp only at h
    split at h
    · cases h
    · split at h
      · cases h
      · exact (Except.error.inj h).symm

/-- It refuses what is the text of no number. -/
theorem ofText_eq_error_iff {text : String} {e : NumberError} :
    ofText text = .error e
      ↔ (∀ x, ¬ IsSpelling text.toList x) ∧ e = if text.toList = [] then .empty else .invalid := by
  constructor
  · intro h
    refine ⟨?_, eq_of_ofText_error h⟩
    intro x hx
    cases h.symm.trans (ofText_eq_ok_iff.mpr hx)
  · rintro ⟨hnone, rfl⟩
    cases h : ofText text with
    | ok x => exact absurd (ofText_eq_ok_iff.mp h) (hnone x)
    | error e => rw [eq_of_ofText_error h]

/-! ## The text of a double -/

theorem ofDecimal_not (negative : Bool) (d : Decimal) :
    ofDecimal (!negative) d = -ofDecimal negative d := nearest_not negative d.value

theorem exists_isDecimal_of_isNumeral (h : IsNumeral cs) : ∃ d, IsDecimal cs d := by
  have hmantissa : ∃ whole fraction, IsMantissa cs whole fraction := by
    cases h with
    | whole hds => exact ⟨_, _, .whole hds⟩
    | point hds hfs =>
        refine ⟨_, _, .point ⟨?_, List.forall_mem_append.mpr ⟨hds.2, hfs.2⟩⟩⟩
        exact List.append_ne_nil_of_left_ne_nil hds.1 _
  obtain ⟨whole, fraction, hmantissa⟩ := hmantissa
  have hdecimal := IsDecimal.mk hmantissa .none
  rw [List.append_nil] at hdecimal
  exact ⟨_, hdecimal⟩

theorem isSign_signText (negative : Bool) : IsSign (signText negative) negative := by
  cases negative with
  | false => exact .none
  | true => exact .minus

/-- The text of a double is a text of this double, also if it is no number. -/
theorem isSpelling_text (x : Binary64) : IsSpelling x.text.toList x := by
  cases x with
  | nan => exact .nan .none rfl
  | infinity negative =>
      rw [text, String.toList_ofList]
      exact .infinity (isSign_signText negative) (.inl rfl)
  | finite negative rank =>
      obtain ⟨d, hd⟩ := exists_isDecimal_of_isNumeral (isNumeral_positional (shortest rank))
      have hread := (ofText_of_isSpelling (.decimal .none hd)).symm.trans (ofText_shortest rank)
      have hround : ofDecimal negative d = .finite negative rank := by
        cases negative with
        | false => exact Except.ok.inj hread
        | true => exact (ofDecimal_not false d).trans (congrArg neg (Except.ok.inj hread))
      rw [text, String.toList_ofList, ← hround]
      exact .decimal (isSign_signText negative) hd

/-! ## The characters of numbers -/

/-- A letter, a digit, a sign or a point. -/
def IsNumeric (c : Char) : Prop := c.isAlphanum = true ∨ c = '+' ∨ c = '-' ∨ c = '.'

theorem isNumeric_of_isDigit {c : Char} (h : c.isDigit = true) : IsNumeric c := by
  simp [IsNumeric, Char.isAlphanum, h]

theorem isNumeric_of_isAlpha {c : Char} (h : c.isAlpha = true) : IsNumeric c := by
  simp [IsNumeric, Char.isAlphanum, h]

theorem isNumeric_of_isSign (h : IsSign sign negative) : ∀ c ∈ sign, IsNumeric c := by
  cases h <;> simp [IsNumeric]

theorem isNumeric_of_map_toLower {word : List Char} (hcs : cs.map Char.toLower = word)
    (hword : word.all Char.isAlpha = true) : ∀ c ∈ cs, IsNumeric c := by
  intro c hc
  have hmem : c.toLower ∈ word := hcs ▸ List.mem_map_of_mem hc
  have hlower := List.all_eq_true.mp hword c.toLower hmem
  rw [Char.isAlpha_toLower_eq_isAlpha] at hlower
  exact isNumeric_of_isAlpha hlower

theorem isNumeric_of_isDecimal (h : IsDecimal cs d) : ∀ c ∈ cs, IsNumeric c := by
  obtain ⟨hdigits, hexponent⟩ := h
  refine List.forall_mem_append.mpr ⟨?_, ?_⟩
  · cases hdigits with
    | whole hds => exact fun c hc => isNumeric_of_isDigit (hds.2 c hc)
    | point hds =>
        obtain ⟨hwhole, hfraction⟩ := List.forall_mem_append.mp hds.2
        refine List.forall_mem_append.mpr ⟨fun c hc => isNumeric_of_isDigit (hwhole c hc), ?_⟩
        refine List.forall_mem_cons.mpr ⟨by simp [IsNumeric], ?_⟩
        exact fun c hc => isNumeric_of_isDigit (hfraction c hc)
  · cases hexponent with
    | none => nofun
    | some hletter hsign hds =>
        refine List.forall_mem_cons.mpr ⟨?_, List.forall_mem_append.mpr
          ⟨isNumeric_of_isSign hsign, fun c hc => isNumeric_of_isDigit (hds.2 c hc)⟩⟩
        rcases hletter with rfl | rfl <;> exact isNumeric_of_isAlpha rfl

theorem IsSpelling.isNumeric (h : IsSpelling cs x) : ∀ c ∈ cs, Binary64.IsNumeric c := by
  cases h with
  | nan hsign hword =>
      exact List.forall_mem_append.mpr
        ⟨isNumeric_of_isSign hsign, isNumeric_of_map_toLower hword rfl⟩
  | infinity hsign hword =>
      refine List.forall_mem_append.mpr ⟨isNumeric_of_isSign hsign, ?_⟩
      rcases hword with hword | hword
      · exact isNumeric_of_map_toLower hword rfl
      · exact isNumeric_of_map_toLower hword rfl
  | decimal hsign hdecimal =>
      exact List.forall_mem_append.mpr
        ⟨isNumeric_of_isSign hsign, isNumeric_of_isDecimal hdecimal⟩

end Binary64

end LayoutLang
