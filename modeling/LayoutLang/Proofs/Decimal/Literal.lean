import LayoutLang.Decimal.Grammar

/-!
# Number literals

A number literal of the language is a run of digits, or two runs with a point between them.  The
general reader of numbers reads it as the double nearest to the decimal that is written, so that a
literal means the same in a text of the language as in a flag of the command.

A run is as long as its class of characters allows; a few facts about where it ends come first,
since identifiers are runs as well.
-/

namespace LayoutLang

namespace Text

variable {p : Char → Bool} {w r : List Char}

/-- A run is taken whole if what follows does not start with a member of its class. -/
theorem takeWhile_run (hw : ∀ c ∈ w, p c = true) (hr : ∀ c ∈ r.head?, p c = false) :
    (w ++ r).takeWhile p = w := by
  rw [List.takeWhile_append_of_pos hw]
  cases r with
  | nil => simp
  | cons c cs => simp [hr c rfl]

theorem dropWhile_run (hw : ∀ c ∈ w, p c = true) (hr : ∀ c ∈ r.head?, p c = false) :
    (w ++ r).dropWhile p = r := by
  rw [List.dropWhile_append_of_pos hw]
  cases r with
  | nil => simp
  | cons c cs => simp [hr c rfl]

/-- It is seen where a run ends. -/
theorem run_append_inj {w' r' : List Char} (hw : ∀ c ∈ w, p c = true)
    (hw' : ∀ c ∈ w', p c = true) (hr : ∀ c ∈ r.head?, p c = false)
    (hr' : ∀ c ∈ r'.head?, p c = false) (h : w ++ r = w' ++ r') : w = w' ∧ r = r' := by
  constructor
  · rw [← takeWhile_run hw hr, h, takeWhile_run hw' hr']
  · rw [← dropWhile_run hw hr, h, dropWhile_run hw' hr']

end Text

namespace Decimal

/-- At least one digit and nothing else. -/
def IsDigits (cs : List Char) : Prop := cs ≠ [] ∧ ∀ c ∈ cs, c.isDigit = true

/-- A number literal. -/
inductive IsNumeral : List Char → Prop
  | whole {ds : List Char} : IsDigits ds → IsNumeral ds
  | point {ds fs : List Char} : IsDigits ds → IsDigits fs → IsNumeral (ds ++ '.' :: fs)

theorem IsDigits.head {cs : List Char} (h : IsDigits cs) :
    ∃ c rest, cs = c :: rest ∧ c.isDigit = true := by
  cases cs with
  | nil => exact absurd rfl h.1
  | cons c rest => exact ⟨c, rest, rfl, h.2 c List.mem_cons_self⟩

theorem IsNumeral.head {cs : List Char} (h : IsNumeral cs) :
    ∃ c rest, cs = c :: rest ∧ c.isDigit = true := by
  cases h with
  | whole hds => exact hds.head
  | point hds hfs =>
      obtain ⟨c, rest, rfl, hc⟩ := hds.head
      exact ⟨c, _, rfl, hc⟩

theorem IsNumeral.isDigit_or_point {cs : List Char} (h : IsNumeral cs) :
    ∀ c ∈ cs, c.isDigit = true ∨ c = '.' := by
  cases h with
  | whole hds => exact fun c hc => .inl (hds.2 c hc)
  | point hds hfs =>
      intro c hc
      rcases List.mem_append.mp hc with hc | hc
      · exact .inl (hds.2 c hc)
      · rcases List.mem_cons.mp hc with rfl | hc
        · exact .inr rfl
        · exact .inl (hfs.2 c hc)

theorem IsDigits.last {cs : List Char} (h : IsDigits cs) :
    ∃ front c, cs = front ++ [c] ∧ c.isDigit = true :=
  ⟨cs.dropLast, cs.getLast h.1, (List.dropLast_concat_getLast h.1).symm,
    h.2 _ (List.getLast_mem h.1)⟩

theorem IsNumeral.last {cs : List Char} (h : IsNumeral cs) :
    ∃ front c, cs = front ++ [c] ∧ c.isDigit = true := by
  cases h with
  | whole hds => exact hds.last
  | @point ds _ _ hfs =>
      obtain ⟨front, c, rfl, hc⟩ := hfs.last
      exact ⟨ds ++ '.' :: front, c, by simp, hc⟩

/-! ## What the parts of the reader do on digits -/

theorem splitSign_of_isDigit {c : Char} (hc : c.isDigit = true) (cs : List Char) :
    splitSign (c :: cs) = (false, c :: cs) := by
  unfold splitSign
  split
  · next h =>
    obtain ⟨rfl, -⟩ := List.cons.inj h
    exact absurd hc (by decide)
  · next h =>
    obtain ⟨rfl, -⟩ := List.cons.inj h
    exact absurd hc (by decide)
  · rfl

theorem splitDigits_whole {ds : List Char} (hds : IsDigits ds) : splitDigits ds = (ds, [], []) := by
  have htake : ds.takeWhile Char.isDigit = ds := by
    simpa using Text.takeWhile_run (r := []) hds.2 (by simp)
  have hdrop : ds.dropWhile Char.isDigit = [] := by
    simpa using Text.dropWhile_run (r := []) hds.2 (by simp)
  simp [splitDigits, htake, hdrop]

theorem splitDigits_point {ds fs : List Char} (hds : IsDigits ds) (hfs : IsDigits fs) :
    splitDigits (ds ++ '.' :: fs) = (ds, fs, []) := by
  have hpoint : ∀ c ∈ ('.' :: fs).head?, c.isDigit = false := by simp [Char.isDigit]
  have htake : fs.takeWhile Char.isDigit = fs := by
    simpa using Text.takeWhile_run (r := []) hfs.2 (by simp)
  have hdrop : fs.dropWhile Char.isDigit = [] := by
    simpa using Text.dropWhile_run (r := []) hfs.2 (by simp)
  simp only [splitDigits, Text.takeWhile_run hds.2 hpoint, Text.dropWhile_run hds.2 hpoint, htake,
    hdrop]

/-- The exponent of a literal is in the range that matters. -/
theorem clampExponent_of_le {n m : Nat} (h : m ≤ n) :
    clampExponent n (-(m : Int)) = -(m : Int) := by
  unfold clampExponent
  rw [if_neg (by omega), if_neg (by omega)]

theorem ofText?_whole {ds : List Char} (hds : IsDigits ds) :
    ofText? ds = some (ofParts ds []) := by
  have hclamp := clampExponent_of_le (n := ds.length) (Nat.zero_le _)
  simpa [ofText?, splitDigits_whole hds, hds.1, exponent?, ofParts] using hclamp

theorem ofText?_point {ds fs : List Char} (hds : IsDigits ds) (hfs : IsDigits fs) :
    ofText? (ds ++ '.' :: fs) = some (ofParts ds fs) := by
  have hclamp := clampExponent_of_le (n := ds.length + fs.length) (Nat.le_add_left fs.length _)
  simpa [ofText?, splitDigits_point hds hfs, hds.1, exponent?, ofParts] using hclamp

end Decimal

namespace Binary64

open Decimal (IsDigits IsNumeral ofParts)

theorem toLower_of_isDigit {c : Char} (hc : c.isDigit = true) : c.toLower = c := by
  have hle : c.toNat ≤ 57 := (Char.isDigit_iff_toNat.mp hc).2
  unfold Char.toLower
  rw [dif_neg]
  rintro ⟨hge, -⟩
  have hge' : 65 ≤ c.toNat := UInt32.le_iff_toNat_le.mp hge
  omega

/-- No word starts with a digit. -/
theorem ofWord?_of_isDigit {c : Char} (hc : c.isDigit = true) (negative : Bool) (cs : List Char) :
    ofWord? negative (c :: cs) = none := by
  have hne : ∀ (d : Char) (ds : List Char), d.isDigit = false →
      String.ofList ((c :: cs).map Char.toLower) ≠ String.ofList (d :: ds) := by
    intro d ds hd h
    obtain ⟨h, -⟩ := List.cons.inj (String.ofList_injective h)
    rw [toLower_of_isDigit hc] at h
    rw [← h, hc] at hd
    cases hd
  unfold ofWord?
  split
  · next h => exact absurd h (hne 'i' ['n', 'f'] rfl)
  · next h => exact absurd h (hne 'i' ['n', 'f', 'i', 'n', 'i', 't', 'y'] rfl)
  · next h => exact absurd h (hne 'n' ['a', 'n'] rfl)
  · rfl

/-- A text that starts with a digit has no sign and is no word, so that only its decimal counts. -/
theorem ofText_ofList {cs : List Char} {d : Decimal}
    (hhead : ∃ c rest, cs = c :: rest ∧ c.isDigit = true) (hd : Decimal.ofText? cs = some d) :
    ofText (.ofList cs) = .ok (ofDecimal false d) := by
  obtain ⟨c, rest, rfl, hc⟩ := hhead
  have hne : (String.ofList (c :: rest)).isEmpty = false := by simp
  simp only [ofText, hne, String.toList_ofList, Decimal.splitSign_of_isDigit hc,
    ofWord?_of_isDigit hc, hd]
  rfl

theorem ofText_whole {ds : List Char} (hds : IsDigits ds) :
    ofText (.ofList ds) = .ok (ofDecimal false (ofParts ds [])) :=
  ofText_ofList hds.head (Decimal.ofText?_whole hds)

theorem ofText_point {ds fs : List Char} (hds : IsDigits ds) (hfs : IsDigits fs) :
    ofText (.ofList (ds ++ '.' :: fs)) = .ok (ofDecimal false (ofParts ds fs)) :=
  ofText_ofList (IsNumeral.point hds hfs).head (Decimal.ofText?_point hds hfs)

end Binary64

end LayoutLang
