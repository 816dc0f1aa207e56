import LayoutLang.Proofs.Constraint.Canonical
import LayoutLang.Proofs.Text.Lines

/-!
# A canonical text is a line of its own

The canonical text of a constraint starts with the name of a view, has no line feed in it, and ends
with the digits of its priority.  So it can stand on a line of a file, and what is read from that
line is the text again: it is neither blank nor a comment, and nothing of it is trimmed.

For the line feed nothing is asked of the numbers.  The end of the text is that of the priority,
which has to be finite to end with a digit.
-/

namespace LayoutLang

open Token (IsIdentifier isBlank startsIdentifier)
open Unicode (isWhiteSpace)

/-! ## White space -/

theorem not_isWhiteSpace_of_isDigit {c : Char} (h : c.isDigit = true) : isWhiteSpace c = false := by
  obtain ⟨hge, hle⟩ := Char.isDigit_iff_toNat.mp h
  exact Unicode.not_isWhiteSpace_of_visible (Nat.le_trans (by decide) hge)
    (Nat.le_trans hle (by decide))

/-- No white space starts an identifier. -/
theorem not_isWhiteSpace_of_startsIdentifier {c : Char} (h : startsIdentifier c = true) :
    isWhiteSpace c = false := by
  have hapart : ∀ run ∈ Unicode.whiteSpaceRanges, ∀ n ∈ List.range' run.1 (run.2 + 1 - run.1),
      Unicode.inRanges n Unicode.identifierStartRanges = false ∧ n ≠ '_'.toNat := by decide +kernel
  rw [← Bool.not_eq_true, Unicode.isWhiteSpace_iff]
  rintro ⟨run, hrun, hfirst, hlast⟩
  obtain ⟨hstart, hlow⟩ := hapart run hrun c.toNat (List.mem_range'_1.mpr ⟨hfirst, by omega⟩)
  simp only [startsIdentifier, Bool.or_eq_true, decide_eq_true_eq] at h
  rcases h with h | rfl
  · exact absurd (h.symm.trans hstart) (by decide)
  · exact hlow rfl

/-! ## Pieces without line feeds -/

theorem newline_not_mem_of_not_isBlank {cs : List Char} (h : ∀ c ∈ cs, isBlank c = false) :
    '\n' ∉ cs := by
  intro hmem
  exact absurd (h '\n' hmem) (by decide)

namespace Binary64

theorem newline_not_mem_text (x : Binary64) : '\n' ∉ x.text.toList := by
  cases x with
  | nan => decide
  | infinity negative => cases negative <;> decide
  | finite negative rank =>
      have hdigits := newline_not_mem_of_not_isBlank (spells_shortest rank).not_isBlank
      cases negative <;> simp [text, signText, hdigits]

/-- A finite number ends with a digit. -/
theorem last_text {x : Binary64} (hx : x.isFinite = true) :
    ∃ front c, x.text.toList = front ++ [c] ∧ c.isDigit = true := by
  obtain ⟨negative, rank, rfl⟩ := isFinite_iff.mp hx
  obtain ⟨front, c, hdigits, hc⟩ := (Decimal.isNumeral_positional (shortest rank)).last
  exact ⟨signText negative ++ front, c, by simp [text, hdigits], hc⟩

end Binary64

theorem Relation.newline_not_mem_text (r : Relation) : '\n' ∉ r.text.toList := by
  cases r <;> decide

variable {View : Type} [ToString View]

theorem Item.newline_not_mem_text {i : Item View} (h : IsIdentifier (toString i.view).toList) :
    '\n' ∉ i.text.toList :=
  newline_not_mem_of_not_isBlank (Item.spells_text h).not_isBlank

/-- An item starts with the name of its view. -/
theorem Item.head_text {i : Item View} (h : IsIdentifier (toString i.view).toList) :
    ∃ c rest, i.text.toList = c :: rest ∧ startsIdentifier c = true := by
  obtain ⟨c, rest, hview, hc⟩ := h.head
  obtain ⟨view, part⟩ := i
  cases part <;> simp [Item.text, hview, hc]

namespace Constraint

variable {c : Constraint View}

theorem newline_not_mem_rightText (hsecond : ∀ v ∈ c.secondView, IsIdentifier (toString v).toList) :
    '\n' ∉ c.rightText.toList := by
  have hmultiplier : '\n' ∉ (multiplierText c.multiplier).toList := by
    unfold multiplierText
    split
    · decide
    · simp [Binary64.newline_not_mem_text]
  have hconstant : '\n' ∉ (constantText c.constant).toList := by
    unfold constantText
    split
    · simp [Binary64.newline_not_mem_text]
    · split
      · simp [Binary64.newline_not_mem_text]
      · decide
  unfold rightText
  split
  · next v hv =>
    have hitem := Item.newline_not_mem_text (i := ⟨v, c.secondPart⟩) (hsecond v hv)
    simp [hmultiplier, hitem, hconstant]
  · exact Binary64.newline_not_mem_text c.constant

theorem newline_not_mem_text (hfirst : IsIdentifier (toString c.first.view).toList)
    (hsecond : ∀ v ∈ c.secondView, IsIdentifier (toString v).toList) : '\n' ∉ c.text.toList := by
  simp [text, Item.newline_not_mem_text hfirst, Relation.newline_not_mem_text,
    newline_not_mem_rightText hsecond, Binary64.newline_not_mem_text]

theorem head_text (h : IsIdentifier (toString c.first.view).toList) :
    ∃ d rest, c.text.toList = d :: rest ∧ startsIdentifier d = true := by
  obtain ⟨d, rest, hitem, hd⟩ := Item.head_text h
  have htext : c.text.toList = c.first.text.toList
      ++ (" " ++ c.relation.text ++ " " ++ c.rightText ++ " @ " ++ c.priority.text).toList := by
    simp [text]
  exact ⟨d, _, by rw [htext, hitem, List.cons_append], hd⟩

theorem last_text (h : c.priority.isFinite = true) :
    ∃ front d, c.text.toList = front ++ [d] ∧ d.isDigit = true := by
  obtain ⟨front, d, hpriority, hd⟩ := Binary64.last_text h
  have htext : c.text.toList
      = (c.first.text ++ " " ++ c.relation.text ++ " " ++ c.rightText ++ " @ ").toList
        ++ c.priority.text.toList := by
    simp [text]
  exact ⟨_, d, by rw [htext, hpriority, ← List.append_assoc], hd⟩

/-- Nothing of it is trimmed. -/
theorem trim_text (hfirst : IsIdentifier (toString c.first.view).toList)
    (hpriority : c.priority.isFinite = true) : Text.trim c.text.toList = c.text.toList := by
  refine Text.trim_of_ends ?_ ?_
  · obtain ⟨d, rest, htext, hd⟩ := head_text hfirst
    simp [htext, not_isWhiteSpace_of_startsIdentifier hd]
  · obtain ⟨front, d, htext, hd⟩ := last_text hpriority
    simp [htext, not_isWhiteSpace_of_isDigit hd]

end Constraint

end LayoutLang
