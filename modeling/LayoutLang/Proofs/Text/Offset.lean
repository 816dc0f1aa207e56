import LayoutLang.Text.Offset
import Mathlib.Order.Bounds.Basic
import Mathlib.Order.MinMax

/-!
# Offsets that lie anywhere

An offset that is taken from one text may be shown in another.  There it may lie inside a character
or behind the end, and it is taken down to the next place between two characters, its floor.  What
is `before` an offset ends at the floor (`isFloor_before`), and two offsets with the same boundaries
up to them have the same text before them (`before_congr`).

The floor is also found from the offset, going back a byte at a time.  The start of a text is a
boundary, so that this way ends there at the latest (`stepBack?_eq_some`).
-/

namespace LayoutLang.Text

/-! ## Boundaries -/

/-- A place between two characters of a text, or at one of its ends. -/
def IsBoundary (text : List Char) (offset : Nat) : Prop :=
  ∃ front back, text = front ++ back ∧ offset = byteLength front

/-- The greatest boundary that is neither after an offset nor after the text. -/
def IsFloor (text : List Char) (offset floor : Nat) : Prop :=
  IsGreatest {b | IsBoundary text b ∧ b ≤ min offset (byteLength text)} floor

theorem byteLength_le_of_isPrefix {s t : List Char} (h : s <+: t) :
    byteLength s ≤ byteLength t := by
  obtain ⟨rest, rfl⟩ := h
  rw [byteLength_append]
  exact Nat.le_add_right _ _

/-! ## What is before an offset -/

variable {text w : List Char} {offset a b : Nat}

theorem before_isPrefix (offset : Nat) (text : List Char) : before offset text <+: text := by
  induction text generalizing offset with
  | nil => exact List.prefix_rfl
  | cons c cs ih =>
      rw [before]
      split
      · exact List.cons_prefix_cons.mpr ⟨rfl, ih _⟩
      · exact List.nil_prefix

theorem byteLength_before_le (offset : Nat) (text : List Char) :
    byteLength (before offset text) ≤ offset := by
  induction text generalizing offset with
  | nil => exact Nat.zero_le offset
  | cons c cs ih =>
      rw [before]
      split
      · next hfits =>
        have hrest := ih (offset - c.utf8Size)
        rw [byteLength_cons]
        omega
      · exact Nat.zero_le offset

/-- Whatever ends at or before an offset is part of what is before it. -/
theorem isPrefix_before (hw : w <+: text) (hle : byteLength w ≤ offset) :
    w <+: before offset text := by
  induction text generalizing w offset with
  | nil => exact hw
  | cons c cs ih =>
      cases w with
      | nil => exact List.nil_prefix
      | cons d ds =>
          obtain ⟨rfl, hds⟩ := List.cons_prefix_cons.mp hw
          rw [byteLength_cons] at hle
          have hfits : d.utf8Size ≤ offset := by omega
          have hrest : byteLength ds ≤ offset - d.utf8Size := by omega
          rw [before, if_pos hfits]
          exact List.cons_prefix_cons.mpr ⟨rfl, ih hds hrest⟩

theorem before_mono (h : a ≤ b) (text : List Char) : before a text <+: before b text :=
  isPrefix_before (before_isPrefix a text) (Nat.le_trans (byteLength_before_le a text) h)

/-- Offsets that the same front parts of a text end at or before have the same text before them. -/
theorem before_congr (h : ∀ w, w <+: text → (byteLength w ≤ a ↔ byteLength w ≤ b)) :
    before a text = before b text := by
  have hab : before a text <+: before b text :=
    isPrefix_before (before_isPrefix a text)
      ((h _ (before_isPrefix a text)).mp (byteLength_before_le a text))
  have hba : before b text <+: before a text :=
    isPrefix_before (before_isPrefix b text)
      ((h _ (before_isPrefix b text)).mpr (byteLength_before_le b text))
  exact hab.eq_of_length_le hba.length_le

/-- The later of two offsets may be replaced by its floor. -/
theorem before_max_floor (a b : Nat) (text : List Char) :
    before (max a (byteLength (before b text))) text = before (max a b) text := by
  refine before_congr fun w hw => ?_
  rw [le_max_iff, le_max_iff]
  refine or_congr_right ⟨fun h => Nat.le_trans h (byteLength_before_le b text), ?_⟩
  intro h
  exact byteLength_le_of_isPrefix (isPrefix_before hw h)

/-- What is before an offset ends at its floor. -/
theorem isFloor_before (text : List Char) (offset : Nat) :
    IsFloor text offset (byteLength (before offset text)) := by
  constructor
  · obtain ⟨back, hback⟩ := before_isPrefix offset text
    exact ⟨⟨before offset text, back, hback.symm, rfl⟩,
      Nat.le_min.mpr ⟨byteLength_before_le offset text,
        byteLength_le_of_isPrefix (before_isPrefix offset text)⟩⟩
  · rintro b ⟨⟨front, back, htext, rfl⟩, hle⟩
    have hfront : front <+: text := ⟨back, htext.symm⟩
    exact byteLength_le_of_isPrefix (isPrefix_before hfront (Nat.le_min.mp hle).1)

/-! ## Going back -/

theorem isBoundary_iff : IsBoundary text offset ↔ byteLength (before offset text) = offset := by
  constructor
  · rintro ⟨front, back, rfl, rfl⟩
    rw [before_byteLength]
  · intro h
    obtain ⟨back, hback⟩ := before_isPrefix offset text
    exact ⟨before offset text, back, hback.symm, h.symm⟩

instance (text : List Char) : DecidablePred (IsBoundary text) :=
  fun _ => decidable_of_iff _ isBoundary_iff.symm

/-- The first boundary on the way back from an offset, a byte at a time; nothing if the way led past
the start. -/
def stepBack? (text : List Char) : Nat → Option Nat
  | 0 => if IsBoundary text 0 then some 0 else none
  | offset + 1 => if IsBoundary text (offset + 1) then some (offset + 1) else stepBack? text offset

/-- The way back ends at the greatest boundary. -/
theorem stepBack?_of_isGreatest {floor : Nat}
    (h : IsGreatest {b | IsBoundary text b ∧ b ≤ offset} floor) :
    stepBack? text offset = some floor := by
  induction offset with
  | zero =>
      obtain ⟨⟨hfloor, hle⟩, -⟩ := h
      obtain rfl : floor = 0 := Nat.le_zero.mp hle
      rw [stepBack?, if_pos hfloor]
  | succ offset ih =>
      obtain ⟨⟨hfloor, hle⟩, hgreatest⟩ := h
      by_cases hboundary : IsBoundary text (offset + 1)
      · have hge : offset + 1 ≤ floor := hgreatest ⟨hboundary, Nat.le_refl _⟩
        obtain rfl : floor = offset + 1 := Nat.le_antisymm hle hge
        rw [stepBack?, if_pos hboundary]
      · have hlt : floor ≤ offset := by
          refine Nat.le_of_lt_succ (Nat.lt_of_le_of_ne hle ?_)
          rintro rfl
          exact hboundary hfloor
        rw [stepBack?, if_neg hboundary]
        exact ih ⟨⟨hfloor, hlt⟩, fun b hb => hgreatest ⟨hb.1, Nat.le_succ_of_le hb.2⟩⟩

/-- From an offset in the text, or from its end, the way back finds the floor. -/
theorem stepBack?_eq_some {floor : Nat} (h : IsFloor text offset floor) :
    stepBack? text (min offset (byteLength text)) = some floor :=
  stepBack?_of_isGreatest h

end LayoutLang.Text
