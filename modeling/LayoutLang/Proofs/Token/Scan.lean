import LayoutLang.Proofs.Outcome
import LayoutLang.Proofs.Span
import LayoutLang.Proofs.Token.Pattern

/-!
# A scan loses nothing

The items of a scan lie in the text one after another.  `Scanned` says so for the end of a text
that starts at some offset, step by step: a blank is passed over, and where another character
stands, an item is reported for a piece of the text and the scan goes on behind the piece.  The
scanner takes these steps (`scanned_scanFrom`), and everything else is read off `Scanned` by
induction on it, without the scanner.

The main statement gathers it for a whole text: where each item lies and what it reports, that no
two items overlap, that only blanks lie outside them, and what is left of a scan when only tokens
are wanted.
-/

namespace LayoutLang.Token

open Text (byteLength)

/-! ## Items -/

/-- The bytes that an item covers. -/
def itemSpan : Except Unexpected Placed → Span
  | .ok t => t.span
  | .error u => u.span

/-- A token carries the text it was read from: a name as it stands, two names with the only point
between them, a number as its value. -/
def Carries (piece : List Char) : Token → Prop
  | .identifier n => n.toList = piece
  | .dotted owner member =>
      owner.toList ++ '.' :: member.toList = piece ∧ '.' ∉ owner.toList ∧ '.' ∉ member.toList
  | .number x => Binary64.ofText (.ofList piece) = .ok x
  | _ => True

/-- What may be reported for a piece of a text in front of the rest: the token that is the longest
match there, or, where no pattern matches, the character. -/
def Reports (piece after : List Char) : Except Unexpected Placed → Prop
  | .ok t => IsLongest (piece ++ after) piece t.token ∧ Carries piece t.token
  | .error u => piece = [u.character] ∧ (∀ w t, w <+: piece ++ after → ¬ Spells w t)
      ∧ IsStray u.character after

theorem Spells.carries {piece : List Char} {t : Token} (h : Spells piece t) : Carries piece t := by
  cases h with
  | number hw hx => exact hx
  | identifier hw => exact String.toList_ofList
  | dotted ho hm =>
      simp only [Carries, String.toList_ofList]
      exact ⟨trivial, ho.point_not_mem, hm.point_not_mem⟩
  | _ => trivial

/-! ## The steps of a scan -/

/-- The items of the end of a text that starts at an offset. -/
inductive Scanned : Nat → List Char → List (Except Unexpected Placed) → Prop
  | nil (offset : Nat) : Scanned offset [] []
  | blank {offset : Nat} {c : Char} {cs : List Char} {items : List (Except Unexpected Placed)} :
      isBlank c = true → Scanned (offset + c.utf8Size) cs items → Scanned offset (c :: cs) items
  | item {offset : Nat} {c : Char} {piece after : List Char} {item : Except Unexpected Placed}
      {items : List (Except Unexpected Placed)} :
      isBlank c = false → itemSpan item = ⟨offset, offset + byteLength (c :: piece)⟩ →
      Reports (c :: piece) after item →
      Scanned (offset + byteLength (c :: piece)) after items →
      Scanned offset (c :: piece ++ after) (item :: items)

theorem scanned_scanFrom (offset : Nat) (cs : List Char) :
    Scanned offset cs (scanFrom offset cs) := by
  fun_induction scanFrom offset cs with
  | case1 offset => exact .nil offset
  | case2 offset c rest hblank ih => exact .blank hblank ih
  | case3 offset c rest hblank m hm stop ih =>
      have happend := lexeme_append_rest hm
      obtain ⟨piece, hpiece⟩ : ∃ piece, m.lexeme = c :: piece := by
        cases hlexeme : m.lexeme with
        | nil => exact absurd hlexeme (lexeme_ne_nil hm)
        | cons d piece =>
            rw [hlexeme] at happend
            exact ⟨piece, by rw [(List.cons.inj happend).1]⟩
      have hlongest := next?_isLongest hm
      rw [hpiece] at happend hlongest
      rw [← happend] at hlongest ⊢
      have hstop : stop = offset + byteLength (c :: piece) := by rw [← hpiece]
      rw [hstop] at ih ⊢
      exact .item (by simpa using hblank) rfl ⟨hlongest, hlongest.spells.carries⟩ ih
  | case4 offset c rest hblank hm ih =>
      have hreports : Reports [c] rest (.error ⟨offset, c⟩) :=
        ⟨rfl, next?_eq_none.mp hm, isStray_of_next?_eq_none hm⟩
      exact .item (by simpa using hblank) rfl hreports ih

/-! ## Where the items lie -/

variable {offset : Nat} {cs : List Char} {items : List (Except Unexpected Placed)}

/-- The items lie in the text one behind another. -/
theorem Scanned.ascending (h : Scanned offset cs items) :
    Span.Ascending offset (items.map itemSpan) (offset + byteLength cs) := by
  induction h with
  | nil offset => exact .nil (Nat.le_add_right _ _)
  | blank _ _ ih =>
      rw [Nat.add_assoc, ← Text.byteLength_cons] at ih
      exact ih.of_le (Nat.le_add_right _ _)
  | @item offset c piece after item items _ hspan _ _ ih =>
      have hpos := Text.byteLength_pos (List.cons_ne_nil c piece)
      rw [Nat.add_assoc, ← Text.byteLength_append] at ih
      rw [List.map_cons, hspan]
      exact .cons (Nat.le_refl _) (Nat.lt_add_of_pos_right hpos) ih

/-- Items do not overlap, and they come in the order of the text. -/
theorem Scanned.pairwise (h : Scanned offset cs items) :
    items.Pairwise fun i j => (itemSpan i).stop ≤ (itemSpan j).start :=
  List.pairwise_map.mp h.ascending.pairwise

/-- Each item covers a piece of the text that does not start with a blank, and reports it. -/
theorem Scanned.exists_piece (h : Scanned offset cs items) : ∀ item ∈ items,
    ∃ before c piece after, cs = before ++ (c :: piece ++ after) ∧ isBlank c = false
      ∧ itemSpan item = ⟨offset + byteLength before,
          offset + byteLength before + byteLength (c :: piece)⟩
      ∧ Reports (c :: piece) after item := by
  induction h with
  | nil _ => simp
  | @blank offset d cs items _ _ ih =>
      intro item hitem
      obtain ⟨before, c, piece, after, rfl, hc, hspan, hreports⟩ := ih item hitem
      refine ⟨d :: before, c, piece, after, rfl, hc, ?_, hreports⟩
      rw [hspan, Text.byteLength_cons d before]
      simp only [Nat.add_assoc]
  | @item offset d lexeme rest item items hd hspan hreports _ ih =>
      intro i hi
      rcases List.mem_cons.mp hi with rfl | hi
      · exact ⟨[], d, lexeme, rest, rfl, hd, by simpa using hspan, hreports⟩
      · obtain ⟨before, c, piece, after, rfl, hc, hspan', hreports'⟩ := ih i hi
        refine ⟨d :: lexeme ++ before, c, piece, after, by simp, hc, ?_, hreports'⟩
        rw [hspan', Text.byteLength_append (d :: lexeme) before]
        simp only [Nat.add_assoc]

/-- Whether an item covers the byte at an offset. -/
def Covers (item : Except Unexpected Placed) (offset : Nat) : Prop :=
  (itemSpan item).start ≤ offset ∧ offset < (itemSpan item).stop

/-- A character that no item covers is a blank. -/
theorem Scanned.isBlank_of_not_covers (h : Scanned offset cs items) :
    ∀ before c after, cs = before ++ c :: after →
      (∀ item ∈ items, ¬ Covers item (offset + byteLength before)) → isBlank c = true := by
  induction h with
  | nil _ =>
      intro before c after hcs
      cases before <;> cases hcs
  | @blank offset d cs items hd _ ih =>
      intro before c after hcs hfree
      cases before with
      | nil =>
          obtain ⟨rfl, -⟩ := List.cons.inj hcs
          exact hd
      | cons e before =>
          obtain ⟨rfl, hrest⟩ := List.cons.inj hcs
          refine ih before c after hrest ?_
          rwa [Text.byteLength_cons, ← Nat.add_assoc] at hfree
  | @item offset d lexeme rest item items _ hspan _ _ ih =>
      intro before c after hcs hfree
      rcases List.append_eq_append_iff.mp hcs with ⟨mid, rfl, hrest⟩ | ⟨mid, hlexeme, hmid⟩
      · refine ih mid c after hrest ?_
        intro i hi
        have hi' := hfree i (List.mem_cons_of_mem _ hi)
        rwa [Text.byteLength_append, ← Nat.add_assoc] at hi'
      -- The character lies behind `before`, in front of the end of the lexeme, unless `mid` is empty.
      · cases mid with
        | nil =>
            refine ih [] c after (by simpa using hmid.symm) ?_
            intro i hi
            have hi' := hfree i (List.mem_cons_of_mem _ hi)
            rw [List.append_nil] at hlexeme
            rwa [hlexeme]
        | cons e mid =>
            refine absurd ?_ (hfree item List.mem_cons_self)
            have hpos := e.utf8Size_pos
            rw [Covers, hspan, hlexeme, Text.byteLength_append, Text.byteLength_cons]
            show offset ≤ offset + byteLength before
              ∧ offset + byteLength before
                < offset + (byteLength before + (e.utf8Size + byteLength mid))
            omega

/-! ## Whole texts -/

theorem scanned_scan (text : String) : Scanned 0 text.toList (scan text) :=
  scanned_scanFrom 0 text.toList

/-- A scan loses nothing and takes the longest match.  Its items lie in the text between whole
characters, one behind the other; each reports the piece that it covers, and what no item covers is
blank.  The tokens of a text are the items of its scan, or the first of them that is none. -/
theorem scan_faithful (text : String) :
    (∀ item ∈ scan text, ∃ before c piece after,
      text.toList = before ++ (c :: piece ++ after) ∧ isBlank c = false
        ∧ itemSpan item = ⟨byteLength before, byteLength before + byteLength (c :: piece)⟩
        ∧ Reports (c :: piece) after item)
      ∧ (scan text).Pairwise (fun i j => (itemSpan i).stop ≤ (itemSpan j).start)
      ∧ (∀ before c after, text.toList = before ++ c :: after →
          (∀ item ∈ scan text, ¬ Covers item (byteLength before)) → isBlank c = true)
      ∧ (∀ ts, tokenize text = .ok ts ↔ scan text = ts.map .ok)
      ∧ ∀ u, tokenize text = .error u ↔
          ∃ ts rest, scan text = List.map .ok ts ++ .error u :: rest := by
  have h := scanned_scan text
  refine ⟨?_, h.pairwise, ?_, fun ts => Outcome.mapM_id_eq_ok, fun u => Outcome.mapM_id_eq_error⟩
  · simpa using h.exists_piece
  · simpa using h.isBlank_of_not_covers

end LayoutLang.Token
