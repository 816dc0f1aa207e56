import LayoutLang.Proofs.Token.Scan

/-!
# Tokens are pieces of their text

A span selects a piece of a text if it starts where the piece does and ends where it ends.  The
span of a token selects what the token was read from, and where one token follows another there is
nothing but blanks between the two.  `ReadFrom` says both of a list of tokens.  It holds of the
tokens of a text, and then of every run of them, so that a proof may take a statement apart.
-/

namespace LayoutLang

open Text (byteLength)

/-! ## Spans -/

/-- A span selects a piece of a text, from its first byte to its last.  Both ends are between whole
characters of the text. -/
def Span.Selects (span : Span) (text piece : List Char) : Prop :=
  ∃ before after, text = before ++ (piece ++ after)
    ∧ span = ⟨byteLength before, byteLength before + byteLength piece⟩

namespace Span.Selects

variable {span : Span} {text u v w : List Char}

theorem bounds (h : span.Selects text w) :
    span.start ≤ span.stop ∧ span.stop ≤ byteLength text := by
  obtain ⟨before, after, rfl, rfl⟩ := h
  refine ⟨Nat.le_add_right _ _, ?_⟩
  rw [Text.byteLength_append, Text.byteLength_append]
  show byteLength before + byteLength w ≤ byteLength before + (byteLength w + byteLength after)
  omega

theorem stop_eq (h : span.Selects text w) : span.stop = span.start + byteLength w := by
  obtain ⟨before, after, -, rfl⟩ := h
  rfl

/-- A part of a piece is selected by its place in the piece. -/
theorem middle (h : span.Selects text (u ++ (v ++ w))) :
    Selects ⟨span.start + byteLength u, span.start + byteLength u + byteLength v⟩ text v := by
  obtain ⟨before, after, rfl, rfl⟩ := h
  exact ⟨before ++ u, w ++ after, by simp, by simp⟩

/-- Nothing stands at the start of a piece, and nothing at its end. -/
theorem at_start (h : span.Selects text w) : Selects ⟨span.start, span.start⟩ text [] := by
  obtain ⟨before, after, rfl, rfl⟩ := h
  exact ⟨before, w ++ after, rfl, rfl⟩

theorem at_stop (h : span.Selects text w) : Selects ⟨span.stop, span.stop⟩ text [] := by
  obtain ⟨before, after, rfl, rfl⟩ := h
  exact ⟨before ++ w, after, by simp, by simp⟩

end Span.Selects

namespace Token

/-! ## One item of a scan after another -/

variable {offset : Nat} {cs : List Char} {items : List (Except Unexpected Placed)}
  {item : Except Unexpected Placed}

/-- Up to the first item there are blanks, and from its end the scan goes on. -/
theorem Scanned.head (h : Scanned offset cs (item :: items)) :
    ∃ gap piece after, cs = gap ++ (piece ++ after) ∧ (∀ c ∈ gap, isBlank c = true)
      ∧ itemSpan item
        = ⟨offset + byteLength gap, offset + byteLength gap + byteLength piece⟩
      ∧ Reports piece after item
      ∧ Scanned (offset + byteLength gap + byteLength piece) after items := by
  generalize hitems : item :: items = all at h
  induction h with
  | nil _ => cases hitems
  | @blank offset c cs _ hblank _ ih =>
      obtain ⟨gap, piece, after, rfl, hgap, hspan, hreports, hrest⟩ := ih hitems
      rw [Nat.add_assoc offset, ← Text.byteLength_cons] at hspan hrest
      refine ⟨c :: gap, piece, after, rfl, ?_, hspan, hreports, hrest⟩
      intro d hd
      rcases List.mem_cons.mp hd with rfl | hd
      · exact hblank
      · exact hgap d hd
  | @item offset c piece after _ _ _ hspan hreports hrest _ =>
      obtain ⟨rfl, rfl⟩ := List.cons.inj hitems
      exact ⟨[], c :: piece, after, rfl, by simp, hspan, hreports, hrest⟩

/-- Behind some items the scan goes on from some place. -/
theorem Scanned.drop {before : List (Except Unexpected Placed)}
    (h : Scanned offset cs (before ++ items)) :
    ∃ front back, cs = front ++ back ∧ Scanned (offset + byteLength front) back items := by
  induction before generalizing offset cs with
  | nil => exact ⟨[], cs, rfl, h⟩
  | cons i before ih =>
      obtain ⟨gap, piece, after, rfl, -, -, -, hrest⟩ := h.head
      obtain ⟨front, back, rfl, hback⟩ := ih hrest
      refine ⟨gap ++ (piece ++ front), back, by simp, ?_⟩
      rwa [Text.byteLength_append, Text.byteLength_append, ← Nat.add_assoc, ← Nat.add_assoc]

/-! ## Tokens -/

/-- Tokens that were read from a text: each from a piece of it, with only blanks between two
neighbours. -/
structure ReadFrom (text : List Char) (ts : List Placed) : Prop where
  piece : ∀ t ∈ ts, ∃ w, t.span.Selects text w ∧ Spells w t.token
  neighbours : ∀ t t', [t, t'] <:+: ts → ∃ w gap w',
    Span.Selects ⟨t.span.start, t'.span.stop⟩ text (w ++ (gap ++ w'))
      ∧ (∀ c ∈ gap, isBlank c = true) ∧ Spells w t.token ∧ Spells w' t'.token

namespace ReadFrom

variable {text : List Char} {t : Placed} {ts us : List Placed}

theorem of_infix (h : ReadFrom text ts) (hus : us <:+: ts) : ReadFrom text us where
  piece := fun t ht => h.piece t (hus.mem ht)
  neighbours := fun t t' htt => h.neighbours t t' (htt.trans hus)

theorem tail (h : ReadFrom text (t :: ts)) : ReadFrom text ts :=
  h.of_infix (List.suffix_cons t ts).isInfix

theorem left (h : ReadFrom text (ts ++ us)) : ReadFrom text ts :=
  h.of_infix (List.prefix_append ts us).isInfix

theorem right (h : ReadFrom text (ts ++ us)) : ReadFrom text us :=
  h.of_infix (List.suffix_append ts us).isInfix

end ReadFrom

/-- The tokens of a text were read from it. -/
theorem readFrom_of_tokenize {text : String} {ts : List Placed} (h : tokenize text = .ok ts) :
    ReadFrom text.toList ts := by
  have hscan := scanned_scan text
  rw [Outcome.mapM_id_eq_ok.mp h] at hscan
  refine ⟨?_, ?_⟩
  · intro t ht
    obtain ⟨before, c, piece, after, hcs, -, hspan, hreports⟩ :=
      hscan.exists_piece (.ok t) (List.mem_map_of_mem ht)
    rw [Nat.zero_add] at hspan
    exact ⟨c :: piece, ⟨before, after, hcs, hspan⟩, hreports.1.spells⟩
  · rintro t t' ⟨before, after, rfl⟩
    rw [List.append_assoc, List.map_append] at hscan
    obtain ⟨front, back, htext, hback⟩ := hscan.drop
    obtain ⟨gap, w, rest, rfl, -, hspan, hreports, hrest⟩ := Scanned.head hback
    obtain ⟨gap', w', rest', rfl, hgap', hspan', hreports', -⟩ := Scanned.head hrest
    have hstart := congrArg Span.start hspan
    have hstop := congrArg Span.stop hspan'
    refine ⟨w, gap', w', ⟨front ++ gap, rest', ?_, ?_⟩, hgap', hreports.1.spells,
      hreports'.1.spells⟩
    · rw [htext]
      simp
    · simp only [itemSpan] at hstart hstop
      rw [hstart, hstop]
      simp only [Text.byteLength_append, Nat.zero_add, Nat.add_assoc]

/-- The character that was not expected is selected. -/
theorem selects_of_tokenize_error {text : String} {u : Unexpected} (h : tokenize text = .error u) :
    u.span.Selects text.toList [u.character] := by
  obtain ⟨ts, rest, hscan⟩ := Outcome.mapM_id_eq_error.mp h
  have hmem : .error u ∈ scan text := by
    rw [hscan]
    exact List.mem_append_right _ List.mem_cons_self
  obtain ⟨before, c, piece, after, hcs, -, hspan, hreports⟩ :=
    (scanned_scan text).exists_piece _ hmem
  rw [Nat.zero_add] at hspan
  rw [← hreports.1]
  exact ⟨before, after, hcs, hspan⟩

end Token

end LayoutLang
