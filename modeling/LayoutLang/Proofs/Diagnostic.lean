import LayoutLang.Proofs.Text.Lines
import LayoutLang.Proofs.Text.Offset
import LayoutLang.Proofs.Token.Piece
import LayoutLang.Rejection

/-!
# Carets under a source

A diagnostic shows a rejection under a source, which need not be the text that was rejected.  Its
span may end before it starts, lie inside characters or reach behind the source.  `Drawn` says what
is drawn then: the start is taken down to its floor, the end to the floor of the later of itself and
that start, so that both cut the source between characters and in this order, and the carets are
counted in characters of what is cut out.

The offsets are compared before they are taken down (`columns`), the other order gives the same cut
(`Text.before_max_floor`).

Where the span does select something of a source of one line, the carets stand in the columns of
just that.
-/

namespace LayoutLang

open Text (byteLength before)

namespace Rejection

/-- What stands in front of the source and of the carets. -/
def gutter : List Char := "  | ".toList

/-- A line of carets behind so many blank columns. -/
def caretLine (column width : Nat) : List Char :=
  gutter ++ (List.replicate column ' ' ++ List.replicate width '^')

/-- What the diagnostic of a rejection shows of a source: the part before `s`, and the part from `s`
to `t` that is marked. -/
structure Drawn (e : Rejection) (source : String) (s t : Nat) (front marked : List Char) :
    Prop where
  start : Text.IsFloor source.toList e.span.start s
  stop : Text.IsFloor source.toList (max e.span.stop s) t
  /-- Both are found by going back, which never leads past the start of the source. -/
  start_found :
    Text.stepBack? source.toList (min e.span.start (byteLength source.toList)) = some s
  stop_found :
    Text.stepBack? source.toList (min (max e.span.stop s) (byteLength source.toList)) = some t
  ordered : s ≤ t ∧ t ≤ byteLength source.toList
  front_selected : Span.Selects ⟨0, s⟩ source.toList front
  marked_selected : Span.Selects ⟨s, t⟩ source.toList marked
  text : (e.diagnostic source).toList
    = "error: ".toList ++ e.message.toList
      ++ '\n' :: (gutter ++ source.toList
        ++ '\n' :: caretLine front.length (max 1 marked.length))
  /-- No line feed is behind the carets. -/
  last : (e.diagnostic source).toList.getLast? = some '^'
  /-- The carets reach at most one column past the source. -/
  reach : front.length + max 1 marked.length ≤ source.toList.length + 1

/-! ## Lines -/

theorem getLast?_caretLine {column width : Nat} (h : 1 ≤ width) :
    (caretLine column width).getLast? = some '^' := by
  obtain ⟨n, rfl⟩ : ∃ n, width = n + 1 := ⟨width - 1, by omega⟩
  rw [caretLine, List.replicate_succ', ← List.append_assoc, ← List.append_assoc,
    List.getLast?_concat]

theorem newline_not_mem_gutter : '\n' ∉ gutter := by decide

theorem caret_not_mem_gutter : '^' ∉ gutter := by decide

theorem newline_not_mem_caretLine (column width : Nat) : '\n' ∉ caretLine column width := by
  simp [caretLine, newline_not_mem_gutter, List.mem_replicate]

/-- The columns in which a line of carets has one. -/
theorem getElem?_caretLine {column width i : Nat} :
    (caretLine column width)[i]? = some '^'
      ↔ gutter.length + column ≤ i ∧ i < gutter.length + column + width := by
  have hgutter : ∀ c ∈ gutter ++ List.replicate column ' ', c ≠ '^' := by
    intro c hc
    rcases List.mem_append.mp hc with hc | hc
    · rintro rfl
      exact caret_not_mem_gutter hc
    · rw [List.eq_of_mem_replicate hc]
      decide
  have hlength : (gutter ++ List.replicate column ' ').length = gutter.length + column := by simp
  rw [caretLine, ← List.append_assoc, ← hlength]
  rcases Nat.lt_or_ge i (gutter ++ List.replicate column ' ').length with hi | hi
  · rw [List.getElem?_append_left hi, List.getElem?_eq_getElem hi]
    constructor
    · intro h
      exact absurd (Option.some.inj h) (hgutter _ (List.getElem_mem hi))
    · rintro ⟨hge, -⟩
      omega
  · rw [List.getElem?_append_right hi, List.getElem?_replicate]
    split
    · next hlt => exact ⟨fun _ => ⟨hi, by omega⟩, fun _ => rfl⟩
    · next hge => exact ⟨nofun, fun h => absurd h.2 (by omega)⟩

/-- The three lines of a diagnostic; the first may be broken by what it quotes. -/
theorem toList_diagnostic {e : Rejection} {source : String} {column width : Nat}
    (h : columns e.span source.toList = (column, width)) :
    (e.diagnostic source).toList
      = "error: ".toList ++ e.message.toList
        ++ '\n' :: (gutter ++ source.toList ++ '\n' :: caretLine column width) := by
  simp [diagnostic, h, caretLine, gutter]

/-! ## Cuts -/

/-- What is in front of a span, and what is in it as far as it is there. -/
theorem columns_of_before {span : Span} {source front marked : List Char}
    (hfront : before span.start source = front)
    (hmarked : before (max span.stop span.start) source = front ++ marked) :
    columns span source = (front.length, max 1 marked.length) := by
  have hpast : (before (Nat.max span.stop span.start) source).length
      = front.length + marked.length := by
    rw [← List.length_append, ← hmarked]
  rw [columns, hfront, hpast, Nat.add_sub_cancel_left, Nat.max_comm 1]

/-- Every rejection is drawn under every source. -/
theorem exists_drawn (e : Rejection) (source : String) :
    ∃ s t front marked, Drawn e source s t front marked := by
  obtain ⟨marked, hmarked⟩ :=
    Text.before_mono (Nat.le_max_right e.span.stop e.span.start) source.toList
  obtain ⟨back, hback⟩ :=
    Text.before_isPrefix (max e.span.stop e.span.start) source.toList
  have hstart := Text.isFloor_before source.toList e.span.start
  have hstop := Text.isFloor_before source.toList
    (max e.span.stop (byteLength (before e.span.start source.toList)))
  rw [Text.before_max_floor, ← hmarked] at hstop
  have hcolumns := columns_of_before rfl hmarked.symm
  have htext := toList_diagnostic hcolumns
  rw [← hmarked] at hback
  generalize before e.span.start source.toList = front at *
  have hsource : source.toList = front ++ (marked ++ back) := by
    rw [← hback, List.append_assoc]
  refine ⟨byteLength front, byteLength (front ++ marked), front, marked, ?_⟩
  exact
    { start := hstart
      stop := hstop
      start_found := Text.stepBack?_eq_some hstart
      stop_found := Text.stepBack?_eq_some hstop
      ordered := by
        rw [hsource, Text.byteLength_append, Text.byteLength_append, Text.byteLength_append]
        omega
      front_selected := ⟨[], marked ++ back, hsource, by simp⟩
      marked_selected := ⟨front, back, hsource, by simp⟩
      text := htext
      last := by
        rw [htext]
        simp [List.getLast?_append, List.getLast?_cons, getLast?_caretLine]
      reach := by
        rw [hsource, List.length_append, List.length_append]
        omega }

/-- A span from elsewhere: it starts inside the second character of the source. -/
example : (lexical ⟨2, '<'⟩).diagnostic "aé"
    = "error: unexpected character '<' at offset 2\n  | aé\n  |  ^" := by
  decide +kernel

/-! ## A span of the source -/

theorem columns_of_selects {span : Span} {source front piece back : List Char}
    (hsource : source = front ++ (piece ++ back))
    (hspan : span = ⟨byteLength front, byteLength front + byteLength piece⟩) :
    columns span source = (front.length, max 1 piece.length) := by
  subst hsource hspan
  refine columns_of_before (Text.before_byteLength front _) ?_
  rw [Nat.max_eq_left (Nat.le_add_right _ _), ← Text.byteLength_append, ← List.append_assoc]
  exact Text.before_byteLength (front ++ piece) back

/-- Every rejection can be shown under every source, whatever its span.  If the span selects a piece
of a source of one line, the carets are the last line, the source is the line before it, and the
columns with a caret are those of the piece. -/
theorem diagnostic_aligned (e : Rejection) (source : String) :
    (∃ s t front marked, Drawn e source s t front marked)
      ∧ ∀ front piece back, source.toList = front ++ (piece ++ back) →
          e.span = ⟨byteLength front, byteLength front + byteLength piece⟩ → piece ≠ [] →
          '\n' ∉ source.toList →
          ∃ carets, Text.lines (e.diagnostic source).toList
              = Text.lines ("error: ".toList ++ e.message.toList)
                ++ [gutter ++ (front ++ (piece ++ back)), carets]
            ∧ ∀ i, carets[i]? = some '^'
              ↔ (gutter ++ front).length ≤ i ∧ i < (gutter ++ (front ++ piece)).length := by
  refine ⟨exists_drawn e source, ?_⟩
  intro front piece back hsource hspan hpiece hnewline
  have htext := toList_diagnostic (columns_of_selects hsource hspan)
  have hwidth : max 1 piece.length = piece.length :=
    Nat.max_eq_right (List.length_pos_iff.mpr hpiece)
  have hline : '\n' ∉ gutter ++ source.toList := by
    rw [List.mem_append, not_or]
    exact ⟨newline_not_mem_gutter, hnewline⟩
  refine ⟨caretLine front.length piece.length, ?_, ?_⟩
  · rw [htext, hwidth, Text.lines_append, Text.lines_append_newline hline,
      Text.lines_of_newline_not_mem (newline_not_mem_caretLine _ _), hsource]
  · intro i
    rw [getElem?_caretLine]
    simp only [List.length_append, Nat.add_assoc]

def wideSource : String := "größe.wïdth = 1"

/-- The attribute is to blame: it stands behind characters of more than one byte, and has one. -/
def wideRejection : Rejection := .resolution ⟨.unknownAttribute, "wïdth", ⟨8, 14⟩⟩

theorem diagnostic_aligned_wide :
    (wideSource.toList = "größe.".toList ++ ("wïdth".toList ++ " = 1".toList)
        ∧ wideRejection.span
          = ⟨byteLength "größe.".toList, byteLength "größe.".toList + byteLength "wïdth".toList⟩
        ∧ "wïdth".toList ≠ [] ∧ '\n' ∉ wideSource.toList)
      ∧ ∃ carets, Text.lines (wideRejection.diagnostic wideSource).toList
          = Text.lines ("error: ".toList ++ wideRejection.message.toList)
            ++ [gutter ++ ("größe.".toList ++ ("wïdth".toList ++ " = 1".toList)), carets]
        ∧ ∀ i, carets[i]? = some '^'
          ↔ (gutter ++ "größe.".toList).length ≤ i
            ∧ i < (gutter ++ ("größe.".toList ++ "wïdth".toList)).length := by
  have hsource : wideSource.toList = "größe.".toList ++ ("wïdth".toList ++ " = 1".toList) := by
    decide +kernel
  have hspan : wideRejection.span
      = ⟨byteLength "größe.".toList, byteLength "größe.".toList + byteLength "wïdth".toList⟩ := by
    decide +kernel
  have hpiece : "wïdth".toList ≠ [] := by decide +kernel
  have hnewline : '\n' ∉ wideSource.toList := by decide +kernel
  exact ⟨⟨hsource, hspan, hpiece, hnewline⟩,
    (diagnostic_aligned wideRejection wideSource).2 _ _ _ hsource hspan hpiece hnewline⟩

end Rejection

end LayoutLang
