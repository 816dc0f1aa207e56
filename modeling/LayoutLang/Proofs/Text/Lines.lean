import LayoutLang.Proofs.Decimal.Literal
import LayoutLang.Text.Lines
import Mathlib.Data.List.TakeWhile

/-!
# Lines that are written are read back

Lines without line feeds of their own, each ended by one, are split into the same lines, with an
empty piece behind the last of them.  `IsLines` says what lines a text has in the usual sense, in
which a carriage return before a line feed ends the line with it and nothing follows the last end.

A text with no white space at its ends is left alone by `trim`, and what is put around a text is
trimmed with it if it is white space.  So `trim` gives the part of a text that has white space on
its two sides and none at its own ends, and there is only one such part (`trim_eq_iff`).
-/

namespace LayoutLang

namespace Unicode

theorem isWhiteSpace_iff {c : Char} :
    isWhiteSpace c = true ↔ ∃ run ∈ whiteSpaceRanges, run.1 ≤ c.toNat ∧ c.toNat ≤ run.2 :=
  inRanges_iff ascending_whiteSpaceRanges c.toNat

/-- No white space is from the exclamation mark to the tilde. -/
theorem not_isWhiteSpace_of_visible {c : Char} (hfirst : '!' ≤ c) (hlast : c ≤ '~') :
    isWhiteSpace c = false := by
  have hapart : ∀ run ∈ whiteSpaceRanges, run.2 < '!'.toNat ∨ '~'.toNat < run.1 := by decide
  have hge : '!'.toNat ≤ c.toNat := hfirst
  have hle : c.toNat ≤ '~'.toNat := hlast
  rw [← Bool.not_eq_true, isWhiteSpace_iff]
  rintro ⟨run, hrun, hrunFirst, hrunLast⟩
  have := hapart run hrun
  omega

end Unicode

namespace Text

open Unicode (isWhiteSpace)

/-! ## Line feeds -/

theorem lines_ne_nil (cs : List Char) : lines cs ≠ [] := by
  cases cs with
  | nil => exact List.cons_ne_nil _ _
  | cons c cs =>
      rw [lines]
      split
      · exact List.cons_ne_nil _ _
      · split
        · exact List.cons_ne_nil _ _
        · exact List.cons_ne_nil _ _

/-- A line feed ends what stands before it. -/
theorem lines_append (cs rest : List Char) :
    lines (cs ++ '\n' :: rest) = lines cs ++ lines rest := by
  induction cs with
  | nil => rfl
  | cons c cs ih =>
      rw [List.cons_append, lines, lines, ih]
      by_cases hc : c = '\n'
      · rw [if_pos hc, if_pos hc, List.cons_append]
      · obtain ⟨line, ls, hls⟩ := List.exists_cons_of_ne_nil (lines_ne_nil cs)
        rw [if_neg hc, if_neg hc, hls]
        rfl

theorem lines_of_newline_not_mem {line : List Char} (h : '\n' ∉ line) : lines line = [line] := by
  induction line with
  | nil => rfl
  | cons c cs ih =>
      rw [List.mem_cons, not_or] at h
      obtain ⟨hc, hcs⟩ := h
      rw [lines, if_neg (Ne.symm hc), ih hcs]

theorem lines_append_newline {line : List Char} (h : '\n' ∉ line) (rest : List Char) :
    lines (line ++ '\n' :: rest) = line :: lines rest := by
  rw [lines_append, lines_of_newline_not_mem h, List.singleton_append]

theorem toList_unlines_cons (line : String) (ls : List String) :
    (unlines (line :: ls)).toList = line.toList ++ '\n' :: (unlines ls).toList := by
  simp [unlines, String.toList_join]

/-- The lines of a text made of lines, and what is behind the last line feed. -/
theorem lines_unlines {ls : List String} (h : ∀ line ∈ ls, '\n' ∉ line.toList) :
    lines (unlines ls).toList = ls.map String.toList ++ [[]] := by
  induction ls with
  | nil => rfl
  | cons line ls ih =>
      obtain ⟨hline, hls⟩ := List.forall_mem_cons.mp h
      rw [toList_unlines_cons, lines_append_newline hline, ih hls, List.map_cons, List.cons_append]

/-- The line behind the last line feed. -/
theorem exists_lastLine (cs : List Char) :
    '\n' ∉ cs ∨ ∃ front line, cs = front ++ '\n' :: line ∧ '\n' ∉ line := by
  by_cases hmem : '\n' ∈ cs.reverse
  · obtain ⟨behind, front, hsplit, hbehind⟩ := List.eq_append_cons_of_mem hmem
    refine .inr ⟨front.reverse, behind.reverse, ?_, by rwa [List.mem_reverse]⟩
    rw [← List.reverse_reverse cs, hsplit]
    simp
  · exact .inl (by rwa [List.mem_reverse] at hmem)

/-! ## Lines and their ends -/

/-- The lines of a text: each ends with a line feed, which may have a carriage return before it, and
only the last may end with the text instead.  Neither character is part of its line. -/
inductive IsLines : List Char → List (List Char) → Prop
  | nil : IsLines [] []
  | last {line : List Char} : line ≠ [] → '\n' ∉ line → IsLines line [line]
  | lineFeed {line rest : List Char} {ls : List (List Char)} : '\n' ∉ line →
      line.getLast? ≠ some '\r' → IsLines rest ls → IsLines (line ++ '\n' :: rest) (line :: ls)
  | carriageReturn {line rest : List Char} {ls : List (List Char)} : '\n' ∉ line →
      IsLines rest ls → IsLines (line ++ '\r' :: '\n' :: rest) (line :: ls)

/-- Every text has lines. -/
theorem exists_isLines (text : List Char) : ∃ ls, IsLines text ls := by
  induction hlength : text.length using Nat.strongRecOn generalizing text with
  | ind n ih =>
    by_cases hmem : '\n' ∈ text
    · obtain ⟨line, rest, rfl, hline⟩ := List.eq_append_cons_of_mem hmem
      obtain ⟨ls, hls⟩ := ih rest.length
        (by rw [← hlength, List.length_append, List.length_cons]; omega) rest rfl
      by_cases hreturn : line.getLast? = some '\r'
      · obtain ⟨front, rfl⟩ := List.getLast?_eq_some_iff.mp hreturn
        rw [List.mem_append, not_or] at hline
        refine ⟨front :: ls, ?_⟩
        rw [List.append_assoc]
        exact .carriageReturn hline.1 hls
      · exact ⟨line :: ls, .lineFeed hline hreturn hls⟩
    · by_cases hempty : text = []
      · exact ⟨[], hempty ▸ .nil⟩
      · exact ⟨[text], .last hempty hmem⟩

/-! ## White space at the ends -/

theorem dropWhile_of_head {p : Char → Bool} {cs : List Char} (h : ∀ c ∈ cs.head?, p c = false) :
    cs.dropWhile p = cs :=
  dropWhile_run (w := []) (by simp) h

theorem trim_of_ends {cs : List Char} (hhead : ∀ c ∈ cs.head?, isWhiteSpace c = false)
    (hlast : ∀ c ∈ cs.getLast?, isWhiteSpace c = false) : trim cs = cs := by
  have hreverse : ∀ c ∈ cs.reverse.head?, isWhiteSpace c = false := by
    rwa [List.head?_reverse]
  rw [trim, dropWhile_of_head hhead, dropWhile_of_head hreverse, List.reverse_reverse]

/-- White space in front of a text is trimmed with what follows it. -/
theorem trim_append_left {w : List Char} (hw : ∀ c ∈ w, isWhiteSpace c = true) (cs : List Char) :
    trim (w ++ cs) = trim cs := by
  rw [trim, trim, List.dropWhile_append_of_pos hw]

theorem trim_append_right {w : List Char} (hw : ∀ c ∈ w, isWhiteSpace c = true) (cs : List Char) :
    trim (cs ++ w) = trim cs := by
  have hreverse : ∀ c ∈ w.reverse, isWhiteSpace c = true :=
    fun c hc => hw c (List.mem_reverse.mp hc)
  rw [trim, trim, List.dropWhile_append]
  split
  · next hblank =>
    have hall : w.dropWhile isWhiteSpace = [] := by simpa using dropWhile_run (r := []) hw (by simp)
    rw [hall, List.isEmpty_iff.mp hblank]
  · rw [List.reverse_append, List.dropWhile_append_of_pos hreverse]

/-- No white space at either end. -/
def IsTight (cs : List Char) : Prop :=
  (∀ c ∈ cs.head?, isWhiteSpace c = false) ∧ ∀ c ∈ cs.getLast?, isWhiteSpace c = false

/-- The second text is the first without the white space on its two sides. -/
def TrimsTo (cs core : List Char) : Prop :=
  ∃ left right, cs = left ++ (core ++ right) ∧ (∀ c ∈ left, isWhiteSpace c = true)
    ∧ (∀ c ∈ right, isWhiteSpace c = true) ∧ IsTight core

theorem trimsTo_trim (cs : List Char) : TrimsTo cs (trim cs) := by
  have hrun : ∀ cs : List Char, ∀ c ∈ cs.takeWhile isWhiteSpace, isWhiteSpace c = true :=
    fun _ _ => List.mem_takeWhile_imp
  have hend : ∀ cs : List Char, ∀ c ∈ (cs.dropWhile isWhiteSpace).head?,
      isWhiteSpace c = false := by
    intro cs c hc
    have hhead := List.head?_dropWhile_not isWhiteSpace cs
    rwa [hc] at hhead
  have hleft := List.takeWhile_append_dropWhile (p := isWhiteSpace) (l := cs)
  generalize hbody : cs.dropWhile isWhiteSpace = body at hleft
  have hright := List.takeWhile_append_dropWhile (p := isWhiteSpace) (l := body.reverse)
  have hsplit : body = trim cs ++ (body.reverse.takeWhile isWhiteSpace).reverse := by
    rw [trim, hbody, ← List.reverse_append, hright, List.reverse_reverse]
  refine ⟨cs.takeWhile isWhiteSpace, (body.reverse.takeWhile isWhiteSpace).reverse, ?_, hrun cs, ?_,
    ?_, ?_⟩
  · rw [← hsplit, hleft]
  · exact fun c hc => hrun _ c (List.mem_reverse.mp hc)
  · intro c hc
    refine hend cs c ?_
    rw [hbody, hsplit, List.head?_append, hc]
    rfl
  · intro c hc
    rw [trim, hbody, List.getLast?_reverse] at hc
    exact hend _ c hc

theorem trim_eq_iff {cs core : List Char} : trim cs = core ↔ TrimsTo cs core := by
  constructor
  · rintro rfl
    exact trimsTo_trim cs
  · rintro ⟨left, right, rfl, hleft, hright, hhead, hlast⟩
    rw [trim_append_left hleft, trim_append_right hright, trim_of_ends hhead hlast]

end Text

end LayoutLang
