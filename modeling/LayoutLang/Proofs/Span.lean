import LayoutLang.Span

/-!
# Spans that follow one another

`Span.Ascending lo spans hi` says that the spans lie between two offsets, one behind another, and
that none of them is empty.  The offsets are bounds and need not be reached, so that a list may be
taken apart and put together again (`exists_mid`, `append`), and a span may be left out (`tail`),
joined with the next (`join`) or cut in two (`cut`).
-/

namespace LayoutLang.Span

/-- Spans that lie one behind another between two offsets, none of them empty. -/
inductive Ascending : Nat → List Span → Nat → Prop
  | nil {lo hi : Nat} : lo ≤ hi → Ascending lo [] hi
  | cons {lo hi : Nat} {span : Span} {spans : List Span} : lo ≤ span.start →
      span.start < span.stop → Ascending span.stop spans hi → Ascending lo (span :: spans) hi

namespace Ascending

variable {lo mid hi : Nat} {span : Span} {spans rest : List Span}

theorem le_start (h : Ascending lo spans hi) : ∀ span ∈ spans, lo ≤ span.start := by
  induction h with
  | nil _ => simp
  | cons hlo hne _ ih =>
      intro s hs
      rcases List.mem_cons.mp hs with rfl | hs
      · exact hlo
      · have hle := ih s hs
        omega

theorem start_lt_stop (h : Ascending lo spans hi) : ∀ span ∈ spans, span.start < span.stop := by
  induction h with
  | nil _ => simp
  | cons _ hne _ ih => exact List.forall_mem_cons.mpr ⟨hne, ih⟩

theorem pairwise (h : Ascending lo spans hi) : spans.Pairwise fun s t => s.stop ≤ t.start := by
  induction h with
  | nil _ => exact .nil
  | cons _ _ hrest ih => exact .cons hrest.le_start ih

theorem of_le {lo' : Nat} (hle : lo' ≤ lo) (h : Ascending lo spans hi) :
    Ascending lo' spans hi := by
  cases h with
  | nil hlohi => exact .nil (Nat.le_trans hle hlohi)
  | cons hlo hne hrest => exact .cons (Nat.le_trans hle hlo) hne hrest

theorem tail (h : Ascending lo (span :: spans) hi) : Ascending lo spans hi := by
  cases h with
  | cons hlo hne hrest => exact hrest.of_le (by omega)

/-- Two neighbours are joined. -/
theorem join {next : Span} (h : Ascending lo (span :: next :: spans) hi) :
    Ascending lo (⟨span.start, next.stop⟩ :: spans) hi := by
  cases h with
  | cons hlo hne hrest =>
      cases hrest with
      | cons hle hne' hrest =>
          refine .cons hlo ?_ hrest
          show span.start < next.stop
          omega

/-- A span is cut in two, perhaps with something between the parts. -/
theorem cut {a b : Nat} (h : Ascending lo (span :: spans) hi) (ha : span.start < a) (hab : a ≤ b)
    (hb : b < span.stop) : Ascending lo (⟨span.start, a⟩ :: ⟨b, span.stop⟩ :: spans) hi := by
  cases h with
  | cons hlo _ hrest => exact .cons hlo ha (.cons hab hb hrest)

theorem append (h : Ascending lo spans mid) (hrest : Ascending mid rest hi) :
    Ascending lo (spans ++ rest) hi := by
  induction h with
  | nil hle => exact hrest.of_le hle
  | cons hlo hne _ ih => exact .cons hlo hne (ih hrest)

/-- Between two runs of spans there is a place to cut. -/
theorem exists_mid (h : Ascending lo (spans ++ rest) hi) :
    ∃ mid, Ascending lo spans mid ∧ Ascending mid rest hi := by
  induction spans generalizing lo with
  | nil => exact ⟨lo, .nil (Nat.le_refl lo), h⟩
  | cons span spans ih =>
      cases h with
      | cons hlo hne hrest =>
          obtain ⟨mid, hspans, hrest⟩ := ih hrest
          exact ⟨mid, .cons hlo hne hspans, hrest⟩

end Ascending

end LayoutLang.Span
