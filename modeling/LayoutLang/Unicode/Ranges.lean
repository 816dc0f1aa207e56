/-!
# Sets of code points

A property of characters is a set of code points, and a set is listed as its maximal runs in
ascending order.  So membership can stop at the first run that starts above the code point, and a
character early in the code space is found early.
-/

namespace LayoutLang.Unicode

/-- Whether a code point lies in one of the runs, given as first and last member and in ascending
order. -/
def inRanges (n : Nat) : List (Nat × Nat) → Bool
  | [] => false
  | (first, last) :: rest => if n < first then false else n ≤ last || inRanges n rest

/-- Whether runs are in ascending order, apart from one another, and start at `least` or later. -/
def ascending (least : Nat) : List (Nat × Nat) → Bool
  | [] => true
  | (first, last) :: rest => least ≤ first && first ≤ last && ascending (last + 1) rest

/-- No run of an ascending list starts before `least`. -/
theorem least_le_of_mem {least : Nat} {runs : List (Nat × Nat)} (h : ascending least runs = true)
    {run : Nat × Nat} (hrun : run ∈ runs) : least ≤ run.1 := by
  induction runs generalizing least with
  | nil => cases hrun
  | cons r rest ih =>
    obtain ⟨first, last⟩ := r
    simp only [ascending, Bool.and_eq_true, decide_eq_true_eq] at h
    rcases List.mem_cons.1 hrun with rfl | hrest
    · exact h.1.1
    · have := ih h.2 hrest
      omega

/-- In an ascending list, stopping early loses nothing. -/
theorem inRanges_iff {least : Nat} {runs : List (Nat × Nat)} (h : ascending least runs = true)
    (n : Nat) : inRanges n runs = true ↔ ∃ run ∈ runs, run.1 ≤ n ∧ n ≤ run.2 := by
  induction runs generalizing least with
  | nil => simp [inRanges]
  | cons r rest ih =>
    obtain ⟨first, last⟩ := r
    simp only [ascending, Bool.and_eq_true, decide_eq_true_eq] at h
    have hlater : ∀ run ∈ rest, last + 1 ≤ run.1 := fun run => least_le_of_mem h.2
    by_cases hn : n < first
    · rw [inRanges, if_pos hn]
      constructor
      · intro hfalse
        cases hfalse
      · rintro ⟨run, hrun, hle, _⟩
        rcases List.mem_cons.1 hrun with rfl | hrest
        · omega
        · have := hlater run hrest
          omega
    · rw [inRanges, if_neg hn, Bool.or_eq_true, decide_eq_true_eq, ih h.2]
      constructor
      · rintro (hle | ⟨run, hrest, hin⟩)
        · exact ⟨(first, last), List.mem_cons_self, by omega, hle⟩
        · exact ⟨run, List.mem_cons_of_mem _ hrest, hin⟩
      · rintro ⟨run, hrun, hin⟩
        rcases List.mem_cons.1 hrun with rfl | hrest
        · exact .inl hin.2
        · exact .inr ⟨run, hrest, hin⟩

end LayoutLang.Unicode
