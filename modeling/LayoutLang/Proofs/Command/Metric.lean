import LayoutLang.Command.Metric
import LayoutLang.Proofs.Decimal.Grammar
import LayoutLang.Proofs.Text.Lines

/-!
# Metrics are read back

The text of a metric is cut at its first equals sign, and what stands on the two sides is trimmed.
So each outcome of reading it is said by how the text is written (`metricOfText_eq_ok_iff`,
`metricOfText_eq_noValue_iff`, `metricOfText_eq_badValue_iff`), with `Text.TrimsTo` for what is
trimmed and the grammar of numbers for the value.

The text of a double is in this grammar and has no white space at its ends, so a metric is read as
it was written, whatever white space is put around its two parts.  No number has an equals sign in
it, so a second one is never part of a value.
-/

namespace LayoutLang

open Binary64 (IsSpelling)
open Text (IsTight TrimsTo trim)
open Unicode (isWhiteSpace)

/-! ## Numbers -/

namespace Binary64

variable {cs : List Char} {x : Binary64}

theorem visible_of_isNumeric {c : Char} (h : IsNumeric c) : '!' ≤ c ∧ c ≤ '~' := by
  rcases h with h | rfl | rfl | rfl
  · simp only [Char.isAlphanum, Char.isAlpha, Char.isUpper, Char.isLower, Char.isDigit,
      Bool.or_eq_true, Bool.and_eq_true, decide_eq_true_eq] at h
    rcases h with (⟨hge, hle⟩ | ⟨hge, hle⟩) | ⟨hge, hle⟩ <;>
      exact ⟨UInt32.le_trans (by decide) hge, UInt32.le_trans hle (by decide)⟩
  · decide
  · decide
  · decide

theorem IsSpelling.isTight (h : IsSpelling cs x) : IsTight cs := by
  have hnone : ∀ c ∈ cs, isWhiteSpace c = false := by
    intro c hc
    obtain ⟨hfirst, hlast⟩ := visible_of_isNumeric (h.isNumeric c hc)
    exact Unicode.not_isWhiteSpace_of_visible hfirst hlast
  exact ⟨fun c hc => hnone c (List.mem_of_head? hc), fun c hc => hnone c (List.mem_of_getLast? hc)⟩

theorem IsSpelling.equals_not_mem (h : IsSpelling cs x) : '=' ∉ cs := by
  intro hmem
  have hnumeric := h.isNumeric '=' hmem
  simp [IsNumeric, Char.isAlphanum, Char.isAlpha, Char.isUpper, Char.isLower, Char.isDigit]
    at hnumeric

end Binary64

namespace Command

variable {text : String} {name value : List Char} {x : Binary64}

/-! ## The first equals sign -/

theorem metricOfText_of_not_mem (h : '=' ∉ text.toList) : metricOfText text = .error .noValue := by
  have hdrop : text.toList.dropWhile (· ≠ '=') = [] := by
    simpa using Text.dropWhile_run (p := (· ≠ '=')) (r := []) (w := text.toList)
      (fun c hc => decide_eq_true fun heq => h (heq ▸ hc)) (by simp)
  unfold metricOfText
  simp only [hdrop]

/-- The text is cut at its first equals sign. -/
theorem cut_equals (hname : '=' ∉ name) (value : List Char) :
    (name ++ '=' :: value).takeWhile (· ≠ '=') = name
      ∧ (name ++ '=' :: value).dropWhile (· ≠ '=') = '=' :: value := by
  have hrun : ∀ c ∈ name, decide (c ≠ '=') = true :=
    fun c hc => decide_eq_true fun heq => hname (heq ▸ hc)
  have hend : ∀ c ∈ ('=' :: value).head?, decide (c ≠ '=') = false := by
    rintro c ⟨⟩
    rfl
  exact ⟨Text.takeWhile_run hrun hend, Text.dropWhile_run hrun hend⟩

theorem metricOfText_of_cut (htext : text.toList = name ++ '=' :: value) (hname : '=' ∉ name) :
    metricOfText text = match Binary64.ofText (.ofList (trim value)) with
      | .ok x => .ok (.ofList (trim name), x)
      | .error e => .error (.badValue (.ofList name) e) := by
  obtain ⟨htake, hdrop⟩ := cut_equals hname value
  cases hvalue : Binary64.ofText (.ofList (trim value)) <;>
    simp only [metricOfText, htext, htake, hdrop, hvalue]

/-! ## Outcomes -/

/-- A metric is had of a text with an equals sign, with a number behind the first one. -/
theorem metricOfText_eq_ok_iff {name : String} :
    metricOfText text = .ok (name, x) ↔ ∃ left right value, text.toList = left ++ '=' :: right
      ∧ '=' ∉ left ∧ TrimsTo left name.toList ∧ TrimsTo right value ∧ IsSpelling value x := by
  constructor
  · intro h
    by_cases hmem : '=' ∈ text.toList
    · obtain ⟨left, right, htext, hleft⟩ := List.eq_append_cons_of_mem hmem
      rw [metricOfText_of_cut htext hleft] at h
      split at h
      · next y hy =>
        obtain ⟨hname, rfl⟩ := Prod.mk.inj (Except.ok.inj h)
        have hspelling := Binary64.ofText_eq_ok_iff.mp hy
        rw [String.toList_ofList] at hspelling
        refine ⟨left, right, trim right, htext, hleft, ?_, Text.trimsTo_trim right, hspelling⟩
        rw [← hname, String.toList_ofList]
        exact Text.trimsTo_trim left
      · cases h
    · rw [metricOfText_of_not_mem hmem] at h
      cases h
  · rintro ⟨left, right, value, htext, hleft, hname, hvalue, hspelling⟩
    rw [metricOfText_of_cut htext hleft, Text.trim_eq_iff.mpr hvalue, Text.trim_eq_iff.mpr hname,
      Binary64.ofText_of_isSpelling hspelling, String.ofList_toList]

theorem metricOfText_eq_noValue_iff :
    metricOfText text = .error .noValue ↔ '=' ∉ text.toList := by
  constructor
  · intro h hmem
    obtain ⟨left, right, htext, hleft⟩ := List.eq_append_cons_of_mem hmem
    rw [metricOfText_of_cut htext hleft] at h
    split at h <;> cases h
  · exact metricOfText_of_not_mem

/-- The error has the text in front of the first equals sign as it was given. -/
theorem metricOfText_eq_badValue_iff {name : String} {reason : NumberError} :
    metricOfText text = .error (.badValue name reason) ↔ ∃ right value,
      text.toList = name.toList ++ '=' :: right ∧ '=' ∉ name.toList ∧ TrimsTo right value
        ∧ (∀ x, ¬ IsSpelling value x) ∧ reason = if value = [] then .empty else .invalid := by
  constructor
  · intro h
    by_cases hmem : '=' ∈ text.toList
    · obtain ⟨left, right, htext, hleft⟩ := List.eq_append_cons_of_mem hmem
      rw [metricOfText_of_cut htext hleft] at h
      split at h
      · cases h
      · next e he =>
        obtain ⟨rfl, rfl⟩ := MetricError.badValue.inj (Except.error.inj h)
        obtain ⟨hnone, hreason⟩ := Binary64.ofText_eq_error_iff.mp he
        rw [String.toList_ofList] at hnone hreason ⊢
        exact ⟨right, trim right, htext, hleft, Text.trimsTo_trim right, hnone, hreason⟩
    · rw [metricOfText_of_not_mem hmem] at h
      cases h
  · rintro ⟨right, value, htext, hname, hvalue, hnone, hreason⟩
    have herror : Binary64.ofText (.ofList value) = .error reason := by
      rw [Binary64.ofText_eq_error_iff, String.toList_ofList]
      exact ⟨hnone, hreason⟩
    rw [metricOfText_of_cut htext hname, Text.trim_eq_iff.mpr hvalue, herror, String.ofList_toList]

/-! ## Writing a metric -/

theorem equals_not_mem_of_isWhiteSpace {cs : List Char} (h : ∀ c ∈ cs, isWhiteSpace c = true) :
    '=' ∉ cs := by
  intro hmem
  have hwhite := h '=' hmem
  rw [Unicode.not_isWhiteSpace_of_visible (by decide) (by decide)] at hwhite
  cases hwhite

/-- The metric that was written is read, with any white space around its parts. -/
theorem metricOfText_of_written {name before after front back : String}
    (hequals : '=' ∉ name.toList) (htight : IsTight name.toList)
    (hpad : ∀ c ∈ (before ++ after ++ front ++ back).toList, isWhiteSpace c = true)
    (x : Binary64) :
    metricOfText (before ++ name ++ after ++ "=" ++ front ++ x.text ++ back) = .ok (name, x) := by
  simp only [String.toList_append, List.forall_mem_append] at hpad
  obtain ⟨⟨⟨hbefore, hafter⟩, hfront⟩, hback⟩ := hpad
  have hspelling := Binary64.isSpelling_text x
  refine metricOfText_eq_ok_iff.mpr ⟨before.toList ++ (name.toList ++ after.toList),
    front.toList ++ (x.text.toList ++ back.toList), x.text.toList, ?_, ?_, ?_, ?_, hspelling⟩
  · simp
  · simp only [List.mem_append, not_or]
    exact ⟨equals_not_mem_of_isWhiteSpace hbefore, hequals, equals_not_mem_of_isWhiteSpace hafter⟩
  · exact ⟨_, _, rfl, hbefore, hafter, htight⟩
  · exact ⟨_, _, rfl, hfront, hback, hspelling.isTight⟩

/-- A second equals sign is part of the value, which is no number then. -/
theorem metricOfText_of_second {name middle right : String} (hname : '=' ∉ name.toList) :
    metricOfText (name ++ "=" ++ middle ++ "=" ++ right) = .error (.badValue name .invalid) := by
  obtain ⟨front, back, hcut, hfront, hback, htight⟩ :=
    Text.trimsTo_trim (middle.toList ++ '=' :: right.toList)
  generalize trim (middle.toList ++ '=' :: right.toList) = value at hcut htight
  have hmem : '=' ∈ value := by
    have hall : '=' ∈ front ++ (value ++ back) := by
      rw [← hcut]
      exact List.mem_append_right _ List.mem_cons_self
    rcases List.mem_append.mp hall with hin | hin
    · exact absurd hin (equals_not_mem_of_isWhiteSpace hfront)
    · exact (List.mem_append.mp hin).resolve_right (equals_not_mem_of_isWhiteSpace hback)
  refine metricOfText_eq_badValue_iff.mpr
    ⟨middle.toList ++ '=' :: right.toList, value, ?_, hname, ?_, ?_, ?_⟩
  · simp
  · exact ⟨front, back, hcut, hfront, hback, htight⟩
  · exact fun x hspelling => hspelling.equals_not_mem hmem
  · exact (if_neg (List.ne_nil_of_mem hmem)).symm

/-- Reading a metric is the inverse of writing one. -/
theorem metricOfText_inverse :
    (∀ text name x, metricOfText text = .ok (name, x) ↔ ∃ left right value,
      text.toList = left ++ '=' :: right ∧ '=' ∉ left ∧ TrimsTo left name.toList
        ∧ TrimsTo right value ∧ IsSpelling value x)
    ∧ (∀ text, metricOfText text = .error .noValue ↔ '=' ∉ text.toList)
    ∧ (∀ text name reason, metricOfText text = .error (.badValue name reason) ↔ ∃ right value,
      text.toList = name.toList ++ '=' :: right ∧ '=' ∉ name.toList ∧ TrimsTo right value
        ∧ (∀ x, ¬ IsSpelling value x) ∧ reason = if value = [] then .empty else .invalid)
    ∧ (∀ (x : Binary64) (name before after front back : String), '=' ∉ name.toList →
      IsTight name.toList →
      (∀ c ∈ (before ++ after ++ front ++ back).toList, isWhiteSpace c = true) →
      metricOfText (before ++ name ++ after ++ "=" ++ front ++ x.text ++ back) = .ok (name, x))
    ∧ (∀ name middle right : String, '=' ∉ name.toList →
      metricOfText (name ++ "=" ++ middle ++ "=" ++ right) = .error (.badValue name .invalid)) := by
  refine ⟨fun _ _ _ => metricOfText_eq_ok_iff, fun _ => metricOfText_eq_noValue_iff,
    fun _ _ _ => metricOfText_eq_badValue_iff, ?_, ?_⟩
  · intro x name before after front back hequals htight hpad
    exact metricOfText_of_written hequals htight hpad x
  · intro name middle right hname
    exact metricOfText_of_second hname

/-- The white space here is a no-break space, an ideographic space, a tab and a line feed. -/
theorem metricOfText_inverse_padded :
    metricOfText ("\u00a0" ++ "gap" ++ "\u3000" ++ "=" ++ "\t" ++ (Binary64.infinity true).text
        ++ "\n") = .ok ("gap", .infinity true)
      ∧ metricOfText ("gap" ++ "=" ++ "1" ++ "=" ++ "2") = .error (.badValue "gap" .invalid) := by
  obtain ⟨-, -, -, hwritten, hsecond⟩ := metricOfText_inverse
  constructor
  · refine hwritten _ "gap" "\u00a0" "\u3000" "\t" "\n" (by decide) ?_ (List.all_eq_true.mp rfl)
    constructor
    · rintro c ⟨⟩
      rfl
    · rintro c ⟨⟩
      rfl
  · exact hsecond "gap" "1" "2" (by decide)

end Command

end LayoutLang
