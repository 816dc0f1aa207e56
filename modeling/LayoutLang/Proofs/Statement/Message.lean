import LayoutLang.Proofs.Decimal.Literal
import LayoutLang.Statement.Parser
import Mathlib.InformationTheory.Coding.UniquelyDecodable

/-!
# The message of a syntax error can be read back

Two syntax errors with the same message are the same error.

A message cannot be cut at its commas, since one kind has commas in its own text.  It is read from
the left instead.  The offset is a run of digits with a colon behind it.  What follows is a list of
steps, and a step is a kind with the words that attach it to what stands in front of it: the first
kind has none, the others have a comma or `or`, and the kind that was found has `, found`.  No step
starts another (`Step.eq_of_prefix`).  The comma alone does start the words of the kind that was
found, but no kind starts as these go on.  So the steps are a prefix code, and the text of any
number of them is the text of no others (`uniquelyDecodable_of_prefix`).  Without their words, the
steps are the kinds that were expected, in their order, and behind them the one that was found.
-/

namespace LayoutLang

open InformationTheory (UniquelyDecodable)

/-! ## Prefix codes -/

section

variable {α : Type} {S : Set (List α)}

/-- It is seen where a word of a prefix code ends. -/
theorem eq_and_eq_of_prefix (hfree : ∀ w ∈ S, ∀ w' ∈ S, w <+: w' → w = w') {w w' r r' : List α}
    (hw : w ∈ S) (hw' : w' ∈ S) (h : w ++ r = w' ++ r') : w = w' ∧ r = r' := by
  obtain rfl : w = w' := by
    have hleft : w <+: w' ++ r' := h ▸ List.prefix_append w r
    rcases List.prefix_or_prefix_of_prefix hleft (List.prefix_append w' r') with hlt | hgt
    · exact hfree w hw w' hw' hlt
    · exact (hfree w' hw' w hw hgt).symm
  exact ⟨rfl, List.append_cancel_left h⟩

/-- Words of which none is empty and none starts another can be told apart when they are written
one behind the other. -/
theorem uniquelyDecodable_of_prefix (hnil : [] ∉ S)
    (hfree : ∀ w ∈ S, ∀ w' ∈ S, w <+: w' → w = w') : UniquelyDecodable S := by
  have hne : ∀ {w : List α} {ws : List (List α)}, w ∈ S → (w :: ws).flatten ≠ [] := by
    intro w ws hw hflatten
    rw [List.flatten_cons, List.append_eq_nil_iff] at hflatten
    exact hnil (hflatten.1 ▸ hw)
  intro ws
  induction ws with
  | nil =>
      intro ws' _ hws' h
      cases ws' with
      | nil => rfl
      | cons w' ws' => exact absurd h.symm (hne (hws' w' List.mem_cons_self))
  | cons w ws ih =>
      intro ws' hws hws' h
      obtain ⟨hw, hws⟩ := List.forall_mem_cons.mp hws
      cases ws' with
      | nil => exact absurd h (hne hw)
      | cons w' ws' =>
          obtain ⟨hw', htail'⟩ := List.forall_mem_cons.mp hws'
          rw [List.flatten_cons, List.flatten_cons] at h
          obtain ⟨rfl, hrest⟩ := eq_and_eq_of_prefix hfree hw hw' h
          rw [ih ws' hws htail' hrest]

end

namespace Token.Kind

/-- Two kinds differ in their first character, or behind a backquote in the second. -/
theorem eq_of_prefix {k k' : Kind} (h : k.text.toList <+: k'.text.toList) : k = k' := by
  revert h
  cases k <;> cases k' <;> simp [text]

/-- A kind starts with none of the characters with which the words in front of it start, and not as
`found` does. -/
theorem head_text (k : Kind) :
    ∃ c rest, k.text.toList = c :: rest ∧ c ≠ ' ' ∧ c ≠ ',' ∧ c ≠ 'f' := by
  cases k <;> simp [text]

end Token.Kind

namespace SyntaxError

open Token (Kind)

/-! ## The steps of a message -/

/-- How a kind is attached to what stands in front of it. -/
inductive Link where
  | first
  | comma
  | last
  | found

/-- The words of a link. -/
def Link.text : Link → String
  | .first => ""
  | .comma => ", "
  | .last => " or "
  | .found => ", found "

structure Step where
  link : Link
  kind : Kind

def Step.text (s : Step) : List Char := s.link.text.toList ++ s.kind.text.toList

/-- The steps behind the first of the kinds that were expected. -/
def stepsBehind (found : Kind) : List Kind → List Step
  | [] => [⟨.found, found⟩]
  | [k] => [⟨.last, k⟩, ⟨.found, found⟩]
  | k :: rest => ⟨.comma, k⟩ :: stepsBehind found rest

/-- The steps of a message with these kinds. -/
def steps (found : Kind) : List Kind → List Step
  | [] => [⟨.found, found⟩]
  | k :: rest => ⟨.first, k⟩ :: stepsBehind found rest

/-- No step starts another. -/
theorem Step.eq_of_prefix {s s' : Step} (h : s.text <+: s'.text) : s = s' := by
  obtain ⟨l, k⟩ := s
  obtain ⟨l', k'⟩ := s'
  obtain rfl : l = l' := by
    obtain ⟨c, rest, hk, hspace, hcomma, hfound⟩ := k.head_text
    obtain ⟨c', rest', hk', hspace', hcomma', hfound'⟩ := k'.head_text
    rw [text, text, hk, hk'] at h
    cases l <;> cases l' <;>
      simp [Link.text, hspace, hcomma, hfound, hspace'.symm, hcomma'.symm, hfound'.symm] at h ⊢
  rw [text, text, List.prefix_append_right_inj] at h
  exact congrArg (Step.mk l) (Kind.eq_of_prefix h)

theorem Step.text_ne_nil (s : Step) : s.text ≠ [] := by
  obtain ⟨c, rest, hk, -⟩ := s.kind.head_text
  simp [text, hk]

theorem uniquelyDecodable_steps : UniquelyDecodable (Set.range Step.text) := by
  refine uniquelyDecodable_of_prefix ?_ ?_
  · rintro ⟨s, hs⟩
    exact s.text_ne_nil hs
  · rintro _ ⟨s, rfl⟩ _ ⟨s', rfl⟩ h
    rw [Step.eq_of_prefix h]

/-- The text of any number of steps is the text of no others. -/
theorem steps_inj {ss ss' : List Step}
    (h : (ss.map Step.text).flatten = (ss'.map Step.text).flatten) : ss = ss' := by
  have hrange : ∀ (ss : List Step), ∀ w ∈ ss.map Step.text, w ∈ Set.range Step.text := by
    intro ss w hw
    obtain ⟨s, -, rfl⟩ := List.mem_map.mp hw
    exact ⟨s, rfl⟩
  have htexts := uniquelyDecodable_steps _ _ (hrange ss) (hrange ss') h
  refine (List.map_inj_right ?_).mp htexts
  intro s s' hs
  exact Step.eq_of_prefix (hs ▸ List.prefix_rfl)

theorem map_kind_stepsBehind (found : Kind) (ks : List Kind) :
    (stepsBehind found ks).map Step.kind = ks ++ [found] := by
  induction ks with
  | nil => rfl
  | cons k ks ih =>
      cases ks with
      | nil => rfl
      | cons l ks =>
          show k :: (stepsBehind found (l :: ks)).map Step.kind = _
          rw [ih, ← List.cons_append]

theorem map_kind_steps (found : Kind) (ks : List Kind) :
    (steps found ks).map Step.kind = ks ++ [found] := by
  cases ks with
  | nil => rfl
  | cons k ks => rw [steps, List.map_cons, map_kind_stepsBehind, List.cons_append]

/-! ## The message -/

/-- The alternatives, and behind them the kind that was found. -/
def listing (e : SyntaxError) : List Char :=
  (Text.alternatives (e.expected.map Kind.text)).toList ++ Link.found.text.toList
    ++ e.found.text.toList

theorem flatten_stepsBehind (found k : Kind) (ks : List Kind) :
    k.text.toList ++ ((stepsBehind found ks).map Step.text).flatten
      = (Text.alternatives ((k :: ks).map Kind.text)).toList ++ Link.found.text.toList
        ++ found.text.toList := by
  induction ks generalizing k with
  | nil => simp [stepsBehind, Step.text, Text.alternatives]
  | cons l ks ih =>
      cases ks with
      | nil => simp [stepsBehind, Step.text, Text.alternatives, Link.text]
      | cons m ks =>
          have hrest := ih l
          simp only [List.map_cons] at hrest
          simp [stepsBehind, Step.text, Text.alternatives, Link.text, hrest]

theorem flatten_steps (e : SyntaxError) :
    ((steps e.found e.expected).map Step.text).flatten = e.listing := by
  obtain ⟨position, expected, found⟩ := e
  cases expected with
  | nil => simp [steps, Step.text, listing, Text.alternatives]
  | cons k ks =>
      rw [listing, ← flatten_stepsBehind]
      rfl

theorem toList_message (e : SyntaxError) :
    e.message.toList = "syntax error at offset ".toList
      ++ (Nat.toDigits 10 e.position ++ ':' :: (" expecting ".toList ++ e.listing)) := by
  unfold message
  simp [listing, Link.text]

/-- The offset is read up to the colon. -/
theorem toDigits_append_inj {n n' : Nat} {r r' : List Char}
    (h : Nat.toDigits 10 n ++ ':' :: r = Nat.toDigits 10 n' ++ ':' :: r') : n = n' ∧ r = r' := by
  have hdigits : ∀ n : Nat, ∀ c ∈ Nat.toDigits 10 n, c.isDigit = true := fun n c =>
    Nat.isDigit_of_mem_toDigits (by decide) (by decide)
  have hcolon : ∀ r : List Char, ∀ c ∈ (':' :: r).head?, c.isDigit = false := by
    rintro r c ⟨⟩
    rfl
  obtain ⟨hoffset, hrest⟩ :=
    Text.run_append_inj (hdigits n) (hdigits n') (hcolon r) (hcolon r') h
  have hvalue := congrArg (Nat.ofDigitChars 10 · 0) hoffset
  simp only [Nat.ofDigitChars_ten_toDigits] at hvalue
  exact ⟨hvalue, (List.cons.inj hrest).2⟩

/-- A syntax error is determined by its message. -/
theorem message_inj {e e' : SyntaxError} : e.message = e'.message ↔ e = e' := by
  constructor
  · intro h
    have hchars := congrArg String.toList h
    rw [toList_message, toList_message] at hchars
    obtain ⟨hposition, hrest⟩ := toDigits_append_inj (List.append_cancel_left hchars)
    have hlisting : e.listing = e'.listing := List.append_cancel_left hrest
    rw [← flatten_steps, ← flatten_steps] at hlisting
    have hkinds := congrArg (List.map Step.kind) (steps_inj hlisting)
    rw [map_kind_steps, map_kind_steps] at hkinds
    obtain ⟨hexpected, hfound⟩ := List.append_inj' hkinds rfl
    obtain ⟨position, expected, found⟩ := e
    obtain ⟨position', expected', found'⟩ := e'
    rw [SyntaxError.mk.injEq]
    exact ⟨hposition, hexpected, List.singleton_inj.mp hfound⟩
  · rintro rfl
    rfl

end SyntaxError

end LayoutLang
