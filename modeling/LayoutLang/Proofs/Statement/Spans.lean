import LayoutLang.Proofs.Compile
import LayoutLang.Proofs.Statement.Written

/-!
# The spans of a statement

A statement keeps the places of its names and numbers, and these come in the order in which they
were written: none of them is empty, and each starts where the one before it has ended or later.
The tokens of a text ascend (`Token.ascending_of_tokenize`), and each rule of the grammar makes of
the spans of its tokens those of its part, without leaving the place that the tokens take
(`ascending_of_isStatement`).  A sign, a star and a relation are left out on the way, a dotted name
is cut in two, and a minus sign is joined with its number.

Together with `Statement.Written` and `Statement.PlainSlots` this is what a caller may rely on who
cuts the text at a span (`spans_of_ofText`).
-/

namespace LayoutLang

open LayoutLang.Span (Ascending)
open Text (byteLength)
open Token (Placed ReadFrom Spells)

/-- The spans of the factor, the object and the attribute of a term, as far as they are there. -/
def Term.spans (t : Term) : List Span :=
  (t.multiplier.map Operand.span).toList ++ t.object.span :: (t.part.map Name.span).toList

def RightSide.spans : RightSide → List Span
  | .term t => t.spans
  | .value o => [o.span]

/-- The spans of a statement, in the order of its text. -/
def Statement.spans (s : Statement) : List Span :=
  s.first.spans ++ (s.second.spans
    ++ ((s.constant.map fun a => a.operand.span).toList ++ (s.priority.map Operand.span).toList))

theorem Token.ascending_of_tokenize {text : String} {ts : List Placed}
    (h : tokenize text = .ok ts) :
    Ascending 0 (ts.map Placed.span) (byteLength text.toList) := by
  have hscan := (scanned_scan text).ascending
  rw [Outcome.mapM_id_eq_ok.mp h, List.map_map, Nat.zero_add] at hscan
  exact hscan

/-- A name is not empty. -/
theorem Name.Written.start_lt_stop {text : List Char} {n : Name} (h : n.Written text) :
    n.span.start < n.span.stop := by
  obtain ⟨c, rest, htext, -⟩ := h.identifier.head
  have hpos := Text.byteLength_pos (htext ▸ List.cons_ne_nil c rest)
  rw [h.selects.stop_eq]
  omega

namespace Statement

variable {text : List Char} {tokens : List Placed} {lo mid hi : Nat}

/-! ## Rule by rule -/

theorem ascending_of_isOperand {o : Operand} (h : IsOperand tokens o)
    (htokens : Ascending lo (tokens.map Placed.span) hi) : Ascending lo [o.span] hi := by
  cases h with
  | number x span => exact htokens
  | name n span => exact htokens

/-- A dotted name leaves out its point. -/
theorem ascending_of_isObject {m : Option Operand} {t : Term} (h : IsObject m tokens t)
    (hread : ReadFrom text tokens) (hm : Ascending lo (m.map Operand.span).toList mid)
    (htokens : Ascending mid (tokens.map Placed.span) hi) : Ascending lo t.spans hi := by
  cases h with
  | whole n span => exact hm.append htokens
  | dotted owner member span =>
      obtain ⟨w, hspan, hw⟩ := hread.piece _ List.mem_cons_self
      obtain ⟨howner, hmember⟩ := Name.written_of_spells_dotted hw hspan
      exact hm.append (htokens.cut howner.start_lt_stop (Nat.le_succ _) hmember.start_lt_stop)

theorem ascending_of_isTerm {t : Term} (h : IsTerm tokens t) (hread : ReadFrom text tokens)
    (htokens : Ascending lo (tokens.map Placed.span) hi) : Ascending lo t.spans hi := by
  cases h with
  | plain hobject => exact ascending_of_isObject hobject hread (.nil (Nat.le_refl lo)) htokens
  | scaled star hm hobject =>
      rw [List.map_append] at htokens
      obtain ⟨mid, hms, hos⟩ := htokens.exists_mid
      exact ascending_of_isObject hobject hread.right.tail (ascending_of_isOperand hm hms) hos.tail

/-- A number that a minus sign stands before starts where the sign does. -/
theorem ascending_of_isValue {v : Operand} (h : IsValue tokens v)
    (htokens : Ascending lo (tokens.map Placed.span) hi) : Ascending lo [v.span] hi := by
  cases h with
  | number x span => exact htokens
  | name n span => exact htokens
  | negated x sign span => exact htokens.join

theorem ascending_of_isRightSide {rs : RightSide} (h : IsRightSide tokens rs)
    (hread : ReadFrom text tokens) (htokens : Ascending lo (tokens.map Placed.span) hi) :
    Ascending lo rs.spans hi := by
  cases h with
  | dotted hobject => exact ascending_of_isObject hobject hread (.nil (Nat.le_refl lo)) htokens
  | value hvalue => exact ascending_of_isValue hvalue htokens
  | scaled star hvalue hobject =>
      rw [List.map_append] at htokens
      obtain ⟨mid, hvs, hos⟩ := htokens.exists_mid
      exact ascending_of_isObject hobject hread.right.tail (ascending_of_isValue hvalue hvs) hos.tail

theorem ascending_of_isAddend {constant : Option Addend} (h : IsAddend tokens constant)
    (htokens : Ascending lo (tokens.map Placed.span) hi) :
    Ascending lo (constant.map fun a => a.operand.span).toList hi := by
  cases h with
  | none => exact htokens
  | plus sign ho => exact ascending_of_isOperand ho htokens.tail
  | minus sign ho => exact ascending_of_isOperand ho htokens.tail

theorem ascending_of_isPriority {priority : Option Operand} (h : IsPriority tokens priority)
    (htokens : Ascending lo (tokens.map Placed.span) hi) :
    Ascending lo (priority.map Operand.span).toList hi := by
  cases h with
  | none => exact htokens
  | given sign ho => exact ascending_of_isOperand ho htokens.tail

theorem ascending_of_isStatement {s : Statement} (h : IsStatement tokens s)
    (hread : ReadFrom text tokens) (htokens : Ascending lo (tokens.map Placed.span) hi) :
    Ascending lo s.spans hi := by
  cases h with
  | mk relation span hterm hright haddend hpriority =>
      simp only [List.map_append, List.map_cons] at htokens
      obtain ⟨_, hts, hrest⟩ := htokens.exists_mid
      obtain ⟨_, hrs, hrest⟩ := hrest.tail.exists_mid
      obtain ⟨_, hcs, hps⟩ := hrest.exists_mid
      have hfirst := ascending_of_isTerm hterm hread.left hts
      have hsecond := ascending_of_isRightSide hright hread.right.tail.left hrs
      exact hfirst.append (hsecond.append
        ((ascending_of_isAddend haddend hcs).append (ascending_of_isPriority hpriority hps)))

/-! ## Whole texts -/

/-- The spans of a statement lead back to its text: each selects the name or the number that was
read there, a number with its sign where it may have one, and they are not empty and come one behind
another in the order of the text. -/
theorem spans_of_ofText {text : String} {s : Statement} (h : ofText text = .ok s) :
    s.Written text.toList ∧ s.PlainSlots text.toList
      ∧ (∀ span ∈ s.spans, span.start < span.stop)
      ∧ s.spans.Pairwise fun a b => a.stop ≤ b.start := by
  obtain ⟨tokens, htokens, hs⟩ := ofText_eq_ok.mp h
  have hread := Token.readFrom_of_tokenize htokens
  have hspans := ascending_of_isStatement hs hread (Token.ascending_of_tokenize htokens)
  exact ⟨written_of_isStatement hs hread, plainSlots_of_isStatement hs hread,
    hspans.start_lt_stop, hspans.pairwise⟩

/-- A text with every part that a statement can have, names of more bytes than characters, and a
sign that belongs to a number. -/
def wideText : String := "2*größe.wïdth <= - 3 * b.c + k @ p"

def wideStatement : Statement where
  first := ⟨some (.number (.ofInt 2) ⟨0, 1⟩), ⟨"größe", ⟨2, 9⟩⟩, some ⟨"wïdth", ⟨10, 16⟩⟩⟩
  relation := .lessOrEqual
  second := .term ⟨some (.number (.ofInt (-3)) ⟨20, 23⟩), ⟨"b", ⟨26, 27⟩⟩, some ⟨"c", ⟨28, 29⟩⟩⟩
  constant := some ⟨.plus, .name ⟨"k", ⟨32, 33⟩⟩⟩
  priority := some (.name ⟨"p", ⟨36, 37⟩⟩)

theorem spans_of_ofText_wide :
    ofText wideText = .ok wideStatement
      ∧ wideStatement.spans
        = [⟨0, 1⟩, ⟨2, 9⟩, ⟨10, 16⟩, ⟨20, 23⟩, ⟨26, 27⟩, ⟨28, 29⟩, ⟨32, 33⟩, ⟨36, 37⟩]
      ∧ wideStatement.Written wideText.toList ∧ wideStatement.PlainSlots wideText.toList
      ∧ (∀ span ∈ wideStatement.spans, span.start < span.stop)
      ∧ wideStatement.spans.Pairwise fun a b => a.stop ≤ b.start := by
  have hread : ofText wideText = .ok wideStatement := by decide +kernel
  exact ⟨hread, rfl, spans_of_ofText hread⟩

end Statement

end LayoutLang
