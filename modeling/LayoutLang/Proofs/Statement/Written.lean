import LayoutLang.Proofs.Statement.Grammar
import LayoutLang.Proofs.Token.Piece

/-!
# The names and numbers of a statement stand in its text

Every name and every number of a statement keeps a span.  `Statement.Written` says that the spans
are right: a name is what its span selects, and a number is the value of the literal that its span
selects, where a minus sign that belongs to the number is selected with it.  This holds of every
statement whose tokens were read from the text (`written_of_isStatement`), because each rule of the
grammar takes its tokens in one run.
-/

namespace LayoutLang

open Text (byteLength)
open Token (IsIdentifier Placed ReadFrom Spells isBlank)

/-! ## What is written where -/

/-- What is written for a number: a literal, or a literal behind a minus sign, perhaps with blanks
between them. -/
inductive IsLiteral : List Char → Binary64 → Prop
  | plain {w : List Char} {x : Binary64} : Spells w (.number x) → IsLiteral w x
  | negated {gap w : List Char} {x : Binary64} : (∀ c ∈ gap, isBlank c = true) →
      Spells w (.number x) → IsLiteral ('-' :: (gap ++ w)) (-x)

/-- A name is an identifier, and is what its span selects. -/
structure Name.Written (text : List Char) (n : Name) : Prop where
  selects : n.span.Selects text n.text.toList
  identifier : IsIdentifier n.text.toList

/-- The span of a number selects what is written for it. -/
def Operand.Written (text : List Char) : Operand → Prop
  | .number x span => ∃ w, span.Selects text w ∧ IsLiteral w x
  | .name n => n.Written text

/-- The span of a number selects a literal and no sign. -/
def Operand.Plain (text : List Char) : Operand → Prop
  | .number x span => ∃ w, span.Selects text w ∧ Spells w (.number x)
  | .name n => n.Written text

structure Term.Written (text : List Char) (t : Term) : Prop where
  multiplier : ∀ o ∈ t.multiplier, o.Written text
  object : t.object.Written text
  part : ∀ n ∈ t.part, n.Written text

def RightSide.Written (text : List Char) : RightSide → Prop
  | .term t => t.Written text
  | .value o => o.Written text

structure Statement.Written (text : List Char) (s : Statement) : Prop where
  first : s.first.Written text
  second : s.second.Written text
  constant : ∀ a ∈ s.constant, a.operand.Written text
  priority : ∀ o ∈ s.priority, o.Written text

/-- Wherever a minus sign could not belong to a number, none does: everywhere but at the start of the
right side. -/
structure Statement.PlainSlots (text : List Char) (s : Statement) : Prop where
  factor : ∀ o ∈ s.first.multiplier, o.Plain text
  constant : ∀ a ∈ s.constant, a.operand.Plain text
  priority : ∀ o ∈ s.priority, o.Plain text

variable {text : List Char} {span : Span}

theorem Operand.Plain.written {o : Operand} (h : o.Plain text) : o.Written text := by
  cases o with
  | number x span =>
      obtain ⟨w, hspan, hw⟩ := h
      exact ⟨w, hspan, .plain hw⟩
  | name n => exact h

/-! ## Names in tokens -/

theorem Name.written_of_spells {w : List Char} {n : String} (h : Spells w (.identifier n))
    (hspan : span.Selects text w) : Name.Written text ⟨n, span⟩ := by
  cases h with
  | identifier hw =>
      refine ⟨?_, ?_⟩
      · rwa [String.toList_ofList]
      · rwa [String.toList_ofList]

/-- A dotted name is cut at its point, which belongs to neither part. -/
theorem Name.written_of_spells_dotted {w : List Char} {owner member : String}
    (h : Spells w (.dotted owner member)) (hspan : span.Selects text w) :
    Name.Written text ⟨owner, ⟨span.start, span.start + byteLength owner.toList⟩⟩
      ∧ Name.Written text
        ⟨member, ⟨span.start + byteLength owner.toList + 1, span.stop⟩⟩ := by
  cases h with
  | @dotted owner member howner hmember =>
      have hpoint : ('.' : Char).utf8Size = 1 := rfl
      have howner' : Span.Selects ⟨span.start + byteLength [],
          span.start + byteLength [] + byteLength owner⟩ text owner := hspan.middle
      have hmember' : Span.Selects ⟨span.start + byteLength (owner ++ ['.']),
          span.start + byteLength (owner ++ ['.']) + byteLength member⟩ text member := by
        refine Span.Selects.middle (w := []) ?_
        simpa using hspan
      have hstop : span.stop = span.start + byteLength (owner ++ ['.']) + byteLength member := by
        rw [hspan.stop_eq]
        simp only [Text.byteLength_append, Text.byteLength_cons, Text.byteLength_nil]
        omega
      rw [← hstop] at hmember'
      simp only [Text.byteLength_append, Text.byteLength_cons, Text.byteLength_nil, hpoint,
        Nat.add_zero, ← Nat.add_assoc] at howner' hmember'
      refine ⟨⟨?_, ?_⟩, ⟨?_, ?_⟩⟩
      · rwa [String.toList_ofList]
      · rwa [String.toList_ofList]
      · rwa [String.toList_ofList, String.toList_ofList]
      · rwa [String.toList_ofList]

namespace Statement

/-! ## Rule by rule -/

variable {tokens : List Placed}

theorem plain_of_isOperand {o : Operand} (h : IsOperand tokens o)
    (htokens : ReadFrom text tokens) : o.Plain text := by
  cases h with
  | number x span => exact htokens.piece _ List.mem_cons_self
  | name n span =>
      obtain ⟨w, hspan, hw⟩ := htokens.piece _ List.mem_cons_self
      exact Name.written_of_spells hw hspan

theorem written_of_isOperand {o : Operand} (h : IsOperand tokens o)
    (htokens : ReadFrom text tokens) : o.Written text := (plain_of_isOperand h htokens).written

theorem written_of_isObject {m : Option Operand} {t : Term} (h : IsObject m tokens t)
    (htokens : ReadFrom text tokens) (hm : ∀ o ∈ m, o.Written text) : t.Written text := by
  cases h with
  | whole n span =>
      obtain ⟨w, hspan, hw⟩ := htokens.piece _ List.mem_cons_self
      exact ⟨hm, Name.written_of_spells hw hspan, by simp⟩
  | dotted owner member span =>
      obtain ⟨w, hspan, hw⟩ := htokens.piece _ List.mem_cons_self
      obtain ⟨howner, hmember⟩ := Name.written_of_spells_dotted hw hspan
      exact ⟨hm, howner, by simpa using hmember⟩

/-- No minus sign belongs to a factor on the left. -/
theorem plain_of_isTerm {t : Term} (h : IsTerm tokens t) (htokens : ReadFrom text tokens) :
    ∀ o ∈ t.multiplier, o.Plain text := by
  cases h with
  | plain hobject => cases hobject <;> simp
  | scaled star hm hobject =>
      have hfactor := plain_of_isOperand hm htokens.left
      cases hobject <;> simpa using hfactor

theorem written_of_isTerm {t : Term} (h : IsTerm tokens t) (htokens : ReadFrom text tokens) :
    t.Written text := by
  cases h with
  | plain hobject => exact written_of_isObject hobject htokens (by simp)
  | scaled star hm hobject =>
      have hfactor := written_of_isOperand hm htokens.left
      exact written_of_isObject hobject htokens.right.tail (by simpa using hfactor)

/-- A minus sign in front of a number is selected with the number and what is between them. -/
theorem written_of_isValue {v : Operand} (h : IsValue tokens v) (htokens : ReadFrom text tokens) :
    v.Written text := by
  cases h with
  | number x span => exact written_of_isOperand (.number x span) htokens
  | name n span => exact written_of_isOperand (.name n span) htokens
  | negated x sign span =>
      obtain ⟨w, gap, w', hspan, hgap, hw, hw'⟩ := htokens.neighbours _ _ List.infix_rfl
      cases hw
      exact ⟨'-' :: (gap ++ w'), hspan, .negated hgap hw'⟩

theorem written_of_isRightSide {rs : RightSide} (h : IsRightSide tokens rs)
    (htokens : ReadFrom text tokens) : rs.Written text := by
  cases h with
  | dotted hobject => exact written_of_isObject hobject htokens (by simp)
  | value hvalue => exact written_of_isValue hvalue htokens
  | scaled star hvalue hobject =>
      have hfactor := written_of_isValue hvalue htokens.left
      exact written_of_isObject hobject htokens.right.tail (by simpa using hfactor)

theorem plain_of_isAddend {constant : Option Addend} (h : IsAddend tokens constant)
    (htokens : ReadFrom text tokens) : ∀ a ∈ constant, a.operand.Plain text := by
  cases h with
  | none => simp
  | plus sign ho =>
      simpa using plain_of_isOperand ho htokens.tail
  | minus sign ho =>
      simpa using plain_of_isOperand ho htokens.tail

theorem plain_of_isPriority {priority : Option Operand} (h : IsPriority tokens priority)
    (htokens : ReadFrom text tokens) : ∀ o ∈ priority, o.Plain text := by
  cases h with
  | none => simp
  | given sign ho =>
      simpa using plain_of_isOperand ho htokens.tail

theorem plainSlots_of_isStatement {s : Statement} (h : IsStatement tokens s)
    (htokens : ReadFrom text tokens) : s.PlainSlots text := by
  cases h with
  | mk relation span hterm hright haddend hpriority =>
      exact
        { factor := plain_of_isTerm hterm htokens.left
          constant := plain_of_isAddend haddend htokens.right.tail.right.left
          priority := plain_of_isPriority hpriority htokens.right.tail.right.right }

theorem written_of_isStatement {s : Statement} (h : IsStatement tokens s)
    (htokens : ReadFrom text tokens) : s.Written text := by
  have hplain := plainSlots_of_isStatement h htokens
  cases h with
  | mk relation span hterm hright haddend hpriority =>
      exact
        { first := written_of_isTerm hterm htokens.left
          second := written_of_isRightSide hright htokens.right.tail.left
          constant := fun a ha => (hplain.constant a ha).written
          priority := fun o ho => (hplain.priority o ho).written }

end Statement

end LayoutLang
