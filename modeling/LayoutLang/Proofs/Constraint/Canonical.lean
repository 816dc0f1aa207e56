import LayoutLang.Constraint.Printer
import LayoutLang.Proofs.Constraint.WellFormed
import LayoutLang.Proofs.Decimal.ReadBack
import LayoutLang.Proofs.Token.Spelling

/-!
# The tokens of a canonical text

The canonical text of a constraint is made of pieces: items, numbers, the relation, and signs with
blanks around them.  For each piece there is a list of tokens next to its text, and a lemma that
puts the piece in front of a text that is read already.  `Constraint.tokens` are the tokens of a
whole constraint, and `Constraint.tokenize_text` says that its text is read as these.
-/

namespace LayoutLang

open Token (IsIdentifier Spells Lexes ends_of_isBlank)

/-! ## Numbers and names -/

namespace Binary64

theorem spells_shortest (rank : Fin rankCount) :
    Spells (shortest rank).positional (.number (.finite false rank)) :=
  .number (Decimal.isNumeral_positional _) (ofText_shortest rank)

/-- A number as tokens: one without sign, and a minus sign in front of it if it is negative. -/
def tokens : Binary64 → List Token
  | .finite true rank => [.minus, .number (.finite false rank)]
  | x => [.number x]

theorem lexes_text {x : Binary64} (hx : x.isFinite = true) {after : List Char} {ts : List Token}
    (hafter : ∀ c ∈ after.head?, Token.isBlank c = true) (h : Lexes after ts) :
    Lexes (x.text.toList ++ after) (x.tokens ++ ts) := by
  obtain ⟨negative, rank, rfl⟩ := isFinite_iff.mp hx
  have hrank := Lexes.token (spells_shortest rank) (ends_of_isBlank hafter _) h
  cases negative with
  | false =>
      rw [text, String.toList_ofList]
      exact hrank
  | true =>
      rw [text, String.toList_ofList]
      show Lexes (['-'] ++ ((shortest rank).positional ++ after)) (_ :: _)
      exact .token .minus trivial hrank

end Binary64

theorem Attribute.isIdentifier_name (a : Attribute) : IsIdentifier a.name.toList := by
  cases a <;> decide +kernel

theorem Relation.spells_text (r : Relation) : Spells r.text.toList (.relation r) := by
  cases r with
  | equal => exact .equal
  | lessOrEqual => exact .lessOrEqual
  | greaterOrEqual => exact .greaterOrEqual

variable {View : Type} [ToString View]

/-- An item as a token: the name of its view, with its attribute behind a point if it has one. -/
def Item.token (i : Item View) : Token :=
  match i.part with
  | .notAnAttribute => .identifier (toString i.view)
  | a => .dotted (toString i.view) a.name

theorem Item.spells_text {i : Item View} (h : IsIdentifier (toString i.view).toList) :
    Spells i.text.toList i.token := by
  have hdotted : ∀ a : Attribute, Spells (toString i.view ++ "." ++ a.name).toList
      (.dotted (toString i.view) a.name) := by
    intro a
    have hspells := Spells.dotted h a.isIdentifier_name
    simpa using hspells
  obtain ⟨view, part⟩ := i
  cases part with
  | notAnAttribute =>
      have hspells := Spells.identifier h
      rwa [String.ofList_toList] at hspells
  | _ => exact hdotted _

namespace Constraint

/-! ## The parts of a constraint -/

/-- The factor and its star, unless it is 1. -/
def multiplierTokens (m : Binary64) : List Token :=
  if m.sameNumber .one then [] else m.tokens ++ [.star]

/-- The constant as an addend, unless it is 0. -/
def constantTokens (x : Binary64) : List Token :=
  if .zero false < x then .plus :: x.tokens
  else if x < .zero false then .minus :: (-x).tokens
  else []

def rightTokens (c : Constraint View) : List Token :=
  match c.secondView with
  | some v =>
    multiplierTokens c.multiplier ++ (Item.mk v c.secondPart).token :: constantTokens c.constant
  | none => c.constant.tokens

/-- The tokens of the canonical text of a constraint. -/
def tokens (c : Constraint View) : List Token :=
  c.first.token :: .relation c.relation :: (c.rightTokens ++ .atSign :: c.priority.tokens)

variable {after : List Char} {ts : List Token}

theorem lexes_multiplierText {m : Binary64} (hm : m.isFinite = true) (h : Lexes after ts) :
    Lexes ((multiplierText m).toList ++ after) (multiplierTokens m ++ ts) := by
  unfold multiplierText multiplierTokens
  split
  · exact h
  · have hstar := Lexes.sign .star (fun _ => trivial) h
    have hall := Binary64.lexes_text hm (by simp [Token.isBlank]) hstar
    simpa using hall

/-- Behind an item stands a blank, with or without a constant. -/
theorem isBlank_head_constantText (x : Binary64)
    (hafter : ∀ c ∈ after.head?, Token.isBlank c = true) :
    ∀ c ∈ ((constantText x).toList ++ after).head?, Token.isBlank c = true := by
  unfold constantText
  split
  · simp [Token.isBlank]
  · split
    · simp [Token.isBlank]
    · exact hafter

theorem lexes_constantText {x : Binary64} (hx : x.isFinite = true)
    (hafter : ∀ c ∈ after.head?, Token.isBlank c = true) (h : Lexes after ts) :
    Lexes ((constantText x).toList ++ after) (constantTokens x ++ ts) := by
  unfold constantText constantTokens
  split
  · have hplus := Lexes.sign .plus (fun _ => trivial) (Binary64.lexes_text hx hafter h)
    simpa using hplus
  · split
    · have hneg : (-x).isFinite = true := (Binary64.isFinite_neg x).trans hx
      have hminus := Lexes.sign .minus (fun _ => trivial) (Binary64.lexes_text hneg hafter h)
      simpa using hminus
    · exact h

theorem lexes_rightText {c : Constraint View} (hm : c.multiplier.isFinite = true)
    (hx : c.constant.isFinite = true) (hname : ∀ v ∈ c.secondView, IsIdentifier (toString v).toList)
    (hafter : ∀ c ∈ after.head?, Token.isBlank c = true) (h : Lexes after ts) :
    Lexes (c.rightText.toList ++ after) (c.rightTokens ++ ts) := by
  unfold rightText rightTokens
  cases hv : c.secondView with
  | some v =>
      have hitem := Lexes.token (Item.spells_text (i := ⟨v, c.secondPart⟩) (hname v hv))
        (ends_of_isBlank (isBlank_head_constantText c.constant hafter) _)
        (lexes_constantText hx hafter h)
      simpa using lexes_multiplierText hm hitem
  | none => exact Binary64.lexes_text hx hafter h

/-- The canonical text of a constraint is read as its tokens. -/
theorem tokenize_text {settings : Settings} {c : Constraint View} (h : c.WellFormed settings) :
    ∃ placed, Token.tokenize c.text = .ok placed ∧ placed.map (·.token) = c.tokens := by
  refine Token.tokenize_of_lexes ?_
  have hpriority : Lexes (c.priority.text.toList ++ []) (c.priority.tokens ++ []) :=
    Binary64.lexes_text h.priority_finite (by simp) .nil
  have hat := Lexes.sign .atSign (fun _ => trivial) hpriority
  have hright := lexes_rightText h.multiplier_finite h.constant_finite h.second_name
    (by simp [Token.isBlank]) hat
  have hrelation : Lexes (c.relation.text.toList ++ ' ' :: _) (.relation c.relation :: _) :=
    .token c.relation.spells_text trivial (.blank rfl hright)
  have hfirst : Lexes (c.first.text.toList ++ ' ' :: _) (c.first.token :: _) :=
    .token (Item.spells_text h.first_name) (ends_of_isBlank (by simp [Token.isBlank]) _)
      (.blank rfl hrelation)
  simpa [text, tokens] using hfirst

end Constraint

end LayoutLang
