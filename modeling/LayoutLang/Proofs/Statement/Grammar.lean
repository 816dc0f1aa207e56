import LayoutLang.Proofs.Outcome
import LayoutLang.Statement.Parser

/-!
# The grammar of statements, and the reader against it

Each nonterminal of the grammar is a relation between a list of tokens and the part of a statement
that they are, with one constructor for each of its right-hand sides:

    statement  :=  term relation rightSide addend? priority?
    term       :=  (operand `*`)? object
    rightSide  :=  dotted  |  value (`*` object)?
    value      :=  number  |  `-` number  |  identifier
    addend     :=  (`+` | `-`) operand
    priority   :=  `@` operand
    operand    :=  number  |  identifier
    object     :=  identifier  |  dotted

A derivation lays the tokens of its parts end to end, so that it uses every token of the list once
and in order.  The relations know nothing of lookahead or of errors.

The main statement is that the reader accepts a list of tokens with a tree exactly if the list
derives the tree, and that no list derives two trees.  One direction holds reader by reader: what
was taken off the front of the list derives what was read.  The other says that a reader takes
exactly the tokens of a derivation, whatever follows them, as long as it could not go on; only the
kind of the next token matters for that.
-/

namespace LayoutLang.Statement

open Token (Placed)

/-! ## The grammar -/

inductive IsOperand : List Placed → Operand → Prop
  | number (x : Binary64) (span : Span) : IsOperand [⟨.number x, span⟩] (.number x span)
  | name (n : String) (span : Span) : IsOperand [⟨.identifier n, span⟩] (.name ⟨n, span⟩)

/-- An object, in a term with the given factor.  A dotted name is an object and its attribute; the
span of each is its part of the token. -/
inductive IsObject (multiplier : Option Operand) : List Placed → Term → Prop
  | whole (n : String) (span : Span) :
      IsObject multiplier [⟨.identifier n, span⟩] ⟨multiplier, ⟨n, span⟩, none⟩
  | dotted (owner member : String) (span : Span) :
      IsObject multiplier [⟨.dotted owner member, span⟩]
        ⟨multiplier,
          ⟨owner, ⟨span.start, span.start + Text.byteLength owner.toList⟩⟩,
          some ⟨member, ⟨span.start + Text.byteLength owner.toList + 1, span.stop⟩⟩⟩

inductive IsTerm : List Placed → Term → Prop
  | plain {os : List Placed} {t : Term} : IsObject none os t → IsTerm os t
  | scaled {ms os : List Placed} {m : Operand} {t : Term} (star : Span) :
      IsOperand ms m → IsObject (some m) os t → IsTerm (ms ++ ⟨.star, star⟩ :: os) t

/-- A number, a number that a minus sign stands before, or a name.  The minus sign belongs to the
number: the value is the negated one, and the span reaches from the sign to the last digit. -/
inductive IsValue : List Placed → Operand → Prop
  | number (x : Binary64) (span : Span) : IsValue [⟨.number x, span⟩] (.number x span)
  | negated (x : Binary64) (sign span : Span) :
      IsValue [⟨.minus, sign⟩, ⟨.number x, span⟩] (.number (-x) ⟨sign.start, span.stop⟩)
  | name (n : String) (span : Span) : IsValue [⟨.identifier n, span⟩] (.name ⟨n, span⟩)

/-- A right side.  Only a number or a name that no star follows is a value. -/
inductive IsRightSide : List Placed → RightSide → Prop
  | dotted {owner member : String} {span : Span} {t : Term} :
      IsObject none [⟨.dotted owner member, span⟩] t →
      IsRightSide [⟨.dotted owner member, span⟩] (.term t)
  | value {vs : List Placed} {v : Operand} : IsValue vs v → IsRightSide vs (.value v)
  | scaled {vs os : List Placed} {v : Operand} {t : Term} (star : Span) :
      IsValue vs v → IsObject (some v) os t →
      IsRightSide (vs ++ ⟨.star, star⟩ :: os) (.term t)

inductive IsAddend : List Placed → Option Addend → Prop
  | none : IsAddend [] none
  | plus {os : List Placed} {o : Operand} (sign : Span) :
      IsOperand os o → IsAddend (⟨.plus, sign⟩ :: os) (some ⟨.plus, o⟩)
  | minus {os : List Placed} {o : Operand} (sign : Span) :
      IsOperand os o → IsAddend (⟨.minus, sign⟩ :: os) (some ⟨.minus, o⟩)

inductive IsPriority : List Placed → Option Operand → Prop
  | none : IsPriority [] none
  | given {os : List Placed} {o : Operand} (sign : Span) :
      IsOperand os o → IsPriority (⟨.atSign, sign⟩ :: os) (some o)

inductive IsStatement : List Placed → Statement → Prop
  | mk {ts rs cs ps : List Placed} {first : Term} {second : RightSide}
      {constant : Option Addend} {priority : Option Operand} (relation : Relation) (span : Span) :
      IsTerm ts first → IsRightSide rs second → IsAddend cs constant → IsPriority ps priority →
      IsStatement (ts ++ ⟨.relation relation, span⟩ :: (rs ++ (cs ++ ps)))
        ⟨first, relation, second, constant, priority⟩

/-! ## What was read is derived

A reader leaves the end of its list; what it took from the front derives what it gives back. -/

theorem isOperand_of_readOperand {tokens rest : List Placed} {o : Operand}
    (h : readOperand tokens = .ok (o, rest)) :
    ∃ used, tokens = used ++ rest ∧ IsOperand used o := by
  unfold readOperand at h
  split at h
  · next x span rest' =>
    cases h
    exact ⟨_, rfl, .number x span⟩
  · next n span rest' =>
    cases h
    exact ⟨_, rfl, .name n span⟩
  · cases h

theorem isObject_of_readObject {multiplier : Option Operand} {tokens rest : List Placed}
    {t : Term} (h : readObject multiplier tokens = .ok (t, rest)) :
    ∃ used, tokens = used ++ rest ∧ IsObject multiplier used t := by
  unfold readObject at h
  split at h
  · next n span rest' =>
    cases h
    exact ⟨_, rfl, .whole n span⟩
  · next owner member span rest' =>
    cases h
    exact ⟨_, rfl, .dotted owner member span⟩
  · cases h

theorem isTerm_of_readTerm {tokens rest : List Placed} {t : Term}
    (h : readTerm tokens = .ok (t, rest)) : ∃ used, tokens = used ++ rest ∧ IsTerm used t := by
  unfold readTerm at h
  split at h
  · next x span star rest' =>
    obtain ⟨os, rfl, ho⟩ := isObject_of_readObject h
    exact ⟨_, rfl, .scaled star (.number x span) ho⟩
  · cases h
  · next n span star rest' =>
    obtain ⟨os, rfl, ho⟩ := isObject_of_readObject h
    exact ⟨_, rfl, .scaled star (.name n span) ho⟩
  · obtain ⟨os, rfl, ho⟩ := isObject_of_readObject h
    exact ⟨os, rfl, .plain ho⟩

theorem readRelation_eq_ok {tokens rest : List Placed} {r : Relation}
    (h : readRelation tokens = .ok (r, rest)) :
    ∃ span, tokens = ⟨.relation r, span⟩ :: rest := by
  unfold readRelation at h
  split at h
  · next r' span rest' =>
    cases h
    exact ⟨span, rfl⟩
  · cases h

/-- `readScaled` is called when the tokens `vs` of a value have been taken off already. -/
theorem isRightSide_of_readScaled {vs tokens rest : List Placed} {v : Operand} {s : RightSide}
    (hv : IsValue vs v) (h : readScaled v tokens = .ok (s, rest)) :
    ∃ used, vs ++ tokens = used ++ rest ∧ IsRightSide used s := by
  unfold readScaled at h
  split at h
  · next star rest' =>
    obtain ⟨⟨t, rest''⟩, hread, hpair⟩ := Outcome.map_eq_ok.mp h
    cases hpair
    obtain ⟨os, rfl, ho⟩ := isObject_of_readObject hread
    exact ⟨vs ++ ⟨.star, star⟩ :: os, by simp, .scaled star hv ho⟩
  · cases h
    exact ⟨vs, rfl, .value hv⟩

theorem isRightSide_of_readRightSide {tokens rest : List Placed} {s : RightSide}
    (h : readRightSide tokens = .ok (s, rest)) :
    ∃ used, tokens = used ++ rest ∧ IsRightSide used s := by
  unfold readRightSide at h
  split at h
  · next sign x span rest' => exact isRightSide_of_readScaled (.negated x sign span) h
  · cases h
  · next x span rest' => exact isRightSide_of_readScaled (.number x span) h
  · next n span rest' => exact isRightSide_of_readScaled (.name n span) h
  · next owner member span rest' =>
    cases h
    exact ⟨_, rfl, .dotted (.dotted owner member span)⟩
  · cases h

theorem isAddend_of_readAddend {tokens rest : List Placed} {c : Option Addend}
    (h : readAddend tokens = .ok (c, rest)) : ∃ used, tokens = used ++ rest ∧ IsAddend used c := by
  unfold readAddend at h
  split at h
  · next sign rest' =>
    obtain ⟨⟨o, rest''⟩, hread, hpair⟩ := Outcome.map_eq_ok.mp h
    cases hpair
    obtain ⟨os, rfl, ho⟩ := isOperand_of_readOperand hread
    exact ⟨_, rfl, .plus sign ho⟩
  · next sign rest' =>
    obtain ⟨⟨o, rest''⟩, hread, hpair⟩ := Outcome.map_eq_ok.mp h
    cases hpair
    obtain ⟨os, rfl, ho⟩ := isOperand_of_readOperand hread
    exact ⟨_, rfl, .minus sign ho⟩
  · cases h
    exact ⟨[], rfl, .none⟩

theorem isPriority_of_readPriority {tokens rest : List Placed} {p : Option Operand}
    (h : readPriority tokens = .ok (p, rest)) :
    ∃ used, tokens = used ++ rest ∧ IsPriority used p := by
  unfold readPriority at h
  split at h
  · next sign rest' =>
    obtain ⟨⟨o, rest''⟩, hread, hpair⟩ := Outcome.map_eq_ok.mp h
    cases hpair
    obtain ⟨os, rfl, ho⟩ := isOperand_of_readOperand hread
    exact ⟨_, rfl, .given sign ho⟩
  · cases h
    exact ⟨[], rfl, .none⟩

/-- Soundness of the whole reader: the parts lie end to end and nothing is left. -/
theorem isStatement_of_read {tokens : List Placed} {s : Statement} (h : read tokens = .ok s) :
    IsStatement tokens s := by
  obtain ⟨⟨first, rest₁⟩, hfirst, h₁⟩ := Outcome.bind_eq_ok.mp h
  obtain ⟨⟨relation, rest₂⟩, hrelation, h₂⟩ := Outcome.bind_eq_ok.mp h₁
  obtain ⟨⟨second, rest₃⟩, hsecond, h₃⟩ := Outcome.bind_eq_ok.mp h₂
  obtain ⟨⟨constant, rest₄⟩, hconstant, h₄⟩ := Outcome.bind_eq_ok.mp h₃
  obtain ⟨⟨priority, rest₅⟩, hpriority, hend⟩ := Outcome.bind_eq_ok.mp h₄
  obtain ⟨ts, rfl, ht⟩ := isTerm_of_readTerm hfirst
  obtain ⟨span, rfl⟩ := readRelation_eq_ok hrelation
  obtain ⟨rs, rfl, hr⟩ := isRightSide_of_readRightSide hsecond
  obtain ⟨cs, rfl, hc⟩ := isAddend_of_readAddend hconstant
  obtain ⟨ps, rfl, hp⟩ := isPriority_of_readPriority hpriority
  cases rest₅ with
  | nil =>
      cases hend
      rw [List.append_nil]
      exact .mk relation span ht hr hc hp
  | cons t rest => cases hend

/-! ## What is derived is read

The readers look at the next token only to see whether they have to go on, so it is enough to know
that its kind is not one that they would go on with. -/

/-- The kind of the next token; that of the end if there is none. -/
def nextKind : List Placed → Token.Kind
  | [] => .endOfInput
  | t :: _ => t.token.kind

theorem readOperand_append {used : List Placed} {o : Operand} (h : IsOperand used o)
    (rest : List Placed) : readOperand (used ++ rest) = .ok (o, rest) := by
  cases h <;> rfl

theorem readObject_append {multiplier : Option Operand} {used : List Placed} {t : Term}
    (h : IsObject multiplier used t) (rest : List Placed) :
    readObject multiplier (used ++ rest) = .ok (t, rest) := by
  cases h <;> rfl

/-- A name that no star follows is no factor. -/
theorem readTerm_identifier {n : String} {span : Span} {rest : List Placed}
    (hrest : nextKind rest ≠ .star) :
    readTerm (⟨.identifier n, span⟩ :: rest) = .ok (⟨none, ⟨n, span⟩, none⟩, rest) := by
  match rest with
  | [] => rfl
  | ⟨token, _⟩ :: _ =>
      cases token with
      | star => exact absurd rfl hrest
      | _ => rfl

theorem readTerm_append {used : List Placed} {t : Term} (h : IsTerm used t) {rest : List Placed}
    (hrest : nextKind rest ≠ .star) : readTerm (used ++ rest) = .ok (t, rest) := by
  cases h with
  | plain ho =>
      cases ho with
      | whole n span => exact readTerm_identifier hrest
      | dotted owner member span => rfl
  | scaled star hm ho =>
      rw [List.append_assoc]
      cases hm with
      | number x span => exact readObject_append ho rest
      | name n span => exact readObject_append ho rest

theorem readScaled_of_ne_star (v : Operand) {rest : List Placed} (hrest : nextKind rest ≠ .star) :
    readScaled v rest = .ok (.value v, rest) := by
  match rest with
  | [] => rfl
  | ⟨token, _⟩ :: _ =>
      cases token with
      | star => exact absurd rfl hrest
      | _ => rfl

/-- Behind the tokens of a value the right side is read on as the part after a value. -/
theorem readRightSide_value_append {vs : List Placed} {v : Operand} (h : IsValue vs v)
    (rest : List Placed) : readRightSide (vs ++ rest) = readScaled v rest := by
  cases h <;> rfl

theorem readRightSide_append {used : List Placed} {s : RightSide} (h : IsRightSide used s)
    {rest : List Placed} (hrest : nextKind rest ≠ .star) :
    readRightSide (used ++ rest) = .ok (s, rest) := by
  cases h with
  | dotted ho => cases ho; rfl
  | value hv => rw [readRightSide_value_append hv, readScaled_of_ne_star _ hrest]
  | scaled star hv ho =>
      rw [List.append_assoc, readRightSide_value_append hv]
      show (readObject _ (_ ++ rest)).map _ = _
      rw [readObject_append ho]
      rfl

theorem readAddend_append {used : List Placed} {c : Option Addend} (h : IsAddend used c)
    {rest : List Placed} (hplus : nextKind rest ≠ .plus) (hminus : nextKind rest ≠ .minus) :
    readAddend (used ++ rest) = .ok (c, rest) := by
  cases h with
  | none =>
      match rest with
      | [] => rfl
      | ⟨token, _⟩ :: _ =>
          cases token with
          | plus => exact absurd rfl hplus
          | minus => exact absurd rfl hminus
          | _ => rfl
  | plus sign ho =>
      show (readOperand (_ ++ rest)).map _ = _
      rw [readOperand_append ho]
      rfl
  | minus sign ho =>
      show (readOperand (_ ++ rest)).map _ = _
      rw [readOperand_append ho]
      rfl

/-- Nothing follows a priority, so it is read at the end of the list only. -/
theorem readPriority_eq {used : List Placed} {p : Option Operand} (h : IsPriority used p) :
    readPriority used = .ok (p, []) := by
  cases h with
  | none => rfl
  | @given os _ sign ho =>
      show (readOperand os).map _ = _
      rw [← List.append_nil os, readOperand_append ho]
      rfl

/-- What may follow a right side does not start with a star. -/
theorem nextKind_addend_ne_star {cs ps : List Placed} {c : Option Addend} {p : Option Operand}
    (hc : IsAddend cs c) (hp : IsPriority ps p) : nextKind (cs ++ ps) ≠ .star := by
  cases hc with
  | none => cases hp <;> simp [nextKind, Token.kind]
  | plus _ _ => simp [nextKind, Token.kind]
  | minus _ _ => simp [nextKind, Token.kind]

theorem nextKind_priority {ps : List Placed} {p : Option Operand} (hp : IsPriority ps p) :
    nextKind ps = .atSign ∨ nextKind ps = .endOfInput := by
  cases hp with
  | none => exact .inr rfl
  | given _ _ => exact .inl rfl

/-- Completeness of the whole reader. -/
theorem read_of_isStatement {tokens : List Placed} {s : Statement} (h : IsStatement tokens s) :
    read tokens = .ok s := by
  cases h with
  | @mk ts rs cs ps first second constant priority relation span ht hr hc hp =>
      have hps : nextKind ps ≠ .plus ∧ nextKind ps ≠ .minus := by
        rcases nextKind_priority hp with h | h <;> simp [h]
      refine Outcome.bind_eq_ok.mpr ⟨_, readTerm_append ht (by simp [nextKind, Token.kind]), ?_⟩
      refine Outcome.bind_eq_ok.mpr ⟨(relation, rs ++ (cs ++ ps)), rfl, ?_⟩
      refine Outcome.bind_eq_ok.mpr
        ⟨_, readRightSide_append hr (nextKind_addend_ne_star hc hp), ?_⟩
      refine Outcome.bind_eq_ok.mpr ⟨_, readAddend_append hc hps.1 hps.2, ?_⟩
      exact Outcome.bind_eq_ok.mpr ⟨_, readPriority_eq hp, rfl⟩

theorem ofTokens_eq_ok {tokens : List Placed} {s : Statement} :
    ofTokens tokens = .ok s ↔ IsStatement tokens s := by
  rw [ofTokens, Outcome.mapError_eq_ok]
  exact ⟨isStatement_of_read, read_of_isStatement⟩

/-- The reader accepts a list of tokens with a tree exactly if the grammar derives the tree from
the whole list and no other tree. -/
theorem ofTokens_accepts_grammar (tokens : List Placed) (s : Statement) :
    ofTokens tokens = .ok s ↔ IsStatement tokens s ∧ ∀ s', IsStatement tokens s' → s' = s := by
  constructor
  · intro h
    refine ⟨ofTokens_eq_ok.mp h, ?_⟩
    intro s' hs'
    rw [ofTokens_eq_ok.mpr hs'] at h
    exact Except.ok.inj h
  · rintro ⟨hs, -⟩
    exact ofTokens_eq_ok.mpr hs

end LayoutLang.Statement
