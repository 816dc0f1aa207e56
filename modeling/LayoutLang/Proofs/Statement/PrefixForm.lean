import LayoutLang.Proofs.Compile
import LayoutLang.Proofs.Decimal.ReadBack
import LayoutLang.Proofs.Statement.Unplaced
import LayoutLang.Proofs.Statement.Written
import LayoutLang.Statement.Printer
import Mathlib.Data.List.Basic

/-!
# The prefix form can be read back

Two statements with the same prefix form are the same, but for their places.

Names and numbers are atoms of the prefix form: no blank and no parenthesis is in them, and one of
these stands behind each of them.  So it is seen where an atom ends (`IsSolid.append_inj`), and from
there on every part of a statement can be told from what follows it: if the texts of two such parts
begin the same text, they are the same part, and what is left is the same (the `append_inj` lemmas,
one a syntactic class).  Terms with a factor, values, addends and priorities differ in what stands
behind their parenthesis.

The names have to be identifiers, as those of every text are.  The numbers have to be finite: an
infinite one is written as the identifier `inf` is.
-/

namespace LayoutLang

open Token (IsIdentifier continuesIdentifier startsIdentifier)

/-! ## Atoms -/

namespace PrefixForm

/-- Whether a character can be part of an atom: of a name or a number. -/
def isAtomic (c : Char) : Bool := c ≠ ' ' && c ≠ '(' && c ≠ ')'

/-- The characters of an atom, at least one. -/
def IsSolid (w : List Char) : Prop := w ≠ [] ∧ ∀ c ∈ w, isAtomic c = true

/-- What may stand behind an atom: a blank, a parenthesis or nothing. -/
def Closed (rest : List Char) : Prop := ∀ c ∈ rest.head?, isAtomic c = false

variable {w w' r r' : List Char}

theorem closed_blank (r : List Char) : Closed (' ' :: r) := by
  rintro c ⟨⟩
  rfl

theorem closed_close (r : List Char) : Closed (')' :: r) := by
  rintro c ⟨⟩
  rfl

/-- It is seen where an atom ends. -/
theorem IsSolid.append_inj (hw : IsSolid w) (hw' : IsSolid w') (hr : Closed r) (hr' : Closed r')
    (h : w ++ r = w' ++ r') : w = w' ∧ r = r' :=
  Text.run_append_inj hw.2 hw'.2 hr hr' h

theorem isAtomic_of_continuesIdentifier {c : Char} (h : continuesIdentifier c = true) :
    isAtomic c = true := by
  have hblank : continuesIdentifier ' ' = false := by decide +kernel
  have hopen : continuesIdentifier '(' = false := by decide +kernel
  have hclose : continuesIdentifier ')' = false := by decide +kernel
  simp only [isAtomic, Bool.and_eq_true, decide_eq_true_eq]
  refine ⟨⟨?_, ?_⟩, ?_⟩
  · rintro rfl
    cases h.symm.trans hblank
  · rintro rfl
    cases h.symm.trans hopen
  · rintro rfl
    cases h.symm.trans hclose

theorem isSolid_of_isIdentifier (h : IsIdentifier w) : IsSolid w := by
  refine ⟨?_, fun c hc => isAtomic_of_continuesIdentifier (h.continues c hc)⟩
  rintro rfl
  cases h

/-- Two identifiers with a point between them are an atom. -/
theorem isSolid_dotted (h : IsIdentifier w) (h' : IsIdentifier w') : IsSolid (w ++ '.' :: w') := by
  refine ⟨by simp, ?_⟩
  intro c hc
  rcases List.mem_append.mp hc with hc | hc
  · exact (isSolid_of_isIdentifier h).2 c hc
  · rcases List.mem_cons.mp hc with rfl | hc
    · rfl
    · exact (isSolid_of_isIdentifier h').2 c hc

theorem isSolid_text {x : Binary64} (hx : x.isFinite = true) : IsSolid x.text.toList := by
  obtain ⟨negative, rank, rfl⟩ := Binary64.isFinite_iff.mp hx
  have hnumeral := Decimal.isNumeral_positional (Binary64.shortest rank)
  have hdigits : ∀ c ∈ (Binary64.shortest rank).positional, isAtomic c = true := by
    intro c hc
    rcases hnumeral.isDigit_or_point c hc with hdigit | rfl
    · exact isAtomic_of_continuesIdentifier (Token.continuesIdentifier_of_isDigit hdigit)
    · rfl
  obtain ⟨c, rest, hhead, -⟩ := hnumeral.head
  cases negative with
  | false => exact ⟨by simp [Binary64.text, Binary64.signText, hhead],
      by simpa [Binary64.text, Binary64.signText] using hdigits⟩
  | true => exact ⟨by simp [Binary64.text, Binary64.signText],
      by simpa [Binary64.text, Binary64.signText] using ⟨rfl, hdigits⟩⟩

/-- No identifier is the text of a number. -/
theorem text_ne_of_isIdentifier {x : Binary64} (hx : x.isFinite = true) (h : IsIdentifier w) :
    x.text.toList ≠ w := by
  obtain ⟨c, rest, hnumber, hc⟩ := Binary64.head_text hx
  obtain ⟨d, rest', rfl, hd⟩ := h.head
  intro heq
  obtain ⟨rfl, -⟩ := List.cons.inj (hnumber.symm.trans heq)
  rcases hc with hdigit | rfl
  · cases hd.symm.trans (Token.not_startsIdentifier_of_isDigit hdigit)
  · cases hd.symm.trans (Token.not_startsIdentifier_of_lt (by decide))

end PrefixForm

open PrefixForm

/-! ## Parts that can be read back -/

/-- A finite number, or an identifier. -/
def Operand.Legible : Operand → Prop
  | .number x _ => x.isFinite = true
  | .name n => IsIdentifier n.text.toList

structure Term.Legible (t : Term) : Prop where
  multiplier : ∀ o ∈ t.multiplier, o.Legible
  object : IsIdentifier t.object.text.toList
  part : ∀ n ∈ t.part, IsIdentifier n.text.toList

def RightSide.Legible : RightSide → Prop
  | .term t => t.Legible
  | .value o => o.Legible

structure Statement.Legible (s : Statement) : Prop where
  first : s.first.Legible
  second : s.second.Legible
  constant : ∀ a ∈ s.constant, a.operand.Legible
  priority : ∀ o ∈ s.priority, o.Legible

variable {r r' : List Char}

theorem Name.unplaced_eq {n n' : Name} (h : n.text.toList = n'.text.toList) :
    n.unplaced = n'.unplaced := by
  rw [Name.unplaced, Name.unplaced, String.toList_injective h]

theorem Operand.isSolid_text {o : Operand} (ho : o.Legible) : IsSolid o.text.toList := by
  cases o with
  | number x span => exact PrefixForm.isSolid_text ho
  | name n => exact isSolid_of_isIdentifier ho

theorem Operand.append_inj {o o' : Operand} (ho : o.Legible) (ho' : o'.Legible) (hr : Closed r)
    (hr' : Closed r') (h : o.text.toList ++ r = o'.text.toList ++ r') :
    o.unplaced = o'.unplaced ∧ r = r' := by
  obtain ⟨htext, hrest⟩ := (isSolid_text ho).append_inj (isSolid_text ho') hr hr' h
  refine ⟨?_, hrest⟩
  cases o with
  | number x span =>
      cases o' with
      | number y span' =>
          rw [unplaced, unplaced, Binary64.text_inj ho ho' (String.toList_injective htext)]
      | name n => exact absurd htext (text_ne_of_isIdentifier ho ho')
  | name n =>
      cases o' with
      | number y span' => exact absurd htext.symm (text_ne_of_isIdentifier ho' ho)
      | name n' => exact congrArg Operand.name (Name.unplaced_eq htext)

theorem Relation.isSolid_text (r : Relation) : IsSolid r.text.toList := by
  cases r <;> simp [IsSolid, isAtomic, text]

theorem Relation.text_inj {r r' : Relation} (h : r.text = r'.text) : r = r' := by
  revert h
  cases r <;> cases r' <;> decide

/-! ## Terms -/

namespace Term

/-- The object, and the attribute behind a point. -/
def objectText (t : Term) : List Char :=
  match t.part with
  | some a => t.object.text.toList ++ '.' :: a.text.toList
  | none => t.object.text.toList

theorem toList_text (t : Term) :
    t.text.toList = match t.multiplier with
      | some m => '(' :: '*' :: ' ' :: (m.text.toList ++ ' ' :: (t.objectText ++ [')']))
      | none => t.objectText := by
  obtain ⟨multiplier, object, part⟩ := t
  cases multiplier <;> cases part <;> simp [text, objectText]

variable {t t' : Term}

theorem isSolid_objectText (ht : t.Legible) : IsSolid t.objectText := by
  obtain ⟨multiplier, object, part⟩ := t
  cases part with
  | none => exact isSolid_of_isIdentifier ht.object
  | some a => exact isSolid_dotted ht.object (ht.part a rfl)

/-- An object is not taken for a parenthesis. -/
theorem objectText_append_ne (ht : t.Legible) (r r' : List Char) :
    t.objectText ++ r ≠ '(' :: r' := by
  obtain ⟨hne, hatomic⟩ := isSolid_objectText ht
  obtain ⟨c, rest, htext⟩ := List.exists_cons_of_ne_nil hne
  rw [htext]
  intro h
  obtain ⟨rfl, -⟩ := List.cons.inj h
  have hopen := hatomic '(' (by simp [htext])
  cases hopen

/-- The point tells an object from its attribute. -/
theorem object_eq_of_objectText_eq (ht : t.Legible) (ht' : t'.Legible)
    (h : t.objectText = t'.objectText) :
    t.object.unplaced = t'.object.unplaced
      ∧ t.part.map Name.unplaced = t'.part.map Name.unplaced := by
  obtain ⟨multiplier, object, part⟩ := t
  obtain ⟨multiplier', object', part'⟩ := t'
  have hpoint := ht.object.point_not_mem
  have hpoint' := ht'.object.point_not_mem
  cases part with
  | none =>
      cases part' with
      | none => exact ⟨Name.unplaced_eq h, rfl⟩
      | some a' =>
          have hobject : object.text.toList = object'.text.toList ++ '.' :: a'.text.toList := h
          rw [hobject] at hpoint
          simp at hpoint
  | some a =>
      cases part' with
      | none =>
          have hobject : object.text.toList ++ '.' :: a.text.toList = object'.text.toList := h
          rw [← hobject] at hpoint'
          simp at hpoint'
      | some a' =>
          obtain ⟨hobject, -, hpart⟩ :=
            (List.append_cons_inj_of_notMem hpoint (ht.part a rfl).point_not_mem).mp h
          exact ⟨Name.unplaced_eq hobject, congrArg some (Name.unplaced_eq hpart)⟩

theorem objectText_append_inj (ht : t.Legible) (ht' : t'.Legible) (hr : Closed r)
    (hr' : Closed r') (h : t.objectText ++ r = t'.objectText ++ r') :
    t.object.unplaced = t'.object.unplaced ∧ t.part.map Name.unplaced = t'.part.map Name.unplaced
      ∧ r = r' := by
  obtain ⟨htext, hrest⟩ := (isSolid_objectText ht).append_inj (isSolid_objectText ht') hr hr' h
  obtain ⟨hobject, hpart⟩ := object_eq_of_objectText_eq ht ht' htext
  exact ⟨hobject, hpart, hrest⟩

theorem append_inj (ht : t.Legible) (ht' : t'.Legible) (hr : Closed r) (hr' : Closed r')
    (h : t.text.toList ++ r = t'.text.toList ++ r') : t.unplaced = t'.unplaced ∧ r = r' := by
  rw [toList_text, toList_text] at h
  rw [unplaced, unplaced]
  cases hm : t.multiplier with
  | none =>
      cases hm' : t'.multiplier with
      | none =>
          simp only [hm, hm'] at h
          obtain ⟨hobject, hpart, hrest⟩ := objectText_append_inj ht ht' hr hr' h
          exact ⟨by rw [hobject, hpart], hrest⟩
      | some m' =>
          simp only [hm, hm'] at h
          exact absurd h (objectText_append_ne ht _ _)
  | some m =>
      cases hm' : t'.multiplier with
      | none =>
          simp only [hm, hm'] at h
          exact absurd h.symm (objectText_append_ne ht' _ _)
      | some m' =>
          simp only [hm, hm', List.cons_append, List.append_assoc, List.cons.injEq, true_and] at h
          obtain ⟨hfactor, hobjects⟩ := Operand.append_inj (ht.multiplier m hm)
            (ht'.multiplier m' hm') (closed_blank _) (closed_blank _) h
          obtain ⟨hobject, hpart, hrest⟩ := objectText_append_inj ht ht' (closed_close _)
            (closed_close _) (List.cons.inj hobjects).2
          refine ⟨?_, (List.cons.inj hrest).2⟩
          rw [Option.map_some, Option.map_some, hfactor, hobject, hpart]

end Term

/-! ## Right sides -/

theorem RightSide.append_inj {rs rs' : RightSide} (hrs : rs.Legible) (hrs' : rs'.Legible)
    (hr : Closed r) (hr' : Closed r') (h : rs.text.toList ++ r = rs'.text.toList ++ r') :
    rs.unplaced = rs'.unplaced ∧ r = r' := by
  have hvalue : ∀ o : Operand, (RightSide.value o).text.toList
      = '(' :: 'v' :: 'a' :: 'l' :: 'u' :: 'e' :: ' ' :: (o.text.toList ++ [')']) := by
    simp [text]
  -- A term has its object in front, or a star behind its parenthesis.
  have hterm : ∀ (t : Term) (o : Operand) (r r' : List Char), t.Legible →
      t.text.toList ++ r ≠ (RightSide.value o).text.toList ++ r' := by
    intro t o r r' ht
    rw [Term.toList_text, hvalue]
    cases t.multiplier with
    | none => exact Term.objectText_append_ne ht _ _
    | some m => simp
  cases rs with
  | term t =>
      cases rs' with
      | term t' =>
          obtain ⟨hterms, hrest⟩ := Term.append_inj hrs hrs' hr hr' h
          exact ⟨congrArg RightSide.term hterms, hrest⟩
      | value o' => exact absurd h (hterm t o' r r' hrs)
  | value o =>
      cases rs' with
      | term t' => exact absurd h.symm (hterm t' o r' r hrs')
      | value o' =>
          simp only [hvalue, List.cons_append, List.append_assoc, List.cons.injEq, true_and] at h
          obtain ⟨hoperand, hrest⟩ :=
            Operand.append_inj hrs hrs' (closed_close _) (closed_close _) h
          exact ⟨congrArg RightSide.value hoperand, (List.cons.inj hrest).2⟩

/-! ## Addends and priorities -/

namespace PrefixForm

/-- An operand in parentheses behind a sign, and the blank in front of it. -/
def group (sign : Char) (o : Operand) : List Char :=
  ' ' :: '(' :: sign :: ' ' :: (o.text.toList ++ [')'])

theorem group_append_inj {sign sign' : Char} {o o' : Operand} (ho : o.Legible) (ho' : o'.Legible)
    (h : group sign o ++ r = group sign' o' ++ r') :
    sign = sign' ∧ o.unplaced = o'.unplaced ∧ r = r' := by
  simp only [group, List.cons_append, List.append_assoc, List.cons.injEq, true_and] at h
  obtain ⟨hsign, hrest⟩ := h
  obtain ⟨hoperand, hrest⟩ := Operand.append_inj ho ho' (closed_close _) (closed_close _) hrest
  exact ⟨hsign, hoperand, (List.cons.inj hrest).2⟩

end PrefixForm

/-- The character of a sign. -/
def Sign.mark : Sign → Char
  | .plus => '+'
  | .minus => '-'

theorem Sign.mark_injective {sign sign' : Sign} (h : sign.mark = sign'.mark) : sign = sign' := by
  revert h
  cases sign <;> cases sign' <;> decide

theorem Sign.mark_ne (sign : Sign) : sign.mark ≠ '@' := by cases sign <;> decide

namespace Statement

/-- The end of a prefix form, from its priority on. -/
def priorityText (priority : Option Operand) : List Char :=
  priority.elim [')'] fun o => group '@' o ++ [')']

/-- The end of a prefix form, from its addend on. -/
def tailText (constant : Option Addend) (priority : Option Operand) : List Char :=
  constant.elim (priorityText priority)
    fun a => group a.sign.mark a.operand ++ priorityText priority

theorem toList_text (s : Statement) :
    s.text.toList = '(' :: (s.relation.text.toList ++ ' ' :: (s.first.text.toList
      ++ ' ' :: (s.second.text.toList ++ tailText s.constant s.priority))) := by
  obtain ⟨first, relation, second, constant, priority⟩ := s
  cases constant with
  | none => cases priority <;> simp [text, tailText, priorityText, group]
  | some a =>
      obtain ⟨sign, operand⟩ := a
      cases sign <;> cases priority <;>
        simp [text, tailText, priorityText, group, Addend.text, Sign.text, Sign.mark]

theorem priorityText_inj {p p' : Option Operand} (hp : ∀ o ∈ p, o.Legible)
    (hp' : ∀ o ∈ p', o.Legible) (h : priorityText p = priorityText p') :
    p.map Operand.unplaced = p'.map Operand.unplaced := by
  cases p with
  | none =>
      cases p' with
      | none => rfl
      | some o' => cases h
  | some o =>
      cases p' with
      | none => cases h
      | some o' =>
          obtain ⟨-, hoperand, -⟩ := group_append_inj (hp o rfl) (hp' o' rfl) h
          exact congrArg some hoperand

/-- A priority is not taken for an addend. -/
theorem group_append_ne_priorityText (a : Addend) (p : Option Operand) (r : List Char) :
    group a.sign.mark a.operand ++ r ≠ priorityText p := by
  cases p with
  | none => nofun
  | some o =>
      intro h
      simp only [priorityText, group, Option.elim_some, List.cons_append, List.cons.injEq,
        true_and] at h
      exact a.sign.mark_ne h.1

theorem tailText_inj {c c' : Option Addend} {p p' : Option Operand}
    (hc : ∀ a ∈ c, a.operand.Legible) (hc' : ∀ a ∈ c', a.operand.Legible)
    (hp : ∀ o ∈ p, o.Legible) (hp' : ∀ o ∈ p', o.Legible) (h : tailText c p = tailText c' p') :
    c.map Addend.unplaced = c'.map Addend.unplaced
      ∧ p.map Operand.unplaced = p'.map Operand.unplaced := by
  cases c with
  | none =>
      cases c' with
      | none => exact ⟨rfl, priorityText_inj hp hp' h⟩
      | some a' => exact absurd h.symm (group_append_ne_priorityText a' p _)
  | some a =>
      cases c' with
      | none => exact absurd h (group_append_ne_priorityText a p' _)
      | some a' =>
          obtain ⟨hsign, hoperand, hrest⟩ := group_append_inj (hc a rfl) (hc' a' rfl) h
          refine ⟨?_, priorityText_inj hp hp' hrest⟩
          rw [Option.map_some, Option.map_some, Addend.unplaced, Addend.unplaced, hoperand,
            Sign.mark_injective hsign]

theorem closed_tailText (c : Option Addend) (p : Option Operand) : Closed (tailText c p) := by
  cases c with
  | none =>
      cases p with
      | none => exact closed_close _
      | some o => exact closed_blank _
  | some a => exact closed_blank _

/-! ## Whole statements -/

theorem unplaced_eq_of_legible {s s' : Statement} (hs : s.Legible) (hs' : s'.Legible)
    (h : s.text = s'.text) : s.unplaced = s'.unplaced := by
  have htext := congrArg String.toList h
  rw [toList_text, toList_text] at htext
  obtain ⟨hrelation, hbehind⟩ := s.relation.isSolid_text.append_inj s'.relation.isSolid_text
    (closed_blank _) (closed_blank _) (List.cons.inj htext).2
  obtain ⟨hfirst, hbehind⟩ := Term.append_inj hs.first hs'.first (closed_blank _) (closed_blank _)
    (List.cons.inj hbehind).2
  obtain ⟨hsecond, htail⟩ := RightSide.append_inj hs.second hs'.second (closed_tailText _ _)
    (closed_tailText _ _) (List.cons.inj hbehind).2
  obtain ⟨hconstant, hpriority⟩ :=
    tailText_inj hs.constant hs'.constant hs.priority hs'.priority htail
  simp only [unplaced, Relation.text_inj (String.toList_injective hrelation), hfirst, hsecond,
    hconstant, hpriority]

/-! ## Statements of texts -/

end Statement

/-- The operands of a right side, bare or a factor. -/
def RightSide.operands : RightSide → List Operand
  | .term t => t.multiplier.toList
  | .value o => [o]

/-- Whatever stands in a statement where a number is wanted. -/
def Statement.operands (s : Statement) : List Operand :=
  s.first.multiplier.toList ++ s.second.operands ++ (s.constant.map (·.operand)).toList
    ++ s.priority.toList

variable {text : List Char}

theorem Operand.Written.legible {o : Operand} (h : o.Written text)
    (hfinite : ∀ x span, o = .number x span → x.isFinite = true) : o.Legible := by
  cases o with
  | number x span => exact hfinite x span rfl
  | name n => exact h.identifier

theorem Term.Written.legible {t : Term} (h : t.Written text)
    (hfinite : ∀ x span, Operand.number x span ∈ t.multiplier → x.isFinite = true) : t.Legible where
  multiplier := by
    intro o ho
    refine (h.multiplier o ho).legible ?_
    rintro x span rfl
    exact hfinite x span ho
  object := h.object.identifier
  part := fun n hn => (h.part n hn).identifier

theorem RightSide.Written.legible {rs : RightSide} (h : rs.Written text)
    (hfinite : ∀ x span, Operand.number x span ∈ rs.operands → x.isFinite = true) :
    rs.Legible := by
  cases rs with
  | term t =>
      refine Term.Written.legible h fun x span hx => hfinite x span ?_
      simpa [operands] using hx
  | value o =>
      refine Operand.Written.legible h ?_
      rintro x span rfl
      exact hfinite x span (by simp [operands])

namespace Statement

/-- A statement of a text can be read back if its numbers are finite. -/
theorem Written.legible {s : Statement} (h : s.Written text)
    (hfinite : ∀ x span, Operand.number x span ∈ s.operands → x.isFinite = true) : s.Legible where
  first := h.first.legible fun x span hx => hfinite x span (by simp_all [operands])
  second := h.second.legible fun x span hx => hfinite x span (by simp_all [operands])
  constant := by
    intro a ha
    refine (h.constant a ha).legible fun x span hx => hfinite x span ?_
    rw [← hx]
    simp_all [operands]
  priority := by
    intro o ho
    refine (h.priority o ho).legible fun x span hx => hfinite x span ?_
    rw [← hx]
    simp_all [operands]

/-- Statements of texts whose numbers are finite are the same, but for their places, if their prefix
forms are. -/
theorem unplaced_eq_of_text_eq {text text' : String} {s s' : Statement} (hs : ofText text = .ok s)
    (hs' : ofText text' = .ok s')
    (hfinite : ∀ x span, Operand.number x span ∈ s.operands → x.isFinite = true)
    (hfinite' : ∀ x span, Operand.number x span ∈ s'.operands → x.isFinite = true)
    (h : s.text = s'.text) : s.unplaced = s'.unplaced := by
  obtain ⟨tokens, htokens, hgrammar⟩ := ofText_eq_ok.mp hs
  obtain ⟨tokens', htokens', hgrammar'⟩ := ofText_eq_ok.mp hs'
  have hwritten := written_of_isStatement hgrammar (Token.readFrom_of_tokenize htokens)
  have hwritten' := written_of_isStatement hgrammar' (Token.readFrom_of_tokenize htokens')
  exact unplaced_eq_of_legible (hwritten.legible hfinite) (hwritten'.legible hfinite') h

def denseText : String := "k*v.x>=-0*ü.y-1.50@p"

/-- The factor on the right is the negative zero. -/
def denseStatement : Statement where
  first := ⟨some (.name ⟨"k", ⟨0, 1⟩⟩), ⟨"v", ⟨2, 3⟩⟩, some ⟨"x", ⟨4, 5⟩⟩⟩
  relation := .greaterOrEqual
  second := .term ⟨some (.number (.zero true) ⟨7, 9⟩), ⟨"ü", ⟨10, 12⟩⟩, some ⟨"y", ⟨13, 14⟩⟩⟩
  constant := some ⟨.minus, .number (.ofDecimal false ⟨15, -1⟩) ⟨15, 19⟩⟩
  priority := some (.name ⟨"p", ⟨20, 21⟩⟩)

/-- The same with blanks, and with other digits for the same numbers. -/
def looseText : String := "k * v.x >= - 0.0 * ü.y - 1.5 @ p"

def looseStatement : Statement where
  first := ⟨some (.name ⟨"k", ⟨0, 1⟩⟩), ⟨"v", ⟨4, 5⟩⟩, some ⟨"x", ⟨6, 7⟩⟩⟩
  relation := .greaterOrEqual
  second := .term ⟨some (.number (.zero true) ⟨11, 16⟩), ⟨"ü", ⟨19, 21⟩⟩, some ⟨"y", ⟨22, 23⟩⟩⟩
  constant := some ⟨.minus, .number (.ofDecimal false ⟨15, -1⟩) ⟨26, 29⟩⟩
  priority := some (.name ⟨"p", ⟨32, 33⟩⟩)

theorem unplaced_eq_of_text_eq_loose :
    (ofText denseText = .ok denseStatement ∧ ofText looseText = .ok looseStatement
        ∧ (∀ x span, Operand.number x span ∈ denseStatement.operands → x.isFinite = true)
        ∧ (∀ x span, Operand.number x span ∈ looseStatement.operands → x.isFinite = true)
        ∧ denseStatement.text = looseStatement.text)
      ∧ denseStatement.unplaced = looseStatement.unplaced := by
  have hdense : ofText denseText = .ok denseStatement := by decide +kernel
  have hloose : ofText looseText = .ok looseStatement := by decide +kernel
  have hfinite : ∀ x span, Operand.number x span ∈ denseStatement.operands →
      x.isFinite = true := by
    intro x span hx
    simp [denseStatement, operands, RightSide.operands] at hx
    rcases hx with ⟨rfl, -⟩ | ⟨rfl, -⟩ <;> decide +kernel
  have hfinite' : ∀ x span, Operand.number x span ∈ looseStatement.operands →
      x.isFinite = true := by
    intro x span hx
    simp [looseStatement, operands, RightSide.operands] at hx
    rcases hx with ⟨rfl, -⟩ | ⟨rfl, -⟩ <;> decide +kernel
  have htext : denseStatement.text = looseStatement.text := by decide +kernel
  exact ⟨⟨hdense, hloose, hfinite, hfinite', htext⟩,
    unplaced_eq_of_text_eq hdense hloose hfinite hfinite' htext⟩

end Statement

end LayoutLang
