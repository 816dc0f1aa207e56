import LayoutLang.Proofs.Resolution

/-!
# Statements that are resolved alike

A resolution looks at its tables through the names of the statement only, and at a name or an
operand in two ways: for what it stands for, and to blame it.  So two statements, each with tables
of its own, are resolved to the same if they agree slot by slot on what stands there, and they fail
alike if the slots are also blamed alike.

How much of a failure is compared is left open: the relations here take a function `g` of failures,
and two failures are alike if `g` gives the same for both.
-/

namespace LayoutLang

open Outcome (mapError_bind_congr mapError_map_congr)
open Resolution (Failure Kind)

variable {View ε : Type}

/-! ## Parts that agree -/

/-- Two names have one text and are blamed alike. -/
structure Name.Alike (g : Failure → ε) (n n' : Name) : Prop where
  text : n.text = n'.text
  blame : ∀ kind, g (.ofName kind n) = g (.ofName kind n')

/-- Two operands stand for the same, each in its table, and are blamed alike. -/
structure Operand.Alike (g : Failure → ε) (metrics metrics' : Table Binary64) (o o' : Operand) :
    Prop where
  value : o.value? metrics = o'.value? metrics'
  blame : ∀ kind, g (.ofOperand kind o) = g (.ofOperand kind o')

structure Term.Alike (g : Failure → ε) (tables tables' : Tables View) (t t' : Term) : Prop where
  object : t.object.Alike g t'.object
  view : tables.views.find? t.object.text = tables'.views.find? t'.object.text
  part : Option.Rel (Name.Alike g) t.part t'.part
  multiplier : Option.Rel (Operand.Alike g tables.metrics tables'.metrics) t.multiplier
    t'.multiplier

/-- A bare name that is a view is the same view on both sides, and what it is as a metric does not
matter then. -/
inductive RightSide.Alike (g : Failure → ε) (tables tables' : Tables View) :
    RightSide → RightSide → Prop
  | term {t t' : Term} : t.Alike g tables tables' t' → Alike g tables tables' (.term t) (.term t')
  | view {n n' : Name} {v : View} : tables.views.find? n.text = some v →
      tables'.views.find? n'.text = some v →
      Alike g tables tables' (.value (.name n)) (.value (.name n'))
  | value {o o' : Operand} : (∀ n, o = .name n → tables.views.find? n.text = none) →
      (∀ n, o' = .name n → tables'.views.find? n.text = none) →
      o.Alike g tables.metrics tables'.metrics o' →
      Alike g tables tables' (.value o) (.value o')

structure Addend.Alike (g : Failure → ε) (metrics metrics' : Table Binary64) (a a' : Addend) :
    Prop where
  sign : a.sign = a'.sign
  operand : a.operand.Alike g metrics metrics' a'.operand

structure Statement.Alike (g : Failure → ε) (tables tables' : Tables View) (s s' : Statement) :
    Prop where
  first : s.first.Alike g tables tables' s'.first
  relation : s.relation = s'.relation
  second : s.second.Alike g tables tables' s'.second
  constant : Option.Rel (Addend.Alike g tables.metrics tables'.metrics) s.constant s'.constant
  priority : Option.Rel (Operand.Alike g tables.metrics tables'.metrics) s.priority s'.priority

/-! ## Parts are resolved alike -/

theorem Name.Alike.refl (g : Failure → ε) (n : Name) : n.Alike g n := ⟨rfl, fun _ => rfl⟩

variable {g : Failure → ε} {tables tables' : Tables View} {metrics metrics' : Table Binary64}

/-- Operands that fail the same check are blamed alike for it. -/
theorem Operand.Alike.check {α : Type} {o o' : Operand} (h : o.Alike g metrics metrics' o')
    (kind : Kind) (p : Prop) [Decidable p] (a : α) :
    (if p then Except.ok a else .error (.ofOperand kind o)).mapError g
      = (if p then Except.ok a else .error (.ofOperand kind o')).mapError g := by
  rw [Outcome.mapError_check, Outcome.mapError_check, h.blame]

theorem Operand.Alike.resolve {o o' : Operand} (h : o.Alike g metrics metrics' o') :
    (o.resolve metrics).mapError g = (o'.resolve metrics').mapError g := by
  rw [resolve_eq, resolve_eq, h.value]
  refine mapError_bind_congr ?_ fun x => h.check _ _ _
  cases o'.value? metrics' with
  | none => exact congrArg Except.error (h.blame _)
  | some x => rfl

theorem Term.Alike.resolve {t t' : Term} (h : t.Alike g tables tables' t') :
    (t.resolve tables).mapError g = (t'.resolve tables').mapError g := by
  obtain ⟨multiplier, object, part⟩ := t
  obtain ⟨multiplier', object', part'⟩ := t'
  obtain ⟨hobject, hview, hpart, hmultiplier⟩ := h
  rw [resolve_eq, resolve_eq, hview]
  refine mapError_bind_congr ?view fun view => mapError_bind_congr ?part fun part =>
    mapError_bind_congr ?multiplier fun multiplier => rfl
  case view =>
    cases tables'.views.find? object'.text with
    | none => exact congrArg Except.error (hobject.blame _)
    | some view => rfl
  case part =>
    cases hpart with
    | none => rfl
    | @some n n' hn =>
        simp only [Option.elim_some, hn.text]
        cases Attribute.ofName? n'.text with
        | none => exact congrArg Except.error (hn.blame _)
        | some a => rfl
  case multiplier =>
    cases hmultiplier with
    | none => rfl
    | some ho => exact mapError_map_congr some ho.resolve

theorem RightSide.Alike.resolve {rs rs' : RightSide} (h : rs.Alike g tables tables' rs') :
    (rs.resolve tables).mapError g = (rs'.resolve tables').mapError g := by
  cases h with
  | term ht => exact mapError_map_congr ResolvedSide.item ht.resolve
  | view hview hview' => simp only [RightSide.resolve, hview, hview']
  | value hnone hnone' ho =>
      rw [resolve_value hnone, resolve_value hnone']
      exact mapError_map_congr ResolvedSide.constant ho.resolve

theorem Addend.Alike.resolve {a a' : Addend} (h : a.Alike g metrics metrics' a') :
    (a.resolve metrics).mapError g = (a'.resolve metrics').mapError g := by
  unfold Addend.resolve
  rw [h.sign]
  exact mapError_map_congr _ h.operand.resolve

/-! ## Checks and the whole statement -/

namespace Statement

/-- A check of the left factor, which is made where a factor was resolved. -/
theorem leftCheck_congr {test : Operand → Binary64 → Except Failure Unit}
    (htest : ∀ o o' k, o.Alike g metrics metrics' o' →
      (test o k).mapError g = (test o' k).mapError g)
    {m m' : Option Operand} (hm : Option.Rel (Operand.Alike g metrics metrics') m m')
    (k : Option Binary64) :
    (match m, k with
      | some o, some k => test o k
      | _, _ => .ok ()).mapError g
      = (match m', k with
        | some o, some k => test o k
        | _, _ => .ok ()).mapError g := by
  cases hm with
  | none => rfl
  | some ho =>
      cases k with
      | none => rfl
      | some k => exact htest _ _ k ho

variable {s s' : Statement}

theorem Alike.checkFactor (h : s.Alike g tables tables' s') (first : ScaledItem View) :
    (s.checkFactor first).mapError g = (s'.checkFactor first).mapError g := by
  refine leftCheck_congr ?_ h.first.multiplier first.multiplier
  intro o o' k ho
  split
  · exact congrArg Except.error (ho.blame _)
  · rfl

theorem Alike.checkQuotients (h : s.Alike g tables tables' s') (first : ScaledItem View)
    (second : Option (ScaledItem View)) (constant : Option Binary64) :
    (s.checkQuotients first second constant).mapError g
      = (s'.checkQuotients first second constant).mapError g := by
  refine leftCheck_congr ?_ h.first.multiplier first.multiplier
  intro o o' k ho
  exact ho.check _ _ _

theorem resolveConstant_congr {c c' : Option Addend}
    (h : Option.Rel (Addend.Alike g metrics metrics') c c') (base : Option Binary64) :
    (resolveConstant metrics base c).mapError g
      = (resolveConstant metrics' base c').mapError g := by
  cases h with
  | none => rfl
  | some ha => exact mapError_bind_congr ha.resolve fun x => ha.operand.check _ _ _

theorem resolvePriority_congr {p p' : Option Operand}
    (h : Option.Rel (Operand.Alike g metrics metrics') p p') (settings : Settings) :
    (resolvePriority settings metrics p).mapError g
      = (resolvePriority settings metrics' p').mapError g := by
  cases h with
  | none => rfl
  | some ho => exact mapError_bind_congr ho.resolve fun p => ho.check _ _ _

/-- Statements that agree slot by slot are resolved to the same, or fail alike. -/
theorem Alike.resolve (h : s.Alike g tables tables' s') (settings : Settings) :
    (s.resolve settings tables).mapError g = (s'.resolve settings tables').mapError g := by
  unfold Statement.resolve resolveWith
  rw [h.relation]
  refine mapError_bind_congr h.first.resolve fun first => ?_
  refine mapError_bind_congr (h.checkFactor first) fun _ => ?_
  refine mapError_bind_congr h.second.resolve fun side => ?_
  refine mapError_bind_congr (resolveConstant_congr h.constant side.constant?) fun constant => ?_
  refine mapError_bind_congr (h.checkQuotients first side.item? constant) fun _ => ?_
  exact mapError_bind_congr (resolvePriority_congr h.priority settings) fun _ => rfl

end Statement

end LayoutLang
