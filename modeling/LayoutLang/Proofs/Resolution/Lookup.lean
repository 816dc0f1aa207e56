import LayoutLang.Proofs.Resolution.Alike
import Mathlib.Control.Monad.Basic

/-!
# What a resolution takes from its tables

A metric is no more than a number that has a name.  `Statement.inlined` writes the values of the
metrics into a statement, and nothing but the name in a failure tells the two apart
(`Statement.resolve_inlined`).

A name is looked up as a view or as a metric by the slot in which it stands, never because of what
the other table has under it.  So two pairs of tables that agree on the names of each slot are as
good as each other, whatever else is in them (`Statement.resolve_of_agreeFor`).  The bare name on
the right is the one slot for both: it is a metric only if it is no view.
-/

namespace LayoutLang

open Resolution (Failure Kind)

variable {View : Type}

/-! ## Metrics written out -/

/-- The operand with the value of the metric that it names. -/
def Operand.inlined (metrics : Table Binary64) : Operand → Operand
  | .number x span => .number x span
  | .name n =>
    match metrics.find? n.text with
    | some x => .number x n.span
    | none => .name n

def Term.inlined (metrics : Table Binary64) (t : Term) : Term :=
  { t with multiplier := t.multiplier.map (Operand.inlined metrics) }

/-- A bare name stays if it is a view. -/
def RightSide.inlined (tables : Tables View) : RightSide → RightSide
  | .term t => .term (t.inlined tables.metrics)
  | .value (.name n) =>
    if (tables.views.find? n.text).isSome then .value (.name n)
    else .value ((Operand.name n).inlined tables.metrics)
  | .value o => .value (o.inlined tables.metrics)

def Addend.inlined (metrics : Table Binary64) (a : Addend) : Addend :=
  { a with operand := a.operand.inlined metrics }

/-- The statement with a number in place of each name of a metric. -/
def Statement.inlined (tables : Tables View) (s : Statement) : Statement where
  first := s.first.inlined tables.metrics
  relation := s.relation
  second := s.second.inlined tables
  constant := s.constant.map (Addend.inlined tables.metrics)
  priority := s.priority.map (Operand.inlined tables.metrics)

/-- The tables without the metrics. -/
def Tables.withoutMetrics (tables : Tables View) : Tables View := { tables with metrics := .empty }

/-- What a failure says, but for the name that is to blame. -/
def Resolution.Failure.site (f : Failure) : Kind × Span := (f.kind, f.span)

variable {metrics : Table Binary64} {tables tables' : Tables View}

theorem Operand.alike_inlined (metrics : Table Binary64) (o : Operand) :
    o.Alike Failure.site metrics .empty (o.inlined metrics) := by
  cases o with
  | number x span => exact ⟨rfl, fun _ => rfl⟩
  | name n =>
      cases hfind : metrics.find? n.text with
      | none =>
          simp only [inlined, hfind]
          exact ⟨hfind, fun _ => rfl⟩
      | some x =>
          simp only [inlined, hfind]
          exact ⟨hfind, fun _ => rfl⟩

theorem Term.alike_inlined (tables : Tables View) (t : Term) :
    t.Alike Failure.site tables tables.withoutMetrics (t.inlined tables.metrics) where
  object := .refl _ _
  view := rfl
  part := optionRel_self fun n _ => .refl _ n
  multiplier := optionRel_map fun o _ => o.alike_inlined tables.metrics

/-- A name that is no view does not become one. -/
theorem Operand.inlined_eq_name {o : Operand} {n : Name} (h : o.inlined metrics = .name n) :
    o = .name n := by
  cases o with
  | number x span => cases h
  | name n' =>
      cases hfind : metrics.find? n'.text with
      | none =>
          simp only [inlined, hfind] at h
          exact h
      | some x =>
          simp only [inlined, hfind] at h
          cases h

theorem RightSide.alike_inlined (tables : Tables View) (rs : RightSide) :
    rs.Alike Failure.site tables tables.withoutMetrics (rs.inlined tables) := by
  have hvalue : ∀ o : Operand, (∀ n, o = .name n → tables.views.find? n.text = none) →
      RightSide.Alike Failure.site tables tables.withoutMetrics (.value o)
        (.value (o.inlined tables.metrics)) := by
    intro o hnone
    refine .value hnone ?_ (o.alike_inlined tables.metrics)
    intro n hn
    exact hnone n (Operand.inlined_eq_name hn)
  cases rs with
  | term t => exact .term (t.alike_inlined tables)
  | value o =>
      cases o with
      | number x span => exact hvalue (.number x span) nofun
      | name n =>
          cases hview : tables.views.find? n.text with
          | some v =>
              simp only [inlined, hview, Option.isSome_some, if_true]
              exact .view hview hview
          | none =>
              simp only [inlined, hview, Option.isSome_none, Bool.false_eq_true, if_false]
              exact hvalue (.name n) (by simpa using hview)

theorem Addend.alike_inlined (metrics : Table Binary64) (a : Addend) :
    a.Alike Failure.site metrics .empty (a.inlined metrics) :=
  ⟨rfl, a.operand.alike_inlined metrics⟩

namespace Statement

theorem alike_inlined (tables : Tables View) (s : Statement) :
    s.Alike Failure.site tables tables.withoutMetrics (s.inlined tables) where
  first := s.first.alike_inlined tables
  relation := rfl
  second := s.second.alike_inlined tables
  constant := optionRel_map fun a _ => a.alike_inlined tables.metrics
  priority := optionRel_map fun o _ => o.alike_inlined tables.metrics

/-- Without any metrics, the statement into which their values are written is resolved to the same
as the statement with its names.  If it fails, it fails the same check at the same place. -/
theorem resolve_inlined (settings : Settings) (tables : Tables View) (s : Statement) :
    ((s.inlined tables).resolve settings tables.withoutMetrics).mapError Failure.site
      = (s.resolve settings tables).mapError Failure.site :=
  ((s.alike_inlined tables).resolve settings).symm

end Statement

/-- `v = big` -/
def bigStatement : Statement where
  first := ⟨none, ⟨"v", ⟨0, 1⟩⟩, none⟩
  relation := .equal
  second := .value (.name ⟨"big", ⟨4, 7⟩⟩)
  constant := none
  priority := none

/-- The metric is infinite. -/
def bigTables : Tables Nat where
  views := ⟨[("v", 0)]⟩
  metrics := ⟨[("big", .infinity false)]⟩

/-- What is to blame is called by its name or by its value. -/
example : bigStatement.resolve {} bigTables = .error ⟨.nonFiniteValue, "big", ⟨4, 7⟩⟩
    ∧ (bigStatement.inlined bigTables).resolve {} bigTables.withoutMetrics
      = .error ⟨.nonFiniteValue, "inf", ⟨4, 7⟩⟩ := by
  decide +kernel

/-! ## Names and the tables that they are looked up in -/

/-- The name of an operand that is not a number. -/
def Operand.name? : Operand → Option String
  | .number .. => none
  | .name n => some n.text

/-- The operands that can be nothing but numbers: both factors, the addend and the priority. -/
def Statement.numbers (s : Statement) : List Operand :=
  s.first.multiplier.toList ++ s.second.multiplier?.toList
    ++ (s.constant.map (·.operand)).toList ++ s.priority.toList

/-- Two pairs of tables agree on what a statement looks up in them. -/
structure Tables.AgreeFor (s : Statement) (tables tables' : Tables View) : Prop where
  first_view : tables.views.find? s.first.object.text = tables'.views.find? s.first.object.text
  second_view : ∀ n ∈ s.second.objectName?, tables.views.find? n = tables'.views.find? n
  metrics : ∀ n ∈ s.numbers.filterMap Operand.name?,
    tables.metrics.find? n = tables'.metrics.find? n
  /-- As a metric, the bare name on the right matters only if it is no view. -/
  bare : ∀ n : Name, s.second = .value (.name n) → tables.views.find? n.text = none →
    tables.metrics.find? n.text = tables'.metrics.find? n.text

variable {ε : Type} (g : Failure → ε)

theorem Operand.alike_of_agree {metrics metrics' : Table Binary64} {o : Operand}
    (h : ∀ n ∈ o.name?, metrics.find? n = metrics'.find? n) : o.Alike g metrics metrics' o := by
  refine ⟨?_, fun _ => rfl⟩
  cases o with
  | number x span => rfl
  | name n => exact h n.text rfl

namespace Tables.AgreeFor

variable {s : Statement} (h : tables.AgreeFor s tables')
include h

theorem alike_number {o : Operand} (ho : o ∈ s.numbers) :
    o.Alike g tables.metrics tables'.metrics o := by
  refine Operand.alike_of_agree g ?_
  intro n hn
  exact h.metrics n (List.mem_filterMap.mpr ⟨o, ho, hn⟩)

theorem alike_first : s.first.Alike g tables tables' s.first where
  object := .refl g _
  view := h.first_view
  part := optionRel_self fun n _ => .refl g n
  multiplier := optionRel_self fun o ho => h.alike_number g (by simp_all [Statement.numbers])

theorem alike_second : s.second.Alike g tables tables' s.second := by
  have hview := h.second_view
  have hnumber : ∀ o ∈ s.second.multiplier?, o.Alike g tables.metrics tables'.metrics o :=
    fun o ho => h.alike_number g (by simp_all [Statement.numbers])
  have hbare := h.bare
  generalize s.second = rs at hview hnumber hbare ⊢
  cases rs with
  | term t =>
      exact .term
        { object := .refl g _
          view := hview t.object.text rfl
          part := optionRel_self fun n _ => .refl g n
          multiplier := optionRel_self hnumber }
  | value o =>
      cases o with
      | number x span => exact .value nofun nofun ⟨rfl, fun _ => rfl⟩
      | name n =>
          have hagree := hview n.text rfl
          cases hfind : tables.views.find? n.text with
          | some v => exact .view hfind (hagree ▸ hfind)
          | none =>
              have hfind' : tables'.views.find? n.text = none := hagree ▸ hfind
              refine .value (by simpa using hfind) (by simpa using hfind') ?_
              refine Operand.alike_of_agree g ?_
              intro m hm
              cases hm
              exact hbare n rfl hfind

theorem alike : s.Alike g tables tables' s where
  first := h.alike_first g
  relation := rfl
  second := h.alike_second g
  constant := optionRel_self fun a ha => ⟨rfl, h.alike_number g (by simp_all [Statement.numbers])⟩
  priority := optionRel_self fun o ho => h.alike_number g (by simp_all [Statement.numbers])

end Tables.AgreeFor

namespace Statement

/-- A bare name on the right is a view if there is one of that name. -/
theorem second_of_bare {settings : Settings} {s : Statement} {r : Resolution View} {n : Name}
    (hbare : s.second = .value (.name n)) (h : s.resolve settings tables = .ok r) :
    r.second = (tables.views.find? n.text).map fun v => ⟨none, ⟨v, .notAnAttribute⟩⟩ := by
  obtain ⟨side, -, -, hside, -, -, -, -, hsecond⟩ := resolve_eq_ok.mp h
  rw [hbare] at hside
  rw [hsecond]
  cases hside with
  | view hview =>
      rw [hview]
      rfl
  | value hnone =>
      rw [hnone n rfl]
      rfl

/-- Each name is looked up for its slot only: tables that agree on what a statement looks up in them
resolve it to the same, or fail in the same way.  The bare name on the right is looked up as a view,
and what it is as a metric decides nothing if there is a view of that name. -/
theorem resolve_of_agreeFor (settings : Settings) (s : Statement) :
    (∀ tables tables' : Tables View, tables.AgreeFor s tables' →
        s.resolve settings tables = s.resolve settings tables')
      ∧ ∀ (tables : Tables View) (r : Resolution View) (n : Name), s.second = .value (.name n) →
          s.resolve settings tables = .ok r →
          r.second = (tables.views.find? n.text).map fun v => ⟨none, ⟨v, .notAnAttribute⟩⟩ := by
  refine ⟨?_, fun tables r n => second_of_bare⟩
  intro tables tables' h
  have hsame := (h.alike id).resolve settings
  rwa [Outcome.mapError_id, Outcome.mapError_id] at hsame

/-- `k * v.width = s - pad @ high` -/
def crossedStatement : Statement where
  first := ⟨some (.name ⟨"k", ⟨0, 1⟩⟩), ⟨"v", ⟨4, 5⟩⟩, some ⟨"width", ⟨6, 11⟩⟩⟩
  relation := .equal
  second := .value (.name ⟨"s", ⟨14, 15⟩⟩)
  constant := some ⟨.minus, .name ⟨"pad", ⟨18, 21⟩⟩⟩
  priority := some (.name ⟨"high", ⟨24, 28⟩⟩)

def plainTables : Tables Nat where
  views := ⟨[("v", 0), ("s", 1)]⟩
  metrics := ⟨[("k", .ofInt (-2)), ("pad", .ofInt 20), ("high", .ofInt 750)]⟩

/-- Each name stands in both tables. -/
def crossedTables : Tables Nat where
  views := ⟨[("k", 2), ("pad", 3), ("high", 4), ("v", 0), ("s", 1)]⟩
  metrics :=
    ⟨[("v", .nan), ("s", .ofInt 5), ("k", .ofInt (-2)), ("pad", .ofInt 20), ("high", .ofInt 750)]⟩

def crossedResolution : Resolution Nat where
  first := ⟨some (.ofInt (-2)), ⟨0, .width⟩⟩
  relation := .equal
  second := some ⟨none, ⟨1, .notAnAttribute⟩⟩
  constant := some (.ofInt (-20))
  priority := some (.ofInt 750)

theorem resolve_of_agreeFor_crossed :
    plainTables.AgreeFor crossedStatement crossedTables
      ∧ crossedStatement.resolve {} crossedTables = .ok crossedResolution
      ∧ crossedStatement.resolve {} plainTables = crossedStatement.resolve {} crossedTables
      ∧ crossedResolution.second
        = (crossedTables.views.find? "s").map fun v => ⟨none, ⟨v, .notAnAttribute⟩⟩ := by
  have hagree : plainTables.AgreeFor crossedStatement crossedTables :=
    { first_view := by decide
      second_view := by decide
      metrics := by decide +kernel
      bare := by
        intro n hn hnone
        cases hn
        cases hnone }
  have hresolve : crossedStatement.resolve {} crossedTables = .ok crossedResolution := by
    decide +kernel
  exact ⟨hagree, hresolve, (resolve_of_agreeFor {} crossedStatement).1 _ _ hagree,
    (resolve_of_agreeFor {} crossedStatement).2 crossedTables crossedResolution _ rfl hresolve⟩

end Statement

end LayoutLang
