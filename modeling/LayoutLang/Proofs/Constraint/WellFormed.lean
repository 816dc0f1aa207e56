import LayoutLang.Proofs.Binary64.Order
import LayoutLang.Proofs.Compile
import LayoutLang.Proofs.Statement.Written

/-!
# Compiled constraints are well formed

A constraint that can be written in the language has finite numbers, a priority in the range that
the settings allow, no more than a constant on the right if there is no second view, and views whose
names are identifiers.  Compiling a text gives nothing else: the numbers are finite because the
resolution checks every operand, the sum and both quotients (`solvedMultiplier_isFinite`,
`solvedConstant_isFinite`), and the names are identifiers because each is written in the text.

What holds of every compiled constraint, whatever the settings are and however the views are
written, is `Constraint.BuiltFrom`.  It ties the constraint to the statement that the text is.
`Constraint.WellFormed` adds what the settings and the table of views have to see to.
-/

namespace LayoutLang

open Token (IsIdentifier)

variable {View : Type}

/-- What holds for every constraint that a text can describe. -/
structure Constraint.WellFormed [ToString View] (settings : Settings) (c : Constraint View) :
    Prop where
  multiplier_finite : c.multiplier.isFinite = true
  constant_finite : c.constant.isFinite = true
  required_finite : settings.requiredPriority.isFinite = true
  priority_pos : .zero false < c.priority
  priority_le : c.priority ≤ settings.requiredPriority
  alone : c.secondView = none →
    c.secondPart = .notAnAttribute ∧ c.multiplier.sameNumber .one = true
  first_name : IsIdentifier (toString c.first.view).toList
  second_name : ∀ v ∈ c.secondView, IsIdentifier (toString v).toList

theorem Constraint.WellFormed.priority_finite [ToString View] {settings : Settings}
    {c : Constraint View} (h : c.WellFormed settings) : c.priority.isFinite = true :=
  Binary64.isFinite_of_le h.priority_pos h.priority_le h.required_finite

/-! ## Numbers -/

variable {settings : Settings} {tables : Tables View} {s : Statement} {r : Resolution View}

theorem RightSide.isFinite_of_denotes {side : ResolvedSide View} {rs : RightSide}
    (h : rs.Denotes tables side) :
    (∀ i ∈ side.item?, ∀ k ∈ i.multiplier, k.isFinite = true)
      ∧ ∀ x ∈ side.constant?, x.isFinite = true := by
  cases h with
  | term hi =>
      refine ⟨?_, ?_⟩
      · intro i' hi' k hk
        cases hi'
        exact (Term.factor_of_resolve hi hk).1
      · intro x hx
        cases hx
  | view hview =>
      refine ⟨?_, ?_⟩
      · intro i hi k hk
        cases hi
        cases hk
      · intro x hx
        cases hx
  | value hnone hx =>
      refine ⟨?_, ?_⟩
      · intro i hi
        cases hi
      · intro x' hx'
        cases hx'
        exact (Operand.resolve_eq_ok.mp hx).2

namespace Statement

theorem isFinite_of_resolveConstant {metrics : Table Binary64} {base c : Option Binary64}
    {addend : Option Addend} (hbase : ∀ x ∈ base, x.isFinite = true)
    (h : resolveConstant metrics base addend = .ok c) :
    (c.getD (.zero false)).isFinite = true := by
  cases addend with
  | none =>
      obtain rfl := resolveConstant_none.mp h
      cases base with
      | none => rfl
      | some x => exact hbase x rfl
  | some a =>
      obtain ⟨x, -, hsum, rfl⟩ := resolveConstant_some.mp h
      exact hsum

/-- The right factor and the constant are finite before the left factor is divided out. -/
theorem isFinite_of_resolve (h : s.resolve settings tables = .ok r) :
    ((r.second.bind (·.multiplier)).getD .one).isFinite = true
      ∧ (r.constant.getD (.zero false)).isFinite = true := by
  obtain ⟨side, -, -, hside, hconstant, -, -, -, hsecond⟩ := resolve_eq_ok.mp h
  obtain ⟨hitem, hbase⟩ := RightSide.isFinite_of_denotes hside
  refine ⟨?_, isFinite_of_resolveConstant hbase hconstant⟩
  cases hm : r.second.bind (·.multiplier) with
  | none => rfl
  | some k =>
      obtain ⟨i, hi, hk⟩ := Option.bind_eq_some_iff.mp hm
      exact hitem i (hsecond ▸ hi) k hk

/-- They stay finite. -/
theorem isFinite_quotients (h : s.resolve settings tables = .ok r) {k : Binary64}
    (hk : r.first.multiplier = some k) :
    ((r.second.bind (·.multiplier)).getD .one / k).isFinite = true
      ∧ (r.constant.getD (.zero false) / k).isFinite = true := by
  obtain ⟨side, hfirst, -, -, -, hquotients, -, -, -⟩ := resolve_eq_ok.mp h
  obtain ⟨-, o, ho⟩ := Term.factor_of_resolve hfirst hk
  exact checkQuotients_eq_ok.mp hquotients o k ho hk

theorem solvedMultiplier_isFinite (h : s.resolve settings tables = .ok r) :
    r.solvedMultiplier.isFinite = true := by
  cases hk : r.first.multiplier with
  | none =>
      rw [Resolution.solvedMultiplier_undivided hk]
      exact (isFinite_of_resolve h).1
  | some k =>
      have hquotient := (isFinite_quotients h hk).1
      cases hi : r.second with
      | none =>
          rw [Resolution.solvedMultiplier_alone hi]
          exact Binary64.isFinite_one
      | some i =>
          rw [Resolution.solvedMultiplier_divided hk hi]
          rw [hi] at hquotient
          exact hquotient

theorem solvedConstant_isFinite (h : s.resolve settings tables = .ok r) :
    r.solvedConstant.isFinite = true := by
  cases hk : r.first.multiplier with
  | none =>
      rw [Resolution.solvedConstant_undivided hk]
      exact (isFinite_of_resolve h).2
  | some k =>
      rw [Resolution.solvedConstant_divided hk]
      exact (isFinite_quotients h hk).2

/-- A priority is given if the statement has one; it is the one that is written, and in range. -/
theorem priority_rel_of_resolve (h : s.resolve settings tables = .ok r) :
    Option.Rel (fun o p => o.resolve tables.metrics = .ok p
      ∧ .zero false < p ∧ p ≤ settings.requiredPriority) s.priority r.priority := by
  obtain ⟨side, -, -, -, -, -, hpriority, -, -⟩ := resolve_eq_ok.mp h
  cases ho : s.priority with
  | none =>
      rw [ho] at hpriority
      rw [← resolvePriority_none.mp hpriority]
      exact .none
  | some o =>
      rw [ho] at hpriority
      obtain ⟨p, hp, hrange, hsome⟩ := resolvePriority_some.mp hpriority
      rw [← hsome]
      exact .some ⟨hp, hrange⟩

/-- A priority that is given is in range. -/
theorem priority_of_resolve (h : s.resolve settings tables = .ok r) :
    ∀ p ∈ r.priority, .zero false < p ∧ p ≤ settings.requiredPriority := by
  intro p hp
  have hrel := priority_rel_of_resolve h
  rw [hp] at hrel
  obtain ⟨o, -, -, hrange⟩ := optionRel_some_right hrel
  exact hrange

end Statement

/-- Without a second item there is nothing that a factor could scale. -/
theorem Constraint.ofResolution_alone (hnone : r.second = none) :
    (ofResolution settings r).secondPart = .notAnAttribute
      ∧ (ofResolution settings r).multiplier = .one := by
  refine ⟨?_, Resolution.solvedMultiplier_alone hnone⟩
  simp only [ofResolution, hnone, Option.map_none, Option.getD_none]

theorem Constraint.ofResolution_priority (h : s.resolve settings tables = .ok r)
    (hrequired : settings.requiredPriority.isFinite = true)
    (hpos : .zero false < settings.requiredPriority) :
    .zero false < (ofResolution settings r).priority
      ∧ (ofResolution settings r).priority ≤ settings.requiredPriority := by
  show .zero false < r.priority.getD _ ∧ r.priority.getD _ ≤ _
  cases hp : r.priority with
  | none => exact ⟨hpos, (Binary64.le_iff hrequired hrequired).mpr le_rfl⟩
  | some p => exact Statement.priority_of_resolve h p hp

/-! ## Names -/

theorem RightSide.Written.isIdentifier {text : List Char} {rs : RightSide} (h : rs.Written text) :
    ∀ n ∈ rs.objectName?, IsIdentifier n.toList := by
  intro n hn
  cases rs with
  | term t =>
      cases hn
      exact h.object.identifier
  | value o =>
      cases o with
      | number x span => cases hn
      | name m =>
          cases hn
          exact h.identifier

/-- The view on the right is what the table has under that name. -/
theorem RightSide.view_of_denotes {rs : RightSide} {side : ResolvedSide View} (h : rs.Denotes tables side) :
    side.item?.map (·.item.view) = rs.objectName?.bind tables.views.find? := by
  cases h with
  | term hterm => exact (Term.resolve_eq_ok.mp hterm).1.symm
  | view hview => exact hview.symm
  | @value o x hnone _ =>
      cases o with
      | number y span => rfl
      | name n => exact (hnone n rfl).symm

/-! ## From a statement to its constraint -/

/-- What holds for every constraint of a statement. -/
structure Constraint.BuiltFrom (settings : Settings) (tables : Tables View) (s : Statement)
    (c : Constraint View) : Prop where
  multiplier_finite : c.multiplier.isFinite = true
  constant_finite : c.constant.isFinite = true
  priority_given : ∀ o ∈ s.priority, o.value? tables.metrics = some c.priority
    ∧ .zero false < c.priority ∧ c.priority ≤ settings.requiredPriority
    ∧ c.priority.isFinite = true
  priority_default : s.priority = none → c.priority = settings.requiredPriority
  first_view : tables.views.find? s.first.object.text = some c.first.view
  second_view : c.secondView = s.second.objectName?.bind tables.views.find?
  alone : c.secondView = none → c.secondPart = .notAnAttribute ∧ c.multiplier = .one

theorem Constraint.builtFrom_ofResolution (h : s.resolve settings tables = .ok r) :
    (Constraint.ofResolution settings r).BuiltFrom settings tables s := by
  obtain ⟨side, hfirst, -, hside, -, -, -, -, hsecond⟩ := Statement.resolve_eq_ok.mp h
  have hpriority := Statement.priority_rel_of_resolve h
  refine
    { multiplier_finite := Statement.solvedMultiplier_isFinite h
      constant_finite := Statement.solvedConstant_isFinite h
      priority_given := ?_
      priority_default := ?_
      first_view := (Term.resolve_eq_ok.mp hfirst).1
      second_view := ?_
      alone := ?_ }
  · intro o ho
    rw [ho] at hpriority
    obtain ⟨p, hp, hresolve, hpos, hle⟩ := optionRel_some_left hpriority
    obtain ⟨hvalue, hfinite⟩ := Operand.resolve_eq_ok.mp hresolve
    have hbuilt : (Constraint.ofResolution settings r).priority = p := by
      show r.priority.getD _ = p
      rw [hp, Option.getD_some]
    rw [hbuilt]
    exact ⟨hvalue, hpos, hle, hfinite⟩
  · intro hnone
    rw [hnone] at hpriority
    show r.priority.getD _ = _
    rw [optionRel_none_left hpriority, Option.getD_none]
  · show r.second.map _ = _
    rw [hsecond]
    exact RightSide.view_of_denotes hside
  · intro hnone
    exact Constraint.ofResolution_alone (Option.map_eq_none_iff.mp hnone)

/-- Whatever compiles, the constraint has finite numbers, the priority that is written or the
required one, and the views that are named, and no more than a constant where no view is. -/
theorem builtFrom_of_compile {text : String} {c : Constraint View}
    (h : compile settings tables text = .ok c) :
    ∃ s, Statement.ofText text = .ok s ∧ c.BuiltFrom settings tables s := by
  obtain ⟨tokens, s, r, htokens, hs, hresolve, rfl⟩ := compile_eq_ok.mp h
  exact ⟨s, Statement.ofText_eq_ok.mpr ⟨tokens, htokens, hs⟩,
    Constraint.builtFrom_ofResolution hresolve⟩

/-- Handles that are not the names, and metrics that are not all finite. -/
def scaledTables : Tables Nat where
  views := ⟨[("v", 7), ("s", 9)]⟩
  metrics := ⟨[("k", .ofInt (-2)), ("p", .ofInt 250), ("s", .nan), ("big", .infinity false)]⟩

/-- A constraint without a second view, and with a priority that is given. -/
def scaledConstant : Constraint Nat where
  first := ⟨7, .width⟩
  relation := .greaterOrEqual
  secondView := none
  secondPart := .notAnAttribute
  multiplier := .one
  constant := .ofInt (-4)
  priority := .ofInt 250

theorem builtFrom_of_compile_scaledConstant :
    compile {} scaledTables "k * v.width <= 5 + 3 @ p" = .ok scaledConstant
      ∧ ∃ s, Statement.ofText "k * v.width <= 5 + 3 @ p" = .ok s
        ∧ scaledConstant.BuiltFrom {} scaledTables s := by
  have hcompile : compile {} scaledTables "k * v.width <= 5 + 3 @ p" = .ok scaledConstant := by
    decide +kernel
  exact ⟨hcompile, builtFrom_of_compile hcompile⟩

/-! ## Tables of views -/

theorem Table.mem_of_findIn? {name : String} {v : View} {entries : List (String × View)}
    (h : Table.findIn? name entries = some v) : (name, v) ∈ entries := by
  induction entries with
  | nil => cases h
  | cons e entries ih =>
      obtain ⟨key, w⟩ := e
      rw [Table.findIn?] at h
      cases hfind : Table.findIn? name entries with
      | some w' =>
          rw [hfind] at h
          exact List.mem_cons_of_mem _ (ih (hfind.trans h))
      | none =>
          rw [hfind] at h
          obtain ⟨rfl, rfl⟩ : key = name ∧ w = v := by simpa using h
          exact List.mem_cons_self

variable [ToString View]

/-- Every view has the name that it is written with. -/
def Table.SelfNamed (views : Table View) : Prop := ∀ n v, views.find? n = some v → toString v = n

/-- It is enough that each entry was made so. -/
theorem Table.selfNamed_of_entries {views : Table View}
    (h : ∀ e ∈ views.entries, toString e.2 = e.1) : views.SelfNamed := by
  intro n v hfind
  exact h (n, v) (Table.mem_of_findIn? hfind)

/-! ## Compiled texts -/

/-- The names of the views are identifiers, and stand for the views in the table. -/
theorem named_of_compile {text : String} {c : Constraint View} (hnamed : tables.views.SelfNamed)
    (h : compile settings tables text = .ok c) :
    (IsIdentifier (toString c.first.view).toList
        ∧ tables.views.find? (toString c.first.view) = some c.first.view)
      ∧ ∀ v ∈ c.secondView, IsIdentifier (toString v).toList
        ∧ tables.views.find? (toString v) = some v := by
  obtain ⟨tokens, s, r, htokens, hs, hresolve, rfl⟩ := compile_eq_ok.mp h
  have hwritten := Statement.written_of_isStatement hs (Token.readFrom_of_tokenize htokens)
  have hbuilt := Constraint.builtFrom_ofResolution hresolve
  constructor
  · rw [hnamed _ _ hbuilt.first_view]
    exact ⟨hwritten.first.object.identifier, hbuilt.first_view⟩
  · intro v hv
    rw [hbuilt.second_view] at hv
    obtain ⟨n, hn, hfind⟩ := Option.bind_eq_some_iff.mp hv
    rw [hnamed n v hfind]
    exact ⟨hwritten.second.isIdentifier n hn, hfind⟩

/-- What compiles is well formed, and its views are in the table under their names. -/
theorem wellFormed_of_compile {text : String} {c : Constraint View}
    (hnamed : tables.views.SelfNamed) (hrequired : settings.requiredPriority.isFinite = true)
    (hpos : .zero false < settings.requiredPriority)
    (h : compile settings tables text = .ok c) :
    c.WellFormed settings ∧ tables.views.find? (toString c.first.view) = some c.first.view
      ∧ ∀ v ∈ c.secondView, tables.views.find? (toString v) = some v := by
  obtain ⟨⟨hn, hfind⟩, hsecond⟩ := named_of_compile hnamed h
  obtain ⟨_, s, r, -, -, hresolve, rfl⟩ := compile_eq_ok.mp h
  obtain ⟨hpriority, hle⟩ := Constraint.ofResolution_priority hresolve hrequired hpos
  have hformed : (Constraint.ofResolution settings r).WellFormed settings :=
    { multiplier_finite := Statement.solvedMultiplier_isFinite hresolve
      constant_finite := Statement.solvedConstant_isFinite hresolve
      required_finite := hrequired
      priority_pos := hpriority
      priority_le := hle
      alone := by
        intro hnone
        obtain ⟨hpart, hone⟩ := Constraint.ofResolution_alone (Option.map_eq_none_iff.mp hnone)
        exact ⟨hpart, by rw [hone]; exact Binary64.sameNumber_refl rfl⟩
      first_name := hn
      second_name := fun v hv => (hsecond v hv).1 }
  exact ⟨hformed, hfind, fun v hv => (hsecond v hv).2⟩

end LayoutLang
