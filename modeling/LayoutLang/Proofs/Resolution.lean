import LayoutLang.Proofs.Outcome
import LayoutLang.Resolution
import Mathlib.Data.Option.Basic

/-!
# When a statement is resolved

Each check of the resolution is opened here once: it succeeds exactly on what its lemma says, and
gives exactly the result that the lemma names.  `Statement.resolveWith_eq_ok` puts the checks
together, whatever its two open links are, and `Statement.resolve_eq_ok` is the case of the checks
that a resolution makes there.  Whatever is proved about resolved statements starts from these two
and never opens the chain of checks again.
-/

namespace LayoutLang

variable {View : Type} {tables : Tables View} {metrics : Table Binary64}

/-! ## Slots that may be empty -/

theorem optionRel_map {α β : Type} {r : α → β → Prop} {f : α → β} {m : Option α}
    (h : ∀ a ∈ m, r a (f a)) : Option.Rel r m (m.map f) := by
  cases m with
  | none => exact .none
  | some a => exact .some (h a rfl)

theorem optionRel_self {α : Type} {r : α → α → Prop} {m : Option α} (h : ∀ a ∈ m, r a a) :
    Option.Rel r m m := by
  cases m with
  | none => exact .none
  | some a => exact .some (h a rfl)

theorem optionRel_none_left {α β : Type} {r : α → β → Prop} {m : Option β}
    (h : Option.Rel r none m) : m = none := by
  cases h
  rfl

theorem optionRel_some_left {α β : Type} {r : α → β → Prop} {a : α} {m : Option β}
    (h : Option.Rel r (some a) m) : ∃ b, m = some b ∧ r a b := by
  cases h with
  | some hab => exact ⟨_, rfl, hab⟩

theorem optionRel_some_right {α β : Type} {r : α → β → Prop} {b : β} {m : Option α}
    (h : Option.Rel r m (some b)) : ∃ a, m = some a ∧ r a b := by
  cases h with
  | some hab => exact ⟨_, rfl, hab⟩

/-! ## Operands and terms -/

/-- What an operand stands for, if its name is known. -/
def Operand.value? (metrics : Table Binary64) : Operand → Option Binary64
  | .number x _ => some x
  | .name n => metrics.find? n.text

/-- The attribute that a term speaks of, if its name is one. -/
def Term.attribute? (t : Term) : Option Attribute :=
  match t.part with
  | none => some .notAnAttribute
  | some n => Attribute.ofName? n.text

/-- An operand is looked up, and then it has to be finite. -/
theorem Operand.resolve_eq (o : Operand) :
    o.resolve metrics = (do
      let x ← Outcome.ofOption (.ofOperand .unknownMetric o) (o.value? metrics)
      if x.isFinite then .ok x else .error (.ofOperand .nonFiniteValue o)) := by
  cases o with
  | number x span => rfl
  | name n =>
      simp only [Operand.resolve, Operand.value?]
      cases metrics.find? n.text <;> rfl

/-- The view of a term is looked up, then its attribute, then its factor is resolved. -/
theorem Term.resolve_eq (t : Term) :
    t.resolve tables = (do
      let view ← Outcome.ofOption (.ofName .unknownView t.object)
        (tables.views.find? t.object.text)
      let part ← t.part.elim (.ok .notAnAttribute) fun n =>
        Outcome.ofOption (.ofName .unknownAttribute n) (Attribute.ofName? n.text)
      let multiplier ← t.multiplier.elim (.ok none) fun o => (o.resolve tables.metrics).map some
      .ok ⟨multiplier, ⟨view, part⟩⟩) := by
  obtain ⟨multiplier, object, part⟩ := t
  simp only [Term.resolve]
  cases tables.views.find? object.text with
  | none => rfl
  | some view =>
      cases part with
      | none => cases multiplier <;> rfl
      | some n =>
          simp only [Option.elim_some]
          cases Attribute.ofName? n.text <;> cases multiplier <;> rfl

/-- An operand is resolved to what it stands for if that is finite. -/
theorem Operand.resolve_eq_ok {o : Operand} {x : Binary64} :
    o.resolve metrics = .ok x ↔ o.value? metrics = some x ∧ x.isFinite = true := by
  simp only [resolve_eq, Outcome.bind_eq_ok, Outcome.ofOption_eq_ok, Outcome.check_eq_ok]
  constructor
  · rintro ⟨y, hy, hfinite, rfl⟩
    exact ⟨hy, hfinite⟩
  · rintro ⟨hx, hfinite⟩
    exact ⟨x, hx, hfinite, rfl⟩

theorem Term.attribute_eq_ok {t : Term} {a : Attribute} :
    (t.part.elim (.ok .notAnAttribute) fun n =>
      Outcome.ofOption (Resolution.Failure.ofName .unknownAttribute n) (Attribute.ofName? n.text))
        = .ok a
      ↔ t.attribute? = some a := by
  unfold attribute?
  cases t.part with
  | none =>
      constructor
      · intro h
        exact congrArg some (Except.ok.inj h)
      · intro h
        exact congrArg Except.ok (Option.some.inj h)
  | some n => exact Outcome.ofOption_eq_ok

/-- The factor of a term, if there is one, is resolved. -/
theorem Term.factor_eq_ok {m : Option Operand} {k : Option Binary64} :
    (m.elim (.ok none) fun o => (o.resolve metrics).map some) = .ok k
      ↔ Option.Rel (fun o x => o.resolve metrics = .ok x) m k := by
  cases m with
  | none =>
      constructor
      · intro h
        cases h
        exact .none
      · intro h
        cases h
        rfl
  | some o =>
      constructor
      · intro h
        obtain ⟨x, hx, rfl⟩ := Outcome.map_eq_ok.mp h
        exact .some hx
      · intro h
        cases h with
        | some hx => exact Outcome.map_eq_ok.mpr ⟨_, hx, rfl⟩

/-- A term is resolved if all its names are known and its factor, if there is one, is finite. -/
theorem Term.resolve_eq_ok {t : Term} {i : ScaledItem View} :
    t.resolve tables = .ok i ↔ tables.views.find? t.object.text = some i.item.view
      ∧ t.attribute? = some i.item.part
      ∧ Option.Rel (fun o k => o.resolve tables.metrics = .ok k) t.multiplier i.multiplier := by
  simp only [resolve_eq, Outcome.bind_eq_ok, Outcome.ofOption_eq_ok, attribute_eq_ok, factor_eq_ok]
  constructor
  · rintro ⟨view, hview, part, hpart, k, hk, h⟩
    cases h
    exact ⟨hview, hpart, hk⟩
  · rintro ⟨hview, hpart, hk⟩
    exact ⟨_, hview, _, hpart, _, hk, rfl⟩

/-- The factor of a resolved term is finite, and comes from an operand. -/
theorem Term.factor_of_resolve {t : Term} {i : ScaledItem View} (h : t.resolve tables = .ok i)
    {k : Binary64} (hk : i.multiplier = some k) :
    k.isFinite = true ∧ ∃ o, t.multiplier = some o := by
  have hrel := (Term.resolve_eq_ok.mp h).2.2
  rw [hk] at hrel
  obtain ⟨o, ho, hresolve⟩ := optionRel_some_right hrel
  exact ⟨(Operand.resolve_eq_ok.mp hresolve).2, o, ho⟩

/-! ## The right side -/

/-- The name that a right side may look up as a view. -/
def RightSide.objectName? : RightSide → Option String
  | .term t => some t.object.text
  | .value (.name n) => some n.text
  | .value (.number ..) => none

/-- The factor on the right, if there is one. -/
def RightSide.multiplier? : RightSide → Option Operand
  | .term t => t.multiplier
  | .value _ => none

/-- What a right side is resolved to: a bare name is a view if there is one of that name, and
otherwise a number like all other values. -/
inductive RightSide.Denotes (tables : Tables View) : RightSide → ResolvedSide View → Prop
  | term {t : Term} {i : ScaledItem View} : t.resolve tables = .ok i →
      RightSide.Denotes tables (.term t) (.item i)
  | view {n : Name} {v : View} : tables.views.find? n.text = some v →
      RightSide.Denotes tables (.value (.name n)) (.item ⟨none, ⟨v, .notAnAttribute⟩⟩)
  | value {o : Operand} {x : Binary64} : (∀ n, o = .name n → tables.views.find? n.text = none) →
      o.resolve tables.metrics = .ok x → RightSide.Denotes tables (.value o) (.constant x)

/-- A value that is no view is a number. -/
theorem RightSide.resolve_value {o : Operand}
    (hnone : ∀ n, o = .name n → tables.views.find? n.text = none) :
    (RightSide.value o).resolve tables = (o.resolve tables.metrics).map .constant := by
  cases o with
  | number x span => rfl
  | name n => simp only [RightSide.resolve, hnone n rfl]

theorem RightSide.resolve_eq_ok {s : RightSide} {side : ResolvedSide View} :
    s.resolve tables = .ok side ↔ s.Denotes tables side := by
  constructor
  · intro h
    cases s with
    | term t =>
        obtain ⟨i, hi, rfl⟩ := Outcome.map_eq_ok.mp h
        exact .term hi
    | value o =>
        cases o with
        | number x span =>
            obtain ⟨y, hy, rfl⟩ := Outcome.map_eq_ok.mp h
            refine .value ?_ hy
            intro n hn
            cases hn
        | name n =>
            cases hview : tables.views.find? n.text with
            | some v =>
                simp only [RightSide.resolve, hview] at h
                cases h
                exact .view hview
            | none =>
                simp only [RightSide.resolve, hview] at h
                obtain ⟨y, hy, rfl⟩ := Outcome.map_eq_ok.mp h
                refine .value ?_ hy
                intro n' hn
                cases hn
                exact hview
  · intro h
    cases h with
    | term hi => exact Outcome.map_eq_ok.mpr ⟨_, hi, rfl⟩
    | view hview => simp only [RightSide.resolve, hview]
    | @value o x hnone hx =>
        have hmap : (o.resolve tables.metrics).map ResolvedSide.constant
            = .ok (.constant x : ResolvedSide View) := Outcome.map_eq_ok.mpr ⟨x, hx, rfl⟩
        cases o with
        | number y span => exact hmap
        | name n => simpa only [RightSide.resolve, hnone n rfl] using hmap

namespace Statement

/-! ## Checks -/

variable {s : Statement} {first : ScaledItem View} {second : Option (ScaledItem View)}

theorem checkFactor_eq_ok :
    s.checkFactor first = .ok () ↔ ∀ o k, s.first.multiplier = some o → first.multiplier = some k →
      k.sameNumber (.zero false) = false := by
  unfold checkFactor
  split
  · next o k ho hk =>
    constructor
    · intro h o' k' ho' hk'
      obtain rfl : k = k' := Option.some.inj (hk.symm.trans hk')
      cases hzero : k.sameNumber (.zero false) with
      | false => rfl
      | true =>
        rw [hzero] at h
        cases h
    · intro h
      rw [h o k ho hk]
      rfl
  · next hnot =>
    constructor
    · intro _ o k ho hk
      exact absurd hk (hnot o k ho)
    · intro _
      rfl

theorem checkQuotients_eq_ok {constant : Option Binary64} :
    s.checkQuotients first second constant = .ok () ↔
      ∀ o k, s.first.multiplier = some o → first.multiplier = some k →
        ((second.bind (·.multiplier)).getD .one / k).isFinite = true
          ∧ (constant.getD (.zero false) / k).isFinite = true := by
  unfold checkQuotients
  split
  · next o k ho hk =>
    rw [Outcome.check_eq_ok, Bool.and_eq_true]
    constructor
    · rintro ⟨h, -⟩ o' k' ho' hk'
      obtain rfl : k = k' := Option.some.inj (hk.symm.trans hk')
      exact h
    · intro h
      exact ⟨h o k ho hk, rfl⟩
  · next hnot =>
    constructor
    · intro _ o k ho hk
      exact absurd hk (hnot o k ho)
    · intro _
      rfl

/-- Without a left factor there is nothing to divide by. -/
theorem checkFactor_of_none (hk : first.multiplier = none) : s.checkFactor first = .ok () := by
  refine checkFactor_eq_ok.mpr ?_
  intro o k _ hsome
  rw [hk] at hsome
  cases hsome

theorem checkQuotients_of_none {constant : Option Binary64} (hk : first.multiplier = none) :
    s.checkQuotients first second constant = .ok () := by
  refine checkQuotients_eq_ok.mpr ?_
  intro o k _ hsome
  rw [hk] at hsome
  cases hsome

theorem resolveConstant_none {base c : Option Binary64} :
    resolveConstant metrics base none = .ok c ↔ base = c :=
  ⟨Except.ok.inj, congrArg Except.ok⟩

theorem resolveConstant_some {base c : Option Binary64} {a : Addend} :
    resolveConstant metrics base (some a) = .ok c ↔ ∃ x, a.resolve metrics = .ok x
      ∧ (base.getD (.zero false) + x).isFinite = true
      ∧ some (base.getD (.zero false) + x) = c := by
  simp only [resolveConstant, Outcome.bind_eq_ok, Outcome.check_eq_ok]

theorem resolvePriority_none {settings : Settings} {p : Option Binary64} :
    resolvePriority settings metrics none = .ok p ↔ none = p :=
  ⟨Except.ok.inj, congrArg Except.ok⟩

theorem resolvePriority_some {settings : Settings} {p : Option Binary64} {o : Operand} :
    resolvePriority settings metrics (some o) = .ok p ↔ ∃ x, o.resolve metrics = .ok x
      ∧ (.zero false < x ∧ x ≤ settings.requiredPriority) ∧ some x = p := by
  simp only [resolvePriority, Outcome.bind_eq_ok, Outcome.check_eq_ok]

/-! ## The whole statement -/

/-- The chain of checks succeeds if each of its links does, the two open ones included. -/
theorem resolveWith_eq_ok {quotients : ScaledItem View → Option (ScaledItem View) →
    Option Binary64 → Except Resolution.Failure Unit}
    {priority : Except Resolution.Failure (Option Binary64)} {r : Resolution View} :
    s.resolveWith quotients priority tables = .ok r ↔
      ∃ side, s.first.resolve tables = .ok r.first
        ∧ s.checkFactor r.first = .ok ()
        ∧ s.second.Denotes tables side
        ∧ resolveConstant tables.metrics side.constant? s.constant = .ok r.constant
        ∧ quotients r.first r.second r.constant = .ok ()
        ∧ priority = .ok r.priority
        ∧ r.relation = s.relation ∧ r.second = side.item? := by
  simp only [resolveWith, Outcome.bind_eq_ok, RightSide.resolve_eq_ok]
  constructor
  · rintro ⟨first, hfirst, _, hfactor, side, hside, c, hc, _, hquotients, p, hp, h⟩
    cases h
    exact ⟨side, hfirst, hfactor, hside, hc, hquotients, hp, rfl, rfl⟩
  · rintro ⟨side, hfirst, hfactor, hside, hc, hquotients, hp, hrelation, hsecond⟩
    obtain ⟨first, relation, second, c, p⟩ := r
    cases hrelation
    cases hsecond
    exact ⟨first, hfirst, (), hfactor, side, hside, c, hc, (), hquotients, p, hp, rfl⟩

/-- A statement is resolved if each of its parts is and all checks succeed. -/
theorem resolve_eq_ok {settings : Settings} {r : Resolution View} :
    s.resolve settings tables = .ok r ↔ ∃ side, s.first.resolve tables = .ok r.first
      ∧ s.checkFactor r.first = .ok ()
      ∧ s.second.Denotes tables side
      ∧ resolveConstant tables.metrics side.constant? s.constant = .ok r.constant
      ∧ s.checkQuotients r.first r.second r.constant = .ok ()
      ∧ resolvePriority settings tables.metrics s.priority = .ok r.priority
      ∧ r.relation = s.relation ∧ r.second = side.item? :=
  resolveWith_eq_ok

end Statement

end LayoutLang
