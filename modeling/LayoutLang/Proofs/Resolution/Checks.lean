import LayoutLang.Proofs.Resolution

/-!
# Which check a resolution reports

A statement is checked slot by slot: first the term on the left, then the right side, the addend,
the quotients by the left factor, and the priority.  `Statement.checks` lists the checks in this
order, each with what it asks for and what is reported if it fails.  The list is read off the
statement and the tables alone; no check knows of the outcome of another.

The resolution goes through this list and stops at the first check that fails (`Makes`).  So it
succeeds exactly if all of them pass, and otherwise reports the first that does not.
-/

namespace LayoutLang

open Resolution (Failure Kind)

variable {View : Type}

/-! ## Checks -/

namespace Resolution

/-- Something that has to hold, and what is reported if it does not. -/
structure Check where
  Passes : Prop
  failure : Failure

/-- The check of a list that is reported: those before it pass, and it does not. -/
def FirstFailing (checks : List Check) (f : Failure) : Prop :=
  ∃ before c after, checks = before ++ c :: after ∧ (∀ d ∈ before, d.Passes) ∧ ¬ c.Passes
    ∧ c.failure = f

end Resolution

open Resolution (Check FirstFailing)

/-- The value of an operand is as it should be.  This asks nothing of a name that stands for
nothing: that it is known is checked earlier in every list. -/
def Operand.check (metrics : Table Binary64) (kind : Kind) (o : Operand) (p : Binary64 → Prop) :
    Check :=
  ⟨∀ x ∈ o.value? metrics, p x, .ofOperand kind o⟩

/-- An operand is a number or the name of a metric, and it is finite. -/
def Operand.checks (metrics : Table Binary64) (o : Operand) : List Check :=
  [⟨(o.value? metrics).isSome, .ofOperand .unknownMetric o⟩,
    o.check metrics .nonFiniteValue fun x => x.isFinite]

/-- The view of a term, then its attribute, then its factor. -/
def Term.checks (tables : Tables View) (t : Term) : List Check :=
  ⟨(tables.views.find? t.object.text).isSome, .ofName .unknownView t.object⟩
    :: (t.part.elim [] (fun n => [⟨∃ a : Attribute, a.name = n.text, .ofName .unknownAttribute n⟩])
      ++ t.multiplier.elim [] (Operand.checks tables.metrics))

/-- A bare name that is a view needs no check. -/
def RightSide.checks (tables : Tables View) : RightSide → List Check
  | .term t => t.checks tables
  | .value (.name n) =>
    if (tables.views.find? n.text).isSome then [] else (Operand.name n).checks tables.metrics
  | .value o => o.checks tables.metrics

/-! ### Numbers that are computed from several slots

Where a name stands for nothing these are arbitrary: an earlier check has failed then. -/

/-- The number on the right; 0 if a view stands there. -/
def RightSide.number (tables : Tables View) : RightSide → Binary64
  | .term _ => .zero false
  | .value (.name n) =>
    if (tables.views.find? n.text).isSome then .zero false
    else (tables.metrics.find? n.text).getD (.zero false)
  | .value (.number x _) => x

/-- The factor on the right; 1 if none is given. -/
def RightSide.factor (metrics : Table Binary64) : RightSide → Binary64
  | .term t => (t.multiplier.bind (Operand.value? metrics)).getD .one
  | .value _ => .one

/-- A number with the sign of an addend. -/
def Sign.apply : Sign → Binary64 → Binary64
  | .plus, x => x
  | .minus, x => -x

namespace Statement

/-- The number on the right and the addend, added up. -/
def constantNumber (tables : Tables View) (s : Statement) : Binary64 :=
  match s.constant with
  | none => s.second.number tables
  | some a =>
    s.second.number tables
      + a.sign.apply ((a.operand.value? tables.metrics).getD (.zero false))

/-- The left factor is neither of the two zeros. -/
def factorChecks (metrics : Table Binary64) (s : Statement) : List Check :=
  s.first.multiplier.elim [] fun o =>
    [o.check metrics .zeroMultiplier fun k => k ≠ .zero false ∧ k ≠ .zero true]

/-- The addend, and then its sum with the number on the right. -/
def constantChecks (tables : Tables View) (s : Statement) : List Check :=
  s.constant.elim [] fun a =>
    a.operand.checks tables.metrics
      ++ [a.operand.check tables.metrics .nonFiniteValue fun x =>
        (s.second.number tables + a.sign.apply x).isFinite]

/-- The right side stays finite when the left factor is divided out. -/
def quotientChecks (tables : Tables View) (s : Statement) : List Check :=
  s.first.multiplier.elim [] fun o =>
    [o.check tables.metrics .nonFiniteValue fun k =>
      (s.second.factor tables.metrics / k).isFinite ∧ (s.constantNumber tables / k).isFinite]

/-- The priority is a number in the range that the settings allow. -/
def priorityChecks (settings : Settings) (metrics : Table Binary64) (s : Statement) : List Check :=
  s.priority.elim [] fun o =>
    o.checks metrics
      ++ [o.check metrics .invalidPriority fun p =>
        .zero false < p ∧ p ≤ settings.requiredPriority]

/-- All checks of a statement, in the order in which they are made. -/
def checks (settings : Settings) (tables : Tables View) (s : Statement) : List Check :=
  s.first.checks tables ++ (s.factorChecks tables.metrics ++ (s.second.checks tables
    ++ (s.constantChecks tables ++ (s.quotientChecks tables
      ++ s.priorityChecks settings tables.metrics))))

end Statement

/-! ## Making checks one after another -/

namespace Resolution

/-- A computation makes some checks in order.  It ends with the failure of the first that does not
pass or, if all of them pass, with a result as it should be. -/
inductive Makes {α : Type} (result : α → Prop) : List Check → Except Failure α → Prop
  | done {a : α} : result a → Makes result [] (.ok a)
  | pass {c : Check} {cs : List Check} {x : Except Failure α} :
      c.Passes → Makes result cs x → Makes result (c :: cs) x
  | fail {c : Check} {cs : List Check} : ¬ c.Passes → Makes result (c :: cs) (.error c.failure)

variable {α β : Type} {p : α → Prop} {q : β → Prop} {cs ds : List Check} {x : Except Failure α}

/-- Checks of a computation that goes on with the result of another. -/
theorem Makes.bind {f : α → Except Failure β} (h : Makes p cs x)
    (hf : ∀ a, p a → Makes q ds (f a)) : Makes q (cs ++ ds) (x >>= f) := by
  induction h with
  | done ha => exact hf _ ha
  | pass hc _ ih => exact .pass hc ih
  | fail hc => exact .fail hc

theorem Makes.map {f : α → β} (h : Makes p cs x) (hf : ∀ a, p a → q (f a)) :
    Makes q cs (x.map f) := by
  induction h with
  | done ha => exact .done (hf _ ha)
  | pass hc _ ih => exact .pass hc ih
  | fail hc => exact .fail hc

/-- A single check, made by a test. -/
theorem Makes.test {b : Prop} [Decidable b] {a : α} {c : Check} (hb : b ↔ c.Passes) (ha : p a) :
    Makes p [c] (if b then .ok a else .error c.failure) := by
  by_cases h : b
  · rw [if_pos h]
    exact .pass (hb.mp h) (.done ha)
  · rw [if_neg h]
    exact .fail fun hc => h (hb.mpr hc)

/-- A single check, made by looking something up. -/
theorem Makes.lookup {m : Option α} {c : Check} (hm : m.isSome ↔ c.Passes) (ha : ∀ a ∈ m, p a) :
    Makes p [c] (Outcome.ofOption c.failure m) := by
  cases m with
  | none => exact .fail fun hc => nomatch hm.mpr hc
  | some a => exact .pass (hm.mp rfl) (.done (ha a rfl))

/-- A result that is had is as it should be. -/
theorem Makes.result_of_ok (h : Makes p cs x) {a : α} (hx : x = .ok a) : p a := by
  induction h with
  | done hb => exact Except.ok.inj hx ▸ hb
  | pass _ _ ih => exact ih hx
  | fail _ => cases hx

theorem Makes.exists_ok_iff (h : Makes p cs x) : (∃ a, x = .ok a) ↔ ∀ c ∈ cs, c.Passes := by
  induction h with
  | done _ => simp
  | pass hc _ ih => simp [hc, ih]
  | fail hc => simp [hc]

theorem Makes.eq_error_iff (h : Makes p cs x) {f : Failure} :
    x = .error f ↔ FirstFailing cs f := by
  induction h with
  | done _ => simp [FirstFailing]
  | @pass c cs x hc _ ih =>
      -- A check that passes cannot be the one that is reported, so it belongs to those before it.
      rw [ih]
      constructor
      · rintro ⟨before, d, after, rfl, hbefore, hd, hf⟩
        exact ⟨c :: before, d, after, rfl, by simpa [hc] using hbefore, hd, hf⟩
      · rintro ⟨before, d, after, heq, hbefore, hd, hf⟩
        cases before with
        | nil =>
            obtain ⟨rfl, rfl⟩ := List.cons.inj heq
            exact absurd hc hd
        | cons b before =>
            obtain ⟨rfl, rfl⟩ := List.cons.inj heq
            exact ⟨before, d, after, rfl, fun d' hd' => hbefore d' (List.mem_cons_of_mem _ hd'), hd,
              hf⟩
  | @fail c cs hc =>
      constructor
      · intro h
        exact ⟨[], c, cs, rfl, by simp, hc, Except.error.inj h⟩
      · rintro ⟨before, d, after, heq, hbefore, hd, rfl⟩
        cases before with
        | nil =>
            obtain ⟨rfl, rfl⟩ := List.cons.inj heq
            rfl
        | cons b before =>
            obtain ⟨rfl, rfl⟩ := List.cons.inj heq
            exact absurd (hbefore _ List.mem_cons_self) hc

end Resolution

open Resolution (Makes)

/-! ## The parts of a statement make their checks -/

variable {tables : Tables View} {metrics : Table Binary64}

theorem Attribute.exists_name_iff {n : String} :
    (∃ a : Attribute, a.name = n) ↔ (ofName? n).isSome := by
  constructor
  · rintro ⟨a, rfl⟩
    rw [ofName?_name, Option.isSome_some]
  · intro h
    obtain ⟨a, ha⟩ := Option.isSome_iff_exists.mp h
    exact ⟨a, by simpa using List.find?_some ha⟩

theorem Operand.check_of_value {o : Operand} {x : Binary64} (hx : o.value? metrics = some x)
    (kind : Kind) (p : Binary64 → Prop) : o.check metrics kind p = ⟨p x, .ofOperand kind o⟩ := by
  simp [check, hx]

theorem Operand.makes_checks (metrics : Table Binary64) (o : Operand) :
    Makes (fun x => o.value? metrics = some x) (o.checks metrics) (o.resolve metrics) := by
  have hlookup : Makes (fun x => o.value? metrics = some x)
      [⟨(o.value? metrics).isSome, .ofOperand .unknownMetric o⟩]
      (Outcome.ofOption (.ofOperand .unknownMetric o) (o.value? metrics)) :=
    .lookup Iff.rfl fun _ hx => hx
  rw [resolve_eq]
  refine hlookup.bind fun x hx => ?_
  rw [check_of_value hx]
  exact .test Iff.rfl hx

theorem Term.makes_checks (t : Term) :
    Makes (fun i => i.multiplier = t.multiplier.bind (Operand.value? tables.metrics))
      (t.checks tables) (t.resolve tables) := by
  obtain ⟨multiplier, object, part⟩ := t
  have hview : Makes (fun _ => True)
      [⟨(tables.views.find? object.text).isSome, .ofName .unknownView object⟩]
      (Outcome.ofOption (.ofName .unknownView object) (tables.views.find? object.text)) :=
    .lookup Iff.rfl fun _ _ => trivial
  have hpart : Makes (fun _ => True)
      (part.elim [] fun n => [⟨∃ a : Attribute, a.name = n.text, .ofName .unknownAttribute n⟩])
      (part.elim (.ok .notAnAttribute) fun n =>
        Outcome.ofOption (.ofName .unknownAttribute n) (Attribute.ofName? n.text)) := by
    cases part with
    | none => exact .done trivial
    | some n => exact .lookup Attribute.exists_name_iff.symm fun _ _ => trivial
  have hfactor : Makes (fun k => k = multiplier.bind (Operand.value? tables.metrics))
      (multiplier.elim [] (Operand.checks tables.metrics))
      (multiplier.elim (.ok none) fun o => (o.resolve tables.metrics).map some) := by
    cases multiplier with
    | none => exact .done rfl
    | some o => exact (o.makes_checks tables.metrics).map fun x hx => hx.symm
  rw [resolve_eq]
  refine hview.bind fun view _ => hpart.bind fun part _ => ?_
  rw [← List.append_nil (multiplier.elim _ _)]
  exact hfactor.bind fun k hk => .done hk

/-- What a side that is resolved contributes to the numbers that are checked later. -/
structure RightSide.Contributes (tables : Tables View) (rs : RightSide)
    (side : ResolvedSide View) : Prop where
  factor : (side.item?.bind (·.multiplier)).getD .one = rs.factor tables.metrics
  number : side.constant?.getD (.zero false) = rs.number tables

theorem RightSide.makes_checks (rs : RightSide) :
    Makes (rs.Contributes tables) (rs.checks tables) (rs.resolve tables) := by
  cases rs with
  | term t =>
      refine t.makes_checks.map ?_
      intro i hi
      exact ⟨by rw [factor, ← hi]; rfl, rfl⟩
  | value o =>
      cases o with
      | number x span =>
          refine ((Operand.number x span).makes_checks tables.metrics).map ?_
          intro y hy
          exact ⟨rfl, (Option.some.inj hy).symm⟩
      | name n =>
          cases hview : tables.views.find? n.text with
          | some v =>
              simp only [RightSide.resolve, RightSide.checks, hview]
              exact .done ⟨rfl, by simp [number, hview, ResolvedSide.constant?]⟩
          | none =>
              simp only [RightSide.resolve, RightSide.checks, hview]
              refine ((Operand.name n).makes_checks tables.metrics).map ?_
              intro y hy
              have hfind : tables.metrics.find? n.text = some y := hy
              exact ⟨rfl, by simp [number, hview, hfind, ResolvedSide.constant?]⟩

namespace Statement

variable {s : Statement} {first : ScaledItem View}

/-- The two zeros, and nothing else, are the number 0. -/
theorem sameNumber_zero_iff_eq {k : Binary64} :
    k.sameNumber (.zero false) = true ↔ k = .zero false ∨ k = .zero true := by
  constructor
  · intro h
    cases k with
    | nan => cases h
    | infinity negative => cases negative <;> exact absurd h (by decide)
    | finite negative rank =>
        obtain ⟨rank, hrank⟩ := rank
        have hzero : rank = 0 := by
          cases negative <;> simpa [Binary64.sameNumber, Binary64.place?, Binary64.zero] using h
        subst hzero
        cases negative
        · exact .inl rfl
        · exact .inr rfl
  · rintro (rfl | rfl) <;> rfl

/-- A check of the left factor, which is made where a factor was resolved. -/
theorem makes_leftCheck {kind : Kind} {p : Binary64 → Prop}
    {test : Operand → Binary64 → Except Failure Unit}
    (htest : ∀ o k, Makes (fun _ => True) [⟨p k, .ofOperand kind o⟩] (test o k))
    (hk : first.multiplier = s.first.multiplier.bind (Operand.value? metrics)) :
    Makes (fun _ => True) (s.first.multiplier.elim [] fun o => [o.check metrics kind p])
      (match s.first.multiplier, first.multiplier with
        | some o, some k => test o k
        | _, _ => .ok ()) := by
  cases ho : s.first.multiplier with
  | none => exact .done trivial
  | some o =>
      rw [ho, Option.bind_some] at hk
      rw [hk, Option.elim_some]
      cases hvalue : o.value? metrics with
      | none => exact .pass (by simp [Operand.check, hvalue]) (.done trivial)
      | some k =>
          rw [Operand.check_of_value hvalue]
          exact htest o k

theorem makes_factorChecks
    (hk : first.multiplier = s.first.multiplier.bind (Operand.value? metrics)) :
    Makes (fun _ => True) (s.factorChecks metrics) (s.checkFactor first) := by
  refine makes_leftCheck ?_ hk
  intro o k
  by_cases hzero : k.sameNumber (.zero false) = true
  · rw [if_pos hzero]
    refine .fail ?_
    rintro ⟨hpositive, hnegative⟩
    rcases sameNumber_zero_iff_eq.mp hzero with h | h
    · exact hpositive h
    · exact hnegative h
  · rw [if_neg hzero]
    rw [sameNumber_zero_iff_eq, not_or] at hzero
    exact .pass hzero (.done trivial)

theorem makes_constantChecks {side : ResolvedSide View} (h : s.second.Contributes tables side) :
    Makes (fun c : Option Binary64 => c.getD (.zero false) = s.constantNumber tables)
      (s.constantChecks tables)
      (resolveConstant tables.metrics side.constant? s.constant) := by
  unfold constantChecks constantNumber
  cases s.constant with
  | none => exact .done h.number
  | some a =>
      have haddend : Makes (fun x => ∃ y, a.operand.value? tables.metrics = some y
          ∧ x = a.sign.apply y) (a.operand.checks tables.metrics) (a.resolve tables.metrics) := by
        refine (a.operand.makes_checks tables.metrics).map ?_
        intro y hy
        refine ⟨y, hy, ?_⟩
        cases a.sign <;> rfl
      refine haddend.bind ?_
      rintro x ⟨y, hy, rfl⟩
      rw [Operand.check_of_value hy, ← h.number]
      exact .test Iff.rfl (by simp [hy])

theorem makes_quotientChecks {side : ResolvedSide View} {constant : Option Binary64}
    (hk : first.multiplier = s.first.multiplier.bind (Operand.value? tables.metrics))
    (hside : s.second.Contributes tables side)
    (hconstant : constant.getD (.zero false) = s.constantNumber tables) :
    Makes (fun _ => True) (s.quotientChecks tables)
      (s.checkQuotients first side.item? constant) := by
  refine makes_leftCheck ?_ hk
  intro o k
  rw [hside.factor, hconstant]
  exact .test (Bool.and_eq_true _ _ ▸ Iff.rfl) trivial

theorem makes_priorityChecks (settings : Settings) (metrics : Table Binary64) (s : Statement) :
    Makes (fun _ => True) (s.priorityChecks settings metrics)
      (resolvePriority settings metrics s.priority) := by
  unfold priorityChecks
  cases s.priority with
  | none => exact .done trivial
  | some o =>
      refine (o.makes_checks metrics).bind ?_
      intro p hp
      rw [Operand.check_of_value hp]
      exact .test Iff.rfl trivial

/-! ## The whole statement -/

/-- The chain of checks makes those of its two open links last. -/
theorem makes_resolveWith {quotients : ScaledItem View → Option (ScaledItem View) →
    Option Binary64 → Except Failure Unit} {priority : Except Failure (Option Binary64)}
    {quotientChecks priorityChecks : List Check}
    (hquotients : ∀ {first : ScaledItem View} {side : ResolvedSide View}
      {constant : Option Binary64},
      first.multiplier = s.first.multiplier.bind (Operand.value? tables.metrics) →
      s.second.Contributes tables side →
      constant.getD (.zero false) = s.constantNumber tables →
      Makes (fun _ => True) quotientChecks (quotients first side.item? constant))
    (hpriority : Makes (fun _ => True) priorityChecks priority) :
    Makes (fun _ => True)
      (s.first.checks tables ++ (s.factorChecks tables.metrics ++ (s.second.checks tables
        ++ (s.constantChecks tables ++ (quotientChecks ++ priorityChecks)))))
      (s.resolveWith quotients priority tables) := by
  refine s.first.makes_checks.bind fun first hfirst => ?_
  refine (makes_factorChecks hfirst).bind fun _ _ => ?_
  refine s.second.makes_checks.bind fun side hside => ?_
  refine (makes_constantChecks hside).bind fun constant hconstant => ?_
  refine (hquotients hfirst hside hconstant).bind fun _ _ => ?_
  rw [← List.append_nil priorityChecks]
  exact hpriority.bind fun _ _ => .done trivial

theorem makes_checks (settings : Settings) (tables : Tables View) (s : Statement) :
    Makes (fun _ => True) (s.checks settings tables) (s.resolve settings tables) :=
  makes_resolveWith makes_quotientChecks (makes_priorityChecks settings tables.metrics s)

/-- A statement is resolved exactly if it passes all its checks.  Otherwise the first of them that
fails is reported. -/
theorem resolve_reports_first_failing (settings : Settings) (tables : Tables View)
    (s : Statement) :
    ((∃ r, s.resolve settings tables = .ok r) ↔ ∀ c ∈ s.checks settings tables, c.Passes)
      ∧ ∀ f, s.resolve settings tables = .error f ↔
          FirstFailing (s.checks settings tables) f := by
  have h := makes_checks settings tables s
  exact ⟨h.exists_ok_iff, fun f => h.eq_error_iff⟩

end Statement

end LayoutLang
