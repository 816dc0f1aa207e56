import LayoutLang.Proofs.Binary64.Order
import LayoutLang.Proofs.Compile
import Mathlib.Control.Monad.Basic

/-!
# What the required priority decides

The required priority is the only setting, and a resolution asks for it once, at its very end.  So a
statement is resolved without it, and then its own priority is checked (`Statement.resolve_eq`):
everything that can be wrong with a text has been found before, and nothing but the priority of a
constraint is still open.

Two required priorities are therefore compared through one resolution.  Either it fails, and both
runs report the same, or it gives the parts of both constraints, and only the range of the priority
and the default for it are left (`compile_of_required`).
-/

namespace LayoutLang

open Resolution (Failure)

variable {View : Type}

namespace Statement

/-! ## The range is checked last -/

/-- What a statement stands for, whatever priorities are allowed. -/
def resolveUnbounded (tables : Tables View) (s : Statement) : Except Failure (Resolution View) :=
  s.resolveWith s.checkQuotients
    (s.priority.elim (.ok none) fun o => (o.resolve tables.metrics).map some) tables

/-- The priority, if one is given, is above zero and not above the required one. -/
def checkRange (required : Binary64) (s : Statement) (priority : Option Binary64) :
    Except Failure Unit :=
  match s.priority, priority with
  | some o, some p =>
    if .zero false < p ∧ p ≤ required then .ok () else .error (.ofOperand .invalidPriority o)
  | _, _ => .ok ()

variable {settings : Settings} {tables : Tables View} {s : Statement} {r : Resolution View}

theorem resolvePriority_eq (settings : Settings) (metrics : Table Binary64) (s : Statement) :
    resolvePriority settings metrics s.priority = (do
      let priority ← s.priority.elim (.ok none) fun o => (o.resolve metrics).map some
      s.checkRange settings.requiredPriority priority
      .ok priority) := by
  unfold checkRange
  cases s.priority with
  | none => rfl
  | some o =>
      simp only [resolvePriority, Option.elim_some]
      cases o.resolve metrics with
      | error f => rfl
      | ok p =>
          show (if _ then _ else _) = (if _ then _ else _ : Except Failure Unit) >>= _
          split <;> rfl

/-- A statement is resolved without the settings, and then the range is checked. -/
theorem resolve_eq (settings : Settings) (tables : Tables View) (s : Statement) :
    s.resolve settings tables = (do
      let r ← s.resolveUnbounded tables
      s.checkRange settings.requiredPriority r.priority
      .ok r) := by
  simp only [resolve, resolveUnbounded, resolveWith, resolvePriority_eq, bind_assoc]
  rfl

/-- A priority is resolved if the statement gives one. -/
theorem priority_of_resolveUnbounded (h : s.resolveUnbounded tables = .ok r) :
    Option.Rel (fun o p => o.resolve tables.metrics = .ok p) s.priority r.priority := by
  obtain ⟨-, -, -, -, -, -, hpriority, -⟩ := resolveWith_eq_ok.mp h
  exact Term.factor_eq_ok.mp hpriority

theorem checkRange_none (hs : s.priority = none) (required : Binary64) (p : Option Binary64) :
    s.checkRange required p = .ok () := by
  unfold checkRange
  rw [hs]

theorem checkRange_some {o : Operand} (hs : s.priority = some o) (required p : Binary64) :
    s.checkRange required (some p)
      = if .zero false < p ∧ p ≤ required then .ok ()
        else .error (.ofOperand .invalidPriority o) := by
  unfold checkRange
  rw [hs]

end Statement

/-! ## Two required priorities -/

/-- A text gives a priority that is above `p` but not above `q`.  It is rejected for it where `p` is
required, and compiles where `q` is. -/
inductive AllowedOnlyBelow (text : String) (p q : Binary64) :
    Except Rejection (Constraint View) → Except Rejection (Constraint View) → Prop
  | mk {s : Statement} {o : Operand} {c : Constraint View} : Statement.ofText text = .ok s →
      s.priority = some o → c.priority ≤ q → ¬ c.priority ≤ p →
      AllowedOnlyBelow text p q (.error (.resolution (.ofOperand .invalidPriority o))) (.ok c)

/-- Two outcomes of a text, one where `p` is the required priority and one where `q` is, differ in
nothing but the priority. -/
inductive AlikeButPriority (text : String) (p q : Binary64) :
    Except Rejection (Constraint View) → Except Rejection (Constraint View) → Prop
  | rejected (e : Rejection) : AlikeButPriority text p q (.error e) (.error e)
  /-- A priority that the text gives is the same on both sides. -/
  | given {s : Statement} {o : Operand} (c : Constraint View) : Statement.ofText text = .ok s →
      s.priority = some o → AlikeButPriority text p q (.ok c) (.ok c)
  /-- A priority that it leaves out is the required one. -/
  | filled {s : Statement} (c : Constraint View) : Statement.ofText text = .ok s →
      s.priority = none →
      AlikeButPriority text p q (.ok { c with priority := p }) (.ok { c with priority := q })
  | first {x y : Except Rejection (Constraint View)} : AllowedOnlyBelow text p q x y →
      AlikeButPriority text p q x y
  | second {x y : Except Rejection (Constraint View)} : AllowedOnlyBelow text q p y x →
      AlikeButPriority text p q x y

variable {tables : Tables View} {text : String} {s : Statement} {r : Resolution View}

theorem compile_of_ofText (settings : Settings) (tables : Tables View)
    (hs : Statement.ofText text = .ok s) :
    compile settings tables text
      = ((s.resolve settings tables).map (.ofResolution settings)).mapError .resolution := by
  rw [compile, hs]
  show (s.resolve settings tables).mapError _ >>= _ = _
  cases s.resolve settings tables <;> rfl

/-- What is wrong with a statement whatever priorities are allowed is reported under all of them. -/
theorem compile_of_unbounded_error {f : Failure} (hs : Statement.ofText text = .ok s)
    (hf : s.resolveUnbounded tables = .error f) (settings : Settings) :
    compile settings tables text = .error (.resolution f) := by
  rw [compile_of_ofText settings tables hs, Statement.resolve_eq, hf]
  rfl

/-- Without a priority the constraint is built under all of them. -/
theorem compile_of_unbounded_none (hs : Statement.ofText text = .ok s)
    (hr : s.resolveUnbounded tables = .ok r) (hnone : s.priority = none) (settings : Settings) :
    compile settings tables text = .ok (.ofResolution settings r) := by
  rw [compile_of_ofText settings tables hs, Statement.resolve_eq, hr]
  show Except.mapError _ (Except.map _ (s.checkRange _ _ >>= _)) = _
  rw [Statement.checkRange_none hnone]
  rfl

/-- With one, its range decides. -/
theorem compile_of_unbounded_some {o : Operand} {p : Binary64} (hs : Statement.ofText text = .ok s)
    (hr : s.resolveUnbounded tables = .ok r) (ho : s.priority = some o) (hp : r.priority = some p)
    (settings : Settings) :
    compile settings tables text
      = if .zero false < p ∧ p ≤ settings.requiredPriority then .ok (.ofResolution settings r)
        else .error (.resolution (.ofOperand .invalidPriority o)) := by
  rw [compile_of_ofText settings tables hs, Statement.resolve_eq, hr]
  show Except.mapError _ (Except.map _ (s.checkRange _ _ >>= _)) = _
  rw [hp, Statement.checkRange_some ho]
  split <;> rfl

/-! ### The constraint -/

/-- The settings fill in the priority, and nothing else of a constraint. -/
theorem Constraint.ofResolution_filled (hp : r.priority = none) (settings settings' : Settings) :
    ofResolution settings' r
      = { ofResolution settings r with priority := settings'.requiredPriority } := by
  unfold ofResolution
  rw [hp]
  rfl

theorem Constraint.ofResolution_given {p : Binary64} (hp : r.priority = some p)
    (settings settings' : Settings) : ofResolution settings' r = ofResolution settings r := by
  unfold ofResolution
  rw [hp]
  rfl

theorem Constraint.priority_ofResolution {p : Binary64} (hp : r.priority = some p)
    (settings : Settings) : (ofResolution settings r).priority = p := by
  show r.priority.getD _ = p
  rw [hp]
  rfl

/-! ### The outcomes -/

section Outcomes

variable (settings settings' : Settings)

theorem alikeButPriority_of_none (hs : Statement.ofText text = .ok s)
    (hr : s.resolveUnbounded tables = .ok r) (hnone : s.priority = none) :
    AlikeButPriority text settings.requiredPriority settings'.requiredPriority
      (compile settings tables text) (compile settings' tables text) := by
  have hp := Statement.priority_of_resolveUnbounded hr
  rw [hnone] at hp
  have hfilled := Constraint.ofResolution_filled (optionRel_none_left hp) settings
  rw [compile_of_unbounded_none hs hr hnone, compile_of_unbounded_none hs hr hnone,
    hfilled settings, hfilled settings']
  exact .filled _ hs hnone

theorem alikeButPriority_of_some {o : Operand} (hs : Statement.ofText text = .ok s)
    (hr : s.resolveUnbounded tables = .ok r) (ho : s.priority = some o) :
    AlikeButPriority text settings.requiredPriority settings'.requiredPriority
      (compile settings tables text) (compile settings' tables text) := by
  have hrel := Statement.priority_of_resolveUnbounded hr
  rw [ho] at hrel
  obtain ⟨p, hp, -⟩ := optionRel_some_left hrel
  rw [compile_of_unbounded_some hs hr ho hp, compile_of_unbounded_some hs hr ho hp,
    Constraint.ofResolution_given hp settings settings',
    ← Constraint.priority_ofResolution hp settings]
  generalize Constraint.ofResolution settings r = c
  by_cases hin : .zero false < c.priority ∧ c.priority ≤ settings.requiredPriority
  · rw [if_pos hin]
    by_cases hin' : .zero false < c.priority ∧ c.priority ≤ settings'.requiredPriority
    · rw [if_pos hin']
      exact .given c hs ho
    · rw [if_neg hin']
      exact .second (.mk hs ho hin.2 fun hle => hin' ⟨hin.1, hle⟩)
  · rw [if_neg hin]
    by_cases hin' : .zero false < c.priority ∧ c.priority ≤ settings'.requiredPriority
    · rw [if_pos hin']
      exact .first (.mk hs ho hin'.2 fun hle => hin ⟨hin'.1, hle⟩)
    · rw [if_neg hin']
      exact .rejected _

theorem alikeButPriority (tables : Tables View) (text : String) :
    AlikeButPriority text settings.requiredPriority settings'.requiredPriority
      (compile settings tables text) (compile settings' tables text) := by
  cases hs : Statement.ofText text with
  | error e =>
      rw [compile, compile, hs]
      exact .rejected e
  | ok s =>
      cases hr : s.resolveUnbounded tables with
      | error f =>
          rw [compile_of_unbounded_error hs hr, compile_of_unbounded_error hs hr]
          exact .rejected _
      | ok r =>
          cases ho : s.priority with
          | none => exact alikeButPriority_of_none settings settings' hs hr ho
          | some o => exact alikeButPriority_of_some settings settings' hs hr ho

end Outcomes

/-- Whatever is allowed below one required priority is allowed below a greater one. -/
theorem AlikeButPriority.exists_ok {p q : Binary64} {x y : Except Rejection (Constraint View)}
    (h : AlikeButPriority text p q x y) (hle : p ≤ q) (hx : ∃ c, x = .ok c) : ∃ c, y = .ok c := by
  cases h with
  | rejected e =>
      obtain ⟨c, hc⟩ := hx
      cases hc
  | given c _ _ => exact ⟨c, rfl⟩
  | filled c _ _ => exact ⟨_, rfl⟩
  | first habove =>
      cases habove with
      | mk _ _ _ _ => exact ⟨_, rfl⟩
  | second habove =>
      cases habove with
      | mk _ _ hp hq => exact absurd (Binary64.le_trans hp hle) hq

/-- The required priority decides nothing but the priority.  Under two of them a text is rejected
for the same reason, or compiles to constraints that differ in a priority it left out, or gives a
priority that only one of them allows.  What compiles under the lesser compiles under the greater. -/
theorem compile_of_required (settings settings' : Settings) (tables : Tables View) (text : String) :
    AlikeButPriority text settings.requiredPriority settings'.requiredPriority
        (compile settings tables text) (compile settings' tables text)
      ∧ (settings.requiredPriority ≤ settings'.requiredPriority →
        (∃ c, compile settings tables text = .ok c) →
        ∃ c, compile settings' tables text = .ok c) := by
  have halike := alikeButPriority settings settings' tables text
  exact ⟨halike, halike.exists_ok⟩

def requiredTables : Tables Nat where
  views := ⟨[("v", 0)]⟩

/-- Settings in which less is allowed than by default. -/
def lowered : Settings := ⟨.ofInt 500⟩

/-- The priority 250 is allowed below 500 and below 1000, and the priority 750 below 1000 only. -/
theorem compile_of_required_lowered :
    lowered.requiredPriority ≤ ({} : Settings).requiredPriority
      ∧ (∃ c, compile lowered requiredTables "v.width = 1 @ 250" = .ok c)
      ∧ (∃ c, compile {} requiredTables "v.width = 1 @ 250" = .ok c)
      ∧ compile lowered requiredTables "v.width = 1 @ 750"
        = .error (.resolution ⟨.invalidPriority, "750", ⟨14, 17⟩⟩)
      ∧ AlikeButPriority "v.width = 1 @ 750" lowered.requiredPriority
        ({} : Settings).requiredPriority (compile lowered requiredTables "v.width = 1 @ 750")
        (compile {} requiredTables "v.width = 1 @ 750") := by
  have hle : lowered.requiredPriority ≤ ({} : Settings).requiredPriority := by decide +kernel
  have hlow : ∃ c, compile lowered requiredTables "v.width = 1 @ 250" = .ok c :=
    ⟨⟨⟨0, .width⟩, .equal, none, .notAnAttribute, .one, .one, .ofInt 250⟩, by decide +kernel⟩
  exact ⟨hle, hlow, (compile_of_required lowered {} requiredTables _).2 hle hlow, by decide +kernel,
    (compile_of_required lowered {} requiredTables _).1⟩

end LayoutLang
