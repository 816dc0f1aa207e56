import LayoutLang.Attribute
import LayoutLang.Binary64.Arithmetic
import LayoutLang.Settings
import LayoutLang.Statement.Printer
import LayoutLang.Table

/-!
# Resolution

The names of a statement are replaced by what they stand for.  A name before a star, in an addend
or in a priority is a metric; the object of a term is a view; a bare name on the right is a view
if there is one of that name and a metric otherwise.

Every number has to be finite, and so has everything that is computed from it later.  The checks
are made in the order of the text, but for one: that the factor on the left can be divided out is
checked when the whole right side is known.  The first check that fails is reported.
-/

namespace LayoutLang

/-! ## What may be wrong -/

namespace Resolution

/-- The checks that can fail. -/
inductive Kind where
  | unknownView
  | unknownAttribute
  | unknownMetric
  /-- The factor on the left is zero, so that the relation cannot be solved for its item. -/
  | zeroMultiplier
  /-- The priority is not above zero, or above the required one. -/
  | invalidPriority
  /-- A number, or one that would be computed from it, is infinite or a NaN. -/
  | nonFiniteValue
deriving DecidableEq, Repr

/-- The wording of a kind. -/
def Kind.text : Kind → String
  | .unknownView => "unknown view"
  | .unknownAttribute => "unknown attribute"
  | .unknownMetric => "unknown metric"
  | .zeroMultiplier => "zero multiplier on the left-hand side"
  | .invalidPriority => "priority out of range"
  | .nonFiniteValue => "non-finite value"

/-- A check that failed, and the name or number that is to blame. -/
structure Failure where
  kind : Kind
  name : String
  span : Span
deriving DecidableEq, Repr

namespace Failure

/-- Blames a name. -/
def ofName (kind : Kind) (n : Name) : Failure := ⟨kind, n.text, n.span⟩

/-- Blames an operand. -/
def ofOperand (kind : Kind) (o : Operand) : Failure := ⟨kind, o.text, o.span⟩

/-- The wording of the error. -/
def message (f : Failure) : String := f.kind.text ++ ": `" ++ f.name ++ "`"

end Failure

end Resolution

open Resolution (Failure)

/-! ## Resolved statements -/

/-- A view and one of its attributes. -/
structure Item (View : Type) where
  view : View
  part : Attribute
deriving DecidableEq, Inhabited

/-- An item and its factor, if one was given. -/
structure ScaledItem (View : Type) where
  multiplier : Option Binary64
  item : Item View
deriving DecidableEq, Inhabited

/-- A statement whose names stand for something.  What the text left out is still missing. -/
structure Resolution (View : Type) where
  first : ScaledItem View
  relation : Relation
  second : Option (ScaledItem View)
  constant : Option Binary64
  priority : Option Binary64
deriving DecidableEq, Inhabited

/-- A right side: an item, or a number that stands alone. -/
inductive ResolvedSide (View : Type) where
  | item (item : ScaledItem View)
  | constant (value : Binary64)

namespace ResolvedSide

variable {View : Type}

/-- The item, if it is one. -/
def item? : ResolvedSide View → Option (ScaledItem View)
  | .item i => some i
  | .constant _ => none

/-- The number, if it is one. -/
def constant? : ResolvedSide View → Option Binary64
  | .item _ => none
  | .constant x => some x

end ResolvedSide

/-! ## Parts of a statement -/

/-- The value of an operand: its own, or that of the metric it names.  It has to be finite. -/
def Operand.resolve (metrics : Table Binary64) (o : Operand) : Except Failure Binary64 := do
  let x ←
    match o with
    | .number x _ => .ok x
    | .name n =>
      match metrics.find? n.text with
      | some x => .ok x
      | none => .error (.ofName .unknownMetric n)
  if x.isFinite then .ok x else .error (.ofOperand .nonFiniteValue o)

variable {View : Type}

/-- The view, attribute and factor of a term, looked up in this order.  Without an attribute the
whole item is meant. -/
def Term.resolve (tables : Tables View) (t : Term) : Except Failure (ScaledItem View) := do
  let view ←
    match tables.views.find? t.object.text with
    | some v => .ok v
    | none => .error (.ofName .unknownView t.object)
  let part ←
    match t.part with
    | none => .ok .notAnAttribute
    | some n =>
      match Attribute.ofName? n.text with
      | some a => .ok a
      | none => .error (.ofName .unknownAttribute n)
  let multiplier ←
    match t.multiplier with
    | none => .ok none
    | some o => (o.resolve tables.metrics).map some
  .ok ⟨multiplier, ⟨view, part⟩⟩

/-- A term is an item; a bare name is one if it names a view; all else is a number. -/
def RightSide.resolve (tables : Tables View) : RightSide → Except Failure (ResolvedSide View)
  | .term t => (t.resolve tables).map .item
  | .value (.name n) =>
    match tables.views.find? n.text with
    | some v => .ok (.item ⟨none, ⟨v, .notAnAttribute⟩⟩)
    | none => ((Operand.name n).resolve tables.metrics).map .constant
  | .value o => (o.resolve tables.metrics).map .constant

/-- The value of an addend, with its sign. -/
def Addend.resolve (metrics : Table Binary64) (a : Addend) : Except Failure Binary64 :=
  (a.operand.resolve metrics).map fun x =>
    match a.sign with
    | .plus => x
    | .minus => -x

/-! ## Checks and the whole statement -/

namespace Statement

/-- The left factor is not zero. -/
def checkFactor (s : Statement) (first : ScaledItem View) : Except Failure Unit :=
  match s.first.multiplier, first.multiplier with
  | some o, some k =>
    if k.sameNumber (.zero false) then .error (.ofOperand .zeroMultiplier o) else .ok ()
  | _, _ => .ok ()

/-- The constant of the right side: the number that stands there, the addend, or their sum, which
has to be finite.  If there is neither, none is given. -/
def resolveConstant (metrics : Table Binary64) (base : Option Binary64) :
    Option Addend → Except Failure (Option Binary64)
  | none => .ok base
  | some a => do
    let x ← a.resolve metrics
    let sum := base.getD (.zero false) + x
    if sum.isFinite then .ok (some sum) else .error (.ofOperand .nonFiniteValue a.operand)

/-- The right factor and the constant stay finite when the left factor is divided out. -/
def checkQuotients (s : Statement) (first : ScaledItem View) (second : Option (ScaledItem View))
    (constant : Option Binary64) : Except Failure Unit :=
  match s.first.multiplier, first.multiplier with
  | some o, some k =>
    let multiplier := (second.bind (·.multiplier)).getD .one
    let constant := constant.getD (.zero false)
    if (multiplier / k).isFinite && (constant / k).isFinite then .ok ()
    else .error (.ofOperand .nonFiniteValue o)
  | _, _ => .ok ()

/-- The priority, if one is given: above zero and not above the required one. -/
def resolvePriority (settings : Settings) (metrics : Table Binary64) :
    Option Operand → Except Failure (Option Binary64)
  | none => .ok none
  | some o => do
    let p ← o.resolve metrics
    if .zero false < p ∧ p ≤ settings.requiredPriority then .ok (some p)
    else .error (.ofOperand .invalidPriority o)

/-- The statement with its names replaced.  The last two links are open: what is asked of the two
sides once both are known, and what the priority stands for. -/
def resolveWith (quotients : ScaledItem View → Option (ScaledItem View) → Option Binary64 →
    Except Failure Unit) (priority : Except Failure (Option Binary64)) (tables : Tables View)
    (s : Statement) : Except Failure (Resolution View) := do
  let first ← s.first.resolve tables
  s.checkFactor first
  let side ← s.second.resolve tables
  let constant ← resolveConstant tables.metrics side.constant? s.constant
  quotients first side.item? constant
  let priority ← priority
  .ok ⟨first, s.relation, side.item?, constant, priority⟩

/-- The statement with its names replaced, or the first check that fails. -/
def resolve (settings : Settings) (tables : Tables View) (s : Statement) :
    Except Failure (Resolution View) :=
  s.resolveWith s.checkQuotients (resolvePriority settings tables.metrics s.priority) tables

end Statement

end LayoutLang
