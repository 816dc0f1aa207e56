import LayoutLang.Proofs.Resolution.Alike
import LayoutLang.Proofs.Statement.Unplaced

/-!
# Resolving without places

No check looks at a span.  A statement without places is resolved to the same, or fails the same
check with the same name to blame, where only the place of the name is missing.
-/

namespace LayoutLang

open Resolution (Failure)

def Resolution.Failure.unplaced (f : Failure) : Failure := ⟨f.kind, f.name, default⟩

variable {View : Type}

theorem Name.alike_unplaced (n : Name) : n.Alike Failure.unplaced n.unplaced :=
  ⟨rfl, fun _ => rfl⟩

theorem Operand.alike_unplaced (metrics : Table Binary64) (o : Operand) :
    o.Alike Failure.unplaced metrics metrics o.unplaced := by
  cases o <;> exact ⟨rfl, fun _ => rfl⟩

theorem Term.alike_unplaced (tables : Tables View) (t : Term) :
    t.Alike Failure.unplaced tables tables t.unplaced where
  object := t.object.alike_unplaced
  view := rfl
  part := optionRel_map fun n _ => n.alike_unplaced
  multiplier := optionRel_map fun o _ => o.alike_unplaced tables.metrics

theorem RightSide.alike_unplaced (tables : Tables View) (rs : RightSide) :
    rs.Alike Failure.unplaced tables tables rs.unplaced := by
  cases rs with
  | term t => exact .term (t.alike_unplaced tables)
  | value o =>
      cases o with
      | number x span => exact .value nofun nofun (Operand.alike_unplaced tables.metrics _)
      | name n =>
          cases hview : tables.views.find? n.text with
          | some v => exact .view hview hview
          | none =>
              refine .value (by simpa using hview) ?_ (Operand.alike_unplaced tables.metrics _)
              simpa [Operand.unplaced, Name.unplaced] using hview

namespace Statement

theorem alike_unplaced (tables : Tables View) (s : Statement) :
    s.Alike Failure.unplaced tables tables s.unplaced where
  first := s.first.alike_unplaced tables
  relation := rfl
  second := s.second.alike_unplaced tables
  constant := optionRel_map fun a _ => ⟨rfl, a.operand.alike_unplaced tables.metrics⟩
  priority := optionRel_map fun o _ => o.alike_unplaced tables.metrics

/-- The statement is resolved as it is without its places, but for the place of what fails. -/
theorem resolve_unplaced (settings : Settings) (tables : Tables View) (s : Statement) :
    (s.resolve settings tables).mapError Failure.unplaced
      = (s.unplaced.resolve settings tables).mapError Failure.unplaced :=
  (s.alike_unplaced tables).resolve settings

end Statement

end LayoutLang
