import LayoutLang.Binary64.Basic

/-!
# Tables

The names that a text may use are given in two tables, one of views and one of metrics.  The two
are apart: one name may be in both, and which one is meant follows from where it stands.
-/

namespace LayoutLang

/-- Names and what they stand for, in the order in which they were entered. -/
structure Table (α : Type) where
  entries : List (String × α) := []
deriving Inhabited

namespace Table

variable {α : Type}

/-- The table without names.  A table that was not given is this one. -/
def empty : Table α := ⟨[]⟩

/-- The last of some entries that has the name. -/
def findIn? (name : String) : List (String × α) → Option α
  | [] => none
  | (key, a) :: rest =>
    match findIn? name rest with
    | some b => some b
    | none => if key = name then some a else none

/-- What a name stands for.  A later entry takes the place of an earlier one of its name. -/
def find? (t : Table α) (name : String) : Option α := findIn? name t.entries

@[simp] theorem find?_empty (name : String) : (empty : Table α).find? name = none := rfl

/-- Entries that come later decide first. -/
theorem findIn?_append (name : String) (s t : List (String × α)) :
    findIn? name (s ++ t) = (findIn? name t).or (findIn? name s) := by
  induction s with
  | nil => simp [findIn?]
  | cons e s ih =>
    obtain ⟨key, a⟩ := e
    rw [List.cons_append, findIn?, ih, findIn?]
    cases findIn? name t <;> rfl

end Table

/-- The names that a text may use: views by their handles, metrics by their values. -/
structure Tables (View : Type) where
  views : Table View := .empty
  metrics : Table Binary64 := .empty
deriving Inhabited

end LayoutLang
