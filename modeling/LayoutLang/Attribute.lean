/-!
# Attributes

The parts of an item that a constraint can speak of.  The set is closed: a text that names
anything else is refused.
-/

namespace LayoutLang

/-- A part of an item. -/
inductive Attribute where
  | left
  | right
  | top
  | bottom
  | leading
  | trailing
  | width
  | height
  | centerX
  | centerY
  | baseline
  | firstBaseline
  | lastBaseline
  /-- No part in particular: the item as a whole. -/
  | notAnAttribute
deriving DecidableEq, Repr, Inhabited

namespace Attribute

/-- All attributes. -/
def all : List Attribute :=
  [left, right, top, bottom, leading, trailing, width, height, centerX, centerY, baseline,
    firstBaseline, lastBaseline, notAnAttribute]

/-- The name of an attribute in the language. -/
def name : Attribute → String
  | left => "left"
  | right => "right"
  | top => "top"
  | bottom => "bottom"
  | leading => "leading"
  | trailing => "trailing"
  | width => "width"
  | height => "height"
  | centerX => "centerX"
  | centerY => "centerY"
  | baseline => "baseline"
  | firstBaseline => "firstBaseline"
  | lastBaseline => "lastBaseline"
  | notAnAttribute => "notAnAttribute"

/-- The attribute of that name; case matters. -/
def ofName? (name : String) : Option Attribute := all.find? (·.name == name)

/-- The name of an attribute in a listing: as in the language, but capitalized. -/
def title (a : Attribute) : String := a.name.capitalize

theorem mem_all (a : Attribute) : a ∈ all := by cases a <;> decide

/-- Every name is read as the attribute that has it. -/
theorem ofName?_name (a : Attribute) : ofName? a.name = some a := by cases a <;> decide

end Attribute

end LayoutLang
