import LayoutLang.Binary64.Basic

/-!
# Settings
-/

namespace LayoutLang

/-- What holds for all texts that are compiled together. -/
structure Settings where
  /-- The priority of a constraint that gives none, and the greatest that one may give; 1000
  unless it is set. -/
  requiredPriority : Binary64 := .finite false ⟨0x408F400000000000, by decide⟩
deriving DecidableEq, Inhabited

end LayoutLang
