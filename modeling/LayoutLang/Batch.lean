import LayoutLang.Compile

/-!
# Compiling many texts

Texts that are compiled with the same tables are numbered from zero.  A caller may want all
constraints or none, only the failures, or both; the three answers are read off the same
compilations.
-/

namespace LayoutLang

/-- The rejection of one text among many. -/
structure BatchFailure where
  index : Nat
  reason : Rejection
deriving DecidableEq, Repr

/-- The wording of the error. -/
def BatchFailure.message (f : BatchFailure) : String :=
  "constraint #" ++ toString f.index ++ ": " ++ f.reason.message

variable {View : Type}

/-- Each text compiled, a rejection being given the number of its text. -/
def compileEach (settings : Settings) (tables : Tables View) (texts : List String) :
    List (Except BatchFailure (Constraint View)) :=
  texts.zipIdx.map fun (text, index) =>
    (compile settings tables text).mapError (⟨index, ·⟩)

/-- The constraints of all texts, or the first failure. -/
def compileAll (settings : Settings) (tables : Tables View) (texts : List String) :
    Except BatchFailure (List (Constraint View)) :=
  (compileEach settings tables texts).mapM id

/-- What went well, in order. -/
def successes {ε α : Type} : List (Except ε α) → List α := List.filterMap Except.toOption

/-- What failed, in order. -/
def failures {ε α : Type} : List (Except ε α) → List ε :=
  List.filterMap fun
    | .ok _ => none
    | .error e => some e

/-- The failures of all texts. -/
def checkAll (settings : Settings) (tables : Tables View) (texts : List String) :
    List BatchFailure :=
  failures (compileEach settings tables texts)

/-- The constraints of the texts that compile, and the failures of the others. -/
def compileBatch (settings : Settings) (tables : Tables View) (texts : List String) :
    List (Constraint View) × List BatchFailure :=
  let results := compileEach settings tables texts
  (successes results, failures results)

end LayoutLang
