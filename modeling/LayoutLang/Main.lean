import LayoutLang.Command.Run

/-!
# The program

Reads the file that the arguments name, and writes what the run has written.
-/

namespace LayoutLang.Command

/-- Writes what a run has written and gives its exit code. -/
def finish (outcome : Outcome) : IO UInt32 := do
  (← IO.getStdout).putStr outcome.stdout
  (← IO.getStderr).putStr outcome.stderr
  return outcome.code.toUInt32

/-- The text of the file, if one is named, or the outcome of a run that cannot read it. -/
def fileText (a : Arguments) : IO (Except Outcome (Option String)) :=
  match a.file with
  | none => return .ok none
  | some path =>
    try
      return .ok (some (← IO.FS.readFile path))
    catch e =>
      return .error (.abort "" ("failed to read " ++ path ++ "\n\nCaused by:\n    " ++ toString e))

end LayoutLang.Command

open LayoutLang.Command

/-- Runs the command on its arguments. -/
def main (words : List String) : IO UInt32 := do
  match Arguments.ofWords words with
  | .error refusal => finish refusal.outcome
  | .ok a =>
    match ← fileText a with
    | .error outcome => finish outcome
    | .ok file => finish (run a file)
