import LayoutLang.Batch
import LayoutLang.Command.Arguments
import LayoutLang.Constraint.Listing
import LayoutLang.Constraint.Printer

/-!
# The command

A run compiles the formats on the command line and those in the file.  It is all or nothing: if
one of them is rejected, no constraint is printed, and every rejection is reported under the
format it belongs to.
-/

namespace LayoutLang.Command

/-- What a run leaves: its exit code and what it has written. -/
structure Outcome where
  code : Nat
  stdout : String
  stderr : String
deriving DecidableEq, Repr

/-- A run that cannot be done, and why. -/
def Outcome.abort (report message : String) : Outcome :=
  ⟨1, "", report ++ "Error: " ++ message ++ "\n"⟩

/-! ## Formats -/

/-- Whether a trimmed line is a format: not blank, and no comment. -/
def isFormat (line : List Char) : Bool :=
  match line with
  | [] => false
  | c :: _ => c ≠ '#'

/-- The formats in a file, one to a line. -/
def formatsOfFile (text : String) : List String :=
  (((Text.lines text.toList).map Text.trim).filter isFormat).map String.ofList

/-- The formats of a run: those on the command line, then those in the file. -/
def formatsOf (a : Arguments) (file : Option String) : List String :=
  match file with
  | some text => a.formats ++ formatsOfFile text
  | none => a.formats

/-! ## Tables and settings -/

/-- The tables that the flags give.  A view has no handle but its name. -/
def tablesOf (a : Arguments) : Tables String :=
  ⟨⟨a.views.map fun v => (v, v)⟩, ⟨a.metrics⟩⟩

/-- The settings that the flags give. -/
def settingsOf (a : Arguments) : Settings :=
  match a.requiredPriority with
  | some p => ⟨p⟩
  | none => {}

/-! ## Reports -/

/-- The report of one failure, under the format it belongs to. -/
def failureReport (formats : Array String) (f : BatchFailure) : String :=
  "constraint #" ++ toString f.index ++ ":\n"
    ++ f.reason.diagnostic (formats[f.index]?.getD "") ++ "\n"

/-- How many failures there were. -/
def failureCount (n : Nat) : String :=
  toString n ++ " constraint" ++ (if n = 1 then "" else "s") ++ " failed to compile"

/-- A constraint as the run prints it. -/
def printed (debug : Bool) (c : Constraint String) : String := if debug then c.listing else c.text

/-- The run that the arguments ask for, given the text of the file that they name. -/
def run (a : Arguments) (file : Option String) : Outcome :=
  match formatsOf a file with
  | [] => .abort "" "no format strings given"
  | formats =>
    match compileBatch (settingsOf a) (tablesOf a) formats with
    | (constraints, []) => ⟨0, Text.unlines (constraints.map (printed a.debug)), ""⟩
    | (_, failures) =>
      .abort (String.join (failures.map (failureReport formats.toArray)))
        (failureCount failures.length)

/-! ## Refusals -/

/-- How the command is used. -/
def usage : String :=
  "Usage: simplefmt [OPTIONS] [FORMATS]...\n\n"
    ++ "Options:\n"
    ++ "      --view <NAME>              A view name that may appear in the formats (repeatable)\n"
    ++ "      --metric <NAME=VALUE>      A metric and its value (repeatable)\n"
    ++ "      --required-priority <P>    The priority of required constraints [default: 1000]\n"
    ++ "  -f, --file <FILE>              Read additional formats from a file, one per line\n"
    ++ "      --debug                    Print all fields of the constraints\n"
    ++ "  -h, --help                     Print help\n"
    ++ "  -V, --version                  Print version\n"

/-- The name of the command and its version. -/
def version : String := "simplefmt-cli 0.0.0-dev\n"

/-- The outcome of words that are not carried out. -/
def Refusal.outcome : Refusal → Outcome
  | .helpWanted => ⟨0, usage, ""⟩
  | .versionWanted => ⟨0, version, ""⟩
  | refusal => ⟨2, "", refusal.message ++ "\n" ++ usage⟩

end LayoutLang.Command
