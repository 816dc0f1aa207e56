import LayoutLang.Command.Metric

/-!
# Arguments

The words of a command line are flags, values of flags, and formats.  A long flag takes its value
after an equals sign or from the next word, a short one also from the rest of its own word.  After
a word `--` all words are formats.
-/

namespace LayoutLang.Command

/-- What the words of a command line ask for. -/
structure Arguments where
  views : List String := []
  metrics : List (String × Binary64) := []
  requiredPriority : Option Binary64 := none
  file : Option String := none
  debug : Bool := false
  formats : List String := []
deriving DecidableEq, Inhabited

/-- The flags. -/
inductive Flag where
  | view
  | metric
  | requiredPriority
  | file
  | debug
  | help
  | version
deriving DecidableEq, Repr

/-- A flag as it is written. -/
def Flag.text : Flag → String
  | .view => "--view"
  | .metric => "--metric"
  | .requiredPriority => "--required-priority"
  | .file => "--file"
  | .debug => "--debug"
  | .help => "--help"
  | .version => "--version"

/-- Why the words are not carried out. -/
inductive Refusal where
  /-- Only an explanation of the flags is wanted. -/
  | helpWanted
  /-- Only the version is wanted. -/
  | versionWanted
  | unknownFlag (word : String)
  | missingValue (flag : Flag)
  | unwantedValue (flag : Flag)
  | repeated (flag : Flag)
  | badMetric (text : String) (reason : MetricError)
  | badPriority (text : String) (reason : NumberError)
deriving DecidableEq, Repr

/-- The wording of a `Refusal`. -/
def Refusal.message : Refusal → String
  | .helpWanted => ""
  | .versionWanted => ""
  | .unknownFlag word => "error: unexpected argument '" ++ word ++ "' found\n"
  | .missingValue flag => "error: a value is required for '" ++ flag.text ++ "'\n"
  | .unwantedValue flag => "error: no value is allowed for '" ++ flag.text ++ "'\n"
  | .repeated flag => "error: '" ++ flag.text ++ "' cannot be used multiple times\n"
  | .badMetric text reason =>
    "error: invalid value '" ++ text ++ "' for '--metric': " ++ reason.message ++ "\n"
  | .badPriority text reason =>
    "error: invalid value '" ++ text ++ "' for '--required-priority': " ++ reason.message ++ "\n"

/-! ## Words -/

/-- What a word is by its form. -/
inductive Word where
  | format
  | onlyFormats
  | flag (flag : Flag) (value : Option String)
  | unknown

/-- The flag of a name after two hyphens. -/
def Flag.ofName? : String → Option Flag
  | "view" => some .view
  | "metric" => some .metric
  | "required-priority" => some .requiredPriority
  | "file" => some .file
  | "debug" => some .debug
  | "help" => some .help
  | "version" => some .version
  | _ => none

/-- The value in a word after the name of a flag: what follows the equals sign. -/
def attachedValue? : List Char → Option String
  | '=' :: value => some (.ofList value)
  | _ => none

/-- The form of a word.  Behind one hyphen the first letter decides: the rest is the value of a flag
that takes one, and is not looked at behind a flag that takes none. -/
def Word.ofText (word : String) : Word :=
  match word.toList with
  | ['-', '-'] => .onlyFormats
  | '-' :: '-' :: cs =>
    match Flag.ofName? (.ofList (cs.takeWhile (· ≠ '='))) with
    | some f => .flag f (attachedValue? (cs.dropWhile (· ≠ '=')))
    | none => .unknown
  | '-' :: 'h' :: _ => .flag .help none
  | '-' :: 'V' :: _ => .flag .version none
  | ['-', 'f'] => .flag .file none
  | '-' :: 'f' :: '=' :: value => .flag .file (some (.ofList value))
  | '-' :: 'f' :: value => .flag .file (some (.ofList value))
  | ['-'] => .format
  | '-' :: _ => .unknown
  | _ => .format

/-- Whether a word can be the value of the flag before it: one that looks like a flag is none. -/
def isValue (word : String) : Bool :=
  match Word.ofText word with
  | .format => true
  | _ => false

/-! ## Reading the words -/

namespace Arguments

/-- What is asked for once a flag with this value is read too. -/
def withValue (a : Arguments) (flag : Flag) (value : String) : Except Refusal Arguments :=
  match flag with
  | .view => .ok { a with views := a.views ++ [value] }
  | .metric =>
    match metricOfText value with
    | .ok m => .ok { a with metrics := a.metrics ++ [m] }
    | .error e => .error (.badMetric value e)
  | .requiredPriority =>
    if a.requiredPriority.isSome then .error (.repeated flag)
    else
      match Binary64.ofText value with
      | .ok p => .ok { a with requiredPriority := some p }
      | .error e => .error (.badPriority value e)
  | .file => if a.file.isSome then .error (.repeated flag) else .ok { a with file := some value }
  | .debug => .error (.unwantedValue flag)
  | .help => .error (.unwantedValue flag)
  | .version => .error (.unwantedValue flag)

/-- What is asked for once these words are read too. -/
def read (a : Arguments) : List String → Except Refusal Arguments
  | [] => .ok a
  | word :: rest =>
    match Word.ofText word with
    | .format => read { a with formats := a.formats ++ [word] } rest
    | .onlyFormats => .ok { a with formats := a.formats ++ rest }
    | .unknown => .error (.unknownFlag word)
    | .flag .help none => .error .helpWanted
    | .flag .version none => .error .versionWanted
    | .flag .debug none =>
      if a.debug then .error (.repeated .debug) else read { a with debug := true } rest
    | .flag flag (some value) => do
      let a ← a.withValue flag value
      read a rest
    | .flag flag none =>
      match rest with
      | [] => .error (.missingValue flag)
      | value :: rest =>
        if isValue value then do
          let a ← a.withValue flag value
          read a rest
        else .error (.missingValue flag)

/-- What the words of a command line ask for. -/
def ofWords (words : List String) : Except Refusal Arguments := read {} words

end Arguments

end LayoutLang.Command
