import LayoutLang.Decimal.Grammar
import LayoutLang.Text.Lines

/-!
# Metrics on the command line

A metric is given as `NAME=VALUE`.  White space around either is not part of it.
-/

namespace LayoutLang.Command

/-- Why a text gives no metric. -/
inductive MetricError where
  | noValue
  /-- The name is the text before the equals sign as it was given. -/
  | badValue (name : String) (reason : NumberError)
deriving DecidableEq, Repr

/-- The wording of a `MetricError`. -/
def MetricError.message : MetricError → String
  | .noValue => "expected a metric in the form NAME=VALUE"
  | .badValue name reason => "invalid value for metric `" ++ name ++ "`: " ++ reason.message

/-- The name and the value of a metric.  The first equals sign ends the name. -/
def metricOfText (text : String) : Except MetricError (String × Binary64) :=
  let name := text.toList.takeWhile (· ≠ '=')
  match text.toList.dropWhile (· ≠ '=') with
  | [] => .error .noValue
  | _ :: value =>
    match Binary64.ofText (.ofList (Text.trim value)) with
    | .ok x => .ok (.ofList (Text.trim name), x)
    | .error e => .error (.badValue (.ofList name) e)

end LayoutLang.Command
