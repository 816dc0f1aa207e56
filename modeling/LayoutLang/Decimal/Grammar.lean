import LayoutLang.Binary64.Arithmetic
import LayoutLang.Decimal.Basic

/-!
# Reading a number

The number that a flag gives is read more liberally than a literal of the language: it may have a
sign, an exponent, a point without digits on one side of it, and it may be `inf`, `infinity` or
`nan` in any case.  The whole text has to be the number; there is no blank around it.
-/

namespace LayoutLang

/-- Why a text is no number. -/
inductive NumberError where
  | empty
  | invalid
deriving DecidableEq, Repr

/-- The wording of a `NumberError`. -/
def NumberError.message : NumberError → String
  | .empty => "cannot parse float from empty string"
  | .invalid => "invalid float literal"

namespace Decimal

/-- Whether a text starts with a minus sign, and what follows its sign. -/
def splitSign : List Char → Bool × List Char
  | '-' :: cs => (true, cs)
  | '+' :: cs => (false, cs)
  | cs => (false, cs)

/-- The number at the end of an exponent: a sign or none, and at least one digit. -/
def signedDigits? (cs : List Char) : Option Int :=
  let (negative, ds) := splitSign cs
  if ds ≠ [] ∧ ds.all Char.isDigit then
    let n : Int := Nat.ofDigitChars 10 ds 0
    some (if negative then -n else n)
  else none

/-- The exponent that follows the digits of a number; 0 if nothing follows them. -/
def exponent? : List Char → Option Int
  | [] => some 0
  | 'e' :: cs => signedDigits? cs
  | 'E' :: cs => signedDigits? cs
  | _ => none

/-- Brings an exponent into the range in which it matters.  With at most `n` digits, magnitudes
beyond it all round to zero, or if they are not zero to infinity. -/
def clampExponent (n : Nat) (e : Int) : Int :=
  if e < -(n + 400 : Int) then -(n + 400 : Int) else if 400 < e then 400 else e

/-- The digits before the point and after it, and what follows them. -/
def splitDigits (cs : List Char) : List Char × List Char × List Char :=
  let whole := cs.takeWhile Char.isDigit
  match cs.dropWhile Char.isDigit with
  | '.' :: rest => (whole, rest.takeWhile Char.isDigit, rest.dropWhile Char.isDigit)
  | rest => (whole, [], rest)

/-- A number without its sign.  The point may lack digits on one side but not on both. -/
def ofText? (cs : List Char) : Option Decimal := do
  let (whole, fraction, rest) := splitDigits cs
  if whole = [] ∧ fraction = [] then none
  let e ← exponent? rest
  let d := ofParts whole fraction
  some ⟨d.digits, clampExponent (whole.length + fraction.length) (d.exponent + e)⟩

end Decimal

namespace Binary64

/-- The numbers that are written as words, in any case. -/
def ofWord? (negative : Bool) (cs : List Char) : Option Binary64 :=
  match String.ofList (cs.map Char.toLower) with
  | "inf" => some (.infinity negative)
  | "infinity" => some (.infinity negative)
  | "nan" => some .nan
  | _ => none

/-- The double that a text gives: the nearest one to the number that is written. -/
def ofText (text : String) : Except NumberError Binary64 :=
  if text.isEmpty then .error .empty
  else
    let (negative, cs) := Decimal.splitSign text.toList
    match ofWord? negative cs with
    | some x => .ok x
    | none =>
      match Decimal.ofText? cs with
      | some d => .ok (ofDecimal negative d)
      | none => .error .invalid

example : (ofText "+.5e1").toOption = some (ofDecimal false ⟨5, 0⟩) := by decide +kernel
example : (ofText "-Infinity").toOption = some (.infinity true) := by decide +kernel
example : (ofText "1e400").toOption = some (.infinity false) := by decide +kernel
example : (ofText "1e").toOption = none := by decide +kernel
example : (ofText " 1").toOption = none := by decide +kernel

end Binary64

end LayoutLang
