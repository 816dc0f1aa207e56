import LayoutLang.Decimal.Basic
import LayoutLang.Text.Offset
import LayoutLang.Text.Quoted
import LayoutLang.Token
import LayoutLang.Unicode.IdentifierContinue

/-!
# From text to tokens

`next?` takes the longest token from the start of a text, and `scan` goes on from what is left.
Between tokens blanks are passed over.  Where no token starts, the one character there is
reported and the scan goes on after it, so that a scan always reaches the end of the text.

Nothing is lost on the way: what `next?` takes and what it leaves are together the text it was
given (`lexeme_append_rest`), and it never takes nothing (`lexeme_ne_nil`).
-/

namespace LayoutLang

namespace Token

/-! ## Characters -/

/-- The five characters that may stand between tokens. -/
def isBlank (c : Char) : Bool :=
  c = ' ' || c = '\t' || c = '\n' || c = '\r' || c = '\x0c'

/-- Whether a character can be the first of an identifier. -/
def startsIdentifier (c : Char) : Bool := Unicode.isIdentifierStart c || c = '_'

/-- Whether a character can follow in an identifier. -/
def continuesIdentifier (c : Char) : Bool := Unicode.isIdentifierContinue c

/-! ## One token -/

/-- A token at the start of a text, the characters it was read from, and the text after them. -/
structure Match where
  token : Token
  lexeme : List Char
  rest : List Char

/-- Relations and the four signs.  An angle bracket is a token only with the equals sign after
it. -/
def operator? : List Char → Option Match
  | '=' :: rest => some ⟨.relation .equal, ['='], rest⟩
  | '<' :: '=' :: rest => some ⟨.relation .lessOrEqual, ['<', '='], rest⟩
  | '>' :: '=' :: rest => some ⟨.relation .greaterOrEqual, ['>', '='], rest⟩
  | '*' :: rest => some ⟨.star, ['*'], rest⟩
  | '+' :: rest => some ⟨.plus, ['+'], rest⟩
  | '-' :: rest => some ⟨.minus, ['-'], rest⟩
  | '@' :: rest => some ⟨.atSign, ['@'], rest⟩
  | _ => none

/-- The number token of a literal. -/
def ofDigits (whole fraction : List Char) : Token :=
  .number (.ofDecimal false (.ofParts whole fraction))

/-- A point and at least one digit after it: the digits and what follows them. -/
def fraction? : List Char → Option (List Char × List Char)
  | '.' :: cs =>
    let ds := cs.takeWhile Char.isDigit
    if ds = [] then none else some (ds, cs.dropWhile Char.isDigit)
  | _ => none

/-- Digits, then a fraction if there is one.  A number that is too great is the infinity, not an
error. -/
def number? (cs : List Char) : Option Match :=
  let whole := cs.takeWhile Char.isDigit
  let rest := cs.dropWhile Char.isDigit
  if whole = [] then none
  else
    match fraction? rest with
    | some (ds, rest) => some ⟨ofDigits whole ds, whole ++ '.' :: ds, rest⟩
    | none => some ⟨ofDigits whole [], whole, rest⟩

/-- An identifier and what follows it. -/
def identifier? : List Char → Option (List Char × List Char)
  | [] => none
  | c :: cs =>
    if startsIdentifier c then
      some (c :: cs.takeWhile continuesIdentifier, cs.dropWhile continuesIdentifier)
    else none

/-- A point and an identifier after it: the identifier and what follows it. -/
def member? : List Char → Option (List Char × List Char)
  | '.' :: cs => identifier? cs
  | _ => none

/-- An identifier, or two with a point between them. -/
def name? (cs : List Char) : Option Match :=
  match identifier? cs with
  | none => none
  | some (owner, rest) =>
    match member? rest with
    | some (member, rest) =>
      some ⟨.dotted (.ofList owner) (.ofList member), owner ++ '.' :: member, rest⟩
    | none => some ⟨.identifier (.ofList owner), owner, rest⟩

/-- The longest token at the start of a text, if one starts there. -/
def next? (cs : List Char) : Option Match :=
  match operator? cs with
  | some m => some m
  | none =>
    match number? cs with
    | some m => some m
    | none => name? cs

/-! ## A token and the rest make up the text -/

theorem fraction?_eq_some {cs ds rest : List Char} (h : fraction? cs = some (ds, rest)) :
    cs = '.' :: ds ++ rest ∧ ds ≠ [] := by
  unfold fraction? at h
  split at h
  · dsimp only at h
    split at h
    · simp at h
    · next hne =>
      obtain ⟨rfl, rfl⟩ := Prod.mk.inj (Option.some.inj h)
      simp [hne]
  · simp at h

theorem identifier?_eq_some {cs w rest : List Char} (h : identifier? cs = some (w, rest)) :
    cs = w ++ rest ∧ w ≠ [] := by
  unfold identifier? at h
  split at h
  · simp at h
  · split at h
    · obtain ⟨rfl, rfl⟩ := Prod.mk.inj (Option.some.inj h)
      simp
    · simp at h

theorem member?_eq_some {cs w rest : List Char} (h : member? cs = some (w, rest)) :
    cs = '.' :: w ++ rest ∧ w ≠ [] := by
  unfold member? at h
  split at h
  · simpa using identifier?_eq_some h
  · simp at h

theorem operator?_eq_some {cs : List Char} {m : Match} (h : operator? cs = some m) :
    m.lexeme ++ m.rest = cs ∧ m.lexeme ≠ [] := by
  unfold operator? at h
  split at h <;> cases h <;> simp

theorem number?_eq_some {cs : List Char} {m : Match} (h : number? cs = some m) :
    m.lexeme ++ m.rest = cs ∧ m.lexeme ≠ [] := by
  have hcs : cs.takeWhile Char.isDigit ++ cs.dropWhile Char.isDigit = cs :=
    List.takeWhile_append_dropWhile
  simp only [number?] at h
  split at h
  · simp at h
  · next hwhole =>
    split at h
    · next ds rest hf =>
      obtain rfl := Option.some.inj h
      have := (fraction?_eq_some hf).1
      simp only [this] at hcs
      simpa [hwhole] using hcs
    · obtain rfl := Option.some.inj h
      exact ⟨hcs, hwhole⟩

theorem name?_eq_some {cs : List Char} {m : Match} (h : name? cs = some m) :
    m.lexeme ++ m.rest = cs ∧ m.lexeme ≠ [] := by
  unfold name? at h
  split at h
  · simp at h
  · next owner rest ho =>
    obtain ⟨rfl, hne⟩ := identifier?_eq_some ho
    split at h
    · next member rest' hm =>
      obtain rfl := Option.some.inj h
      simp [(member?_eq_some hm).1]
    · obtain rfl := Option.some.inj h
      simp [hne]

theorem next?_eq_some {cs : List Char} {m : Match} (h : next? cs = some m) :
    m.lexeme ++ m.rest = cs ∧ m.lexeme ≠ [] := by
  unfold next? at h
  split at h
  · next ho => exact operator?_eq_some (h ▸ ho)
  · split at h
    · next hn => exact number?_eq_some (h ▸ hn)
    · exact name?_eq_some h

/-- A token and what is left after it are the text. -/
theorem lexeme_append_rest {cs : List Char} {m : Match} (h : next? cs = some m) :
    m.lexeme ++ m.rest = cs := (next?_eq_some h).1

/-- A token has at least one character. -/
theorem lexeme_ne_nil {cs : List Char} {m : Match} (h : next? cs = some m) : m.lexeme ≠ [] :=
  (next?_eq_some h).2

/-- After a token the text is shorter. -/
theorem length_rest_lt {cs : List Char} {m : Match} (h : next? cs = some m) :
    m.rest.length < cs.length := by
  have hlexeme := List.length_pos_iff.2 (lexeme_ne_nil h)
  have hlength := congrArg List.length (lexeme_append_rest h)
  simp only [List.length_append] at hlength
  omega

/-! ## All tokens -/

/-- A character at which no token starts, and its offset. -/
structure Unexpected where
  offset : Nat
  character : Char
deriving DecidableEq, Repr

/-- The bytes of the character. -/
def Unexpected.span (u : Unexpected) : Span := ⟨u.offset, u.offset + u.character.utf8Size⟩

/-- The wording of the error. -/
def Unexpected.message (u : Unexpected) : String :=
  "unexpected character " ++ Text.quotedChar u.character ++ " at offset " ++ toString u.offset

/-- The tokens of a text that starts at an offset, with the characters at which none starts. -/
def scanFrom (offset : Nat) (cs : List Char) : List (Except Unexpected Placed) :=
  match cs with
  | [] => []
  | c :: rest =>
    if isBlank c then scanFrom (offset + c.utf8Size) rest
    else
      match _ : next? (c :: rest) with
      | some m =>
        let stop := offset + Text.byteLength m.lexeme
        .ok ⟨m.token, ⟨offset, stop⟩⟩ :: scanFrom stop m.rest
      | none => .error ⟨offset, c⟩ :: scanFrom (offset + c.utf8Size) rest
termination_by cs.length
decreasing_by
  · simp
  · exact length_rest_lt (by assumption)
  · simp

/-- The tokens of a whole text, with the characters at which none starts. -/
def scan (text : String) : List (Except Unexpected Placed) := scanFrom 0 text.toList

/-- The tokens of a text, or the first character at which none starts. -/
def tokenize (text : String) : Except Unexpected (List Placed) := (scan text).mapM id

end Token

end LayoutLang
