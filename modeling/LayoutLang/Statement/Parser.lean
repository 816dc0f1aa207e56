import LayoutLang.Statement
import LayoutLang.Text.Alternatives
import LayoutLang.Text.Offset
import LayoutLang.Token

/-!
# From tokens to a statement

The grammar, with `?` for what may be missing:

    statement  :=  term relation rightSide addend? priority?
    term       :=  (operand `*`)? object
    rightSide  :=  object  |  value (`*` object)?
    value      :=  number  |  `-` number  |  identifier
    addend     :=  (`+` | `-`) operand
    priority   :=  `@` operand
    operand    :=  number  |  identifier
    object     :=  identifier  |  dotted

A reader of one part takes tokens from the front of a list and gives what it read and the tokens
after it.  Two tokens of lookahead settle every choice, so that no reader ever goes back, and
where one is stuck the text cannot be mended behind that place.
-/

namespace LayoutLang

/-! ## Errors -/

/-- A token that cannot stand where it stands, and what could. -/
structure SyntaxError where
  position : Nat
  expected : List Token.Kind
  found : Token.Kind
deriving DecidableEq, Repr

namespace SyntaxError

/-- The place before the token, without any bytes of it. -/
def span (e : SyntaxError) : Span := ⟨e.position, e.position⟩

/-- The wording of the error. -/
def message (e : SyntaxError) : String :=
  "syntax error at offset " ++ toString e.position ++ ": expecting "
    ++ Text.alternatives (e.expected.map Token.Kind.text) ++ ", found " ++ e.found.text

end SyntaxError

namespace Statement

/-- A reader that cannot go on: the kinds that could come next, and the tokens that do. -/
structure Stuck where
  expected : List Token.Kind
  rest : List Token.Placed

/-- What was read and the tokens after it. -/
abbrev Reading (α : Type) := Except Stuck (α × List Token.Placed)

/-- The offset after the last token; 0 if there is none. -/
def endOffset (tokens : List Token.Placed) : Nat :=
  match tokens.getLast? with
  | some t => t.span.stop
  | none => 0

/-- The error of a reader of these tokens that is stuck: it lies at the next token, or after the
last one if none is left. -/
def Stuck.error (tokens : List Token.Placed) (stuck : Stuck) : SyntaxError :=
  match stuck.rest with
  | t :: _ => ⟨t.span.start, stuck.expected, t.token.kind⟩
  | [] => ⟨endOffset tokens, stuck.expected, .endOfInput⟩

/-! ## Readers -/

/-- A number or a name for one. -/
def readOperand : List Token.Placed → Reading Operand
  | ⟨.number x, span⟩ :: rest => .ok (.number x span, rest)
  | ⟨.identifier n, span⟩ :: rest => .ok (.name ⟨n, span⟩, rest)
  | rest => .error ⟨[.number, .identifier], rest⟩

/-- An item, or an item and its attribute; the point between them belongs to neither. -/
def readObject (multiplier : Option Operand) : List Token.Placed → Reading Term
  | ⟨.identifier n, span⟩ :: rest => .ok (⟨multiplier, ⟨n, span⟩, none⟩, rest)
  | ⟨.dotted owner member, span⟩ :: rest =>
    let point := span.start + Text.byteLength owner.toList
    .ok (⟨multiplier, ⟨owner, ⟨span.start, point⟩⟩, some ⟨member, ⟨point + 1, span.stop⟩⟩⟩, rest)
  | rest => .error ⟨[.identifier, .dotted], rest⟩

/-- A term.  A number can only be its factor, and a name is one if a star follows it. -/
def readTerm : List Token.Placed → Reading Term
  | ⟨.number x, span⟩ :: ⟨.star, _⟩ :: rest => readObject (some (.number x span)) rest
  | ⟨.number _, _⟩ :: rest => .error ⟨[.star], rest⟩
  | ⟨.identifier n, span⟩ :: ⟨.star, _⟩ :: rest => readObject (some (.name ⟨n, span⟩)) rest
  | rest => readObject none rest

/-- One of the three relations. -/
def readRelation : List Token.Placed → Reading Relation
  | ⟨.relation r, _⟩ :: rest => .ok (r, rest)
  | rest => .error ⟨[.relation], rest⟩

/-- What a value on the right is: a factor if a star follows it, otherwise all there is. -/
def readScaled (value : Operand) : List Token.Placed → Reading RightSide
  | ⟨.star, _⟩ :: rest => (readObject (some value) rest).map fun (t, rest) => (.term t, rest)
  | rest => .ok (.value value, rest)

/-- The right side.  Only here can a minus sign belong to a number. -/
def readRightSide : List Token.Placed → Reading RightSide
  | ⟨.minus, sign⟩ :: ⟨.number x, span⟩ :: rest =>
    readScaled (.number (-x) ⟨sign.start, span.stop⟩) rest
  | ⟨.minus, _⟩ :: rest => .error ⟨[.number], rest⟩
  | ⟨.number x, span⟩ :: rest => readScaled (.number x span) rest
  | ⟨.identifier n, span⟩ :: rest => readScaled (.name ⟨n, span⟩) rest
  | ⟨.dotted owner member, span⟩ :: rest =>
    (readObject none (⟨.dotted owner member, span⟩ :: rest)).map fun (t, rest) => (.term t, rest)
  | rest => .error ⟨[.number, .minus, .identifier, .dotted], rest⟩

/-- An addend, if a sign comes next. -/
def readAddend : List Token.Placed → Reading (Option Addend)
  | ⟨.plus, _⟩ :: rest => (readOperand rest).map fun (o, rest) => (some ⟨.plus, o⟩, rest)
  | ⟨.minus, _⟩ :: rest => (readOperand rest).map fun (o, rest) => (some ⟨.minus, o⟩, rest)
  | rest => .ok (none, rest)

/-- A priority, if its sign comes next. -/
def readPriority : List Token.Placed → Reading (Option Operand)
  | ⟨.atSign, _⟩ :: rest => (readOperand rest).map fun (o, rest) => (some o, rest)
  | rest => .ok (none, rest)

/-- What could come after a statement that is already whole: the parts that it lacks and that may
still follow, or the end. -/
def continuations (constant : Option Addend) (priority : Option Operand) : List Token.Kind :=
  (if constant.isNone && priority.isNone then [.plus, .minus] else [])
    ++ (if priority.isNone then [.atSign] else []) ++ [.endOfInput]

/-- A statement with no token after it. -/
def read (tokens : List Token.Placed) : Except Stuck Statement := do
  let (first, rest) ← readTerm tokens
  let (relation, rest) ← readRelation rest
  let (second, rest) ← readRightSide rest
  let (constant, rest) ← readAddend rest
  let (priority, rest) ← readPriority rest
  match rest with
  | [] => .ok ⟨first, relation, second, constant, priority⟩
  | _ :: _ => .error ⟨continuations constant priority, rest⟩

/-- The statement that the tokens are, or the first place where they cease to be one. -/
def ofTokens (tokens : List Token.Placed) : Except SyntaxError Statement :=
  (read tokens).mapError (Stuck.error tokens)

end Statement

end LayoutLang
