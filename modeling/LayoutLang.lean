import LayoutLang.Attribute
import LayoutLang.Batch
import LayoutLang.Binary64.Arithmetic
import LayoutLang.Binary64.Basic
import LayoutLang.Binary64.Rounding
import LayoutLang.Command.Arguments
import LayoutLang.Command.Metric
import LayoutLang.Command.Run
import LayoutLang.Compile
import LayoutLang.Constraint
import LayoutLang.Constraint.Listing
import LayoutLang.Constraint.Printer
import LayoutLang.Decimal.Basic
import LayoutLang.Decimal.Grammar
import LayoutLang.Decimal.Layout
import LayoutLang.Decimal.Shortest
import LayoutLang.Main
import LayoutLang.Rejection
import LayoutLang.Relation
import LayoutLang.Resolution
import LayoutLang.Settings
import LayoutLang.Span
import LayoutLang.Statement
import LayoutLang.Statement.Parser
import LayoutLang.Statement.Printer
import LayoutLang.Table
import LayoutLang.Text.Alternatives
import LayoutLang.Text.Lines
import LayoutLang.Text.Offset
import LayoutLang.Text.Quoted
import LayoutLang.Token
import LayoutLang.Token.Lexer
import LayoutLang.Unicode.DefaultIgnorable
import LayoutLang.Unicode.GraphemeExtend
import LayoutLang.Unicode.IdentifierContinue
import LayoutLang.Unicode.IdentifierStart
import LayoutLang.Unicode.Ranges
import LayoutLang.Unicode.Unprintable
import LayoutLang.Unicode.WhiteSpace
import LayoutLang.Proofs.Outcome
import LayoutLang.Proofs.Span
import LayoutLang.Proofs.Resolution.Checks
import LayoutLang.Proofs.Statement.Expected
import LayoutLang.Proofs.Statement.Stage
import LayoutLang.Proofs.Token.Piece
import LayoutLang.Proofs.Statement.Written
import LayoutLang.Proofs.Rejection
import LayoutLang.Proofs.Statement.Grammar
import LayoutLang.Proofs.Decimal.Literal
import LayoutLang.Proofs.Token.Pattern
import LayoutLang.Proofs.Token.Scan
import LayoutLang.Proofs.Binary64.Order
import LayoutLang.Proofs.Decimal.ReadBack
import LayoutLang.Proofs.Resolution
import LayoutLang.Proofs.Constraint.Meaning
import LayoutLang.Proofs.Token.Spelling
import LayoutLang.Proofs.Constraint.Canonical
import LayoutLang.Proofs.Constraint.WellFormed
import LayoutLang.Proofs.Constraint.RoundTrip
import LayoutLang.Proofs.Batch
import LayoutLang.Proofs.Text.Lines
import LayoutLang.Proofs.Constraint.Line
import LayoutLang.Proofs.Command.FixedPoint
import LayoutLang.Proofs.Command.Run
import LayoutLang.Proofs.Token.Spaced
import LayoutLang.Proofs.Statement.Unplaced
import LayoutLang.Proofs.Resolution.Unplaced
import LayoutLang.Proofs.Spacing
import LayoutLang.Proofs.Resolution.Alike
import LayoutLang.Proofs.Resolution.Lookup
import LayoutLang.Proofs.Constraint.Overflow
import LayoutLang.Proofs.Constraint.Undivided
import LayoutLang.Proofs.RequiredPriority
import LayoutLang.Proofs.Token.Lexeme
import LayoutLang.Proofs.Statement.Spans
import LayoutLang.Proofs.Text.Offset
import LayoutLang.Proofs.Diagnostic
import LayoutLang.Proofs.Statement.PrefixForm
import LayoutLang.Proofs.Command.File
import LayoutLang.Proofs.Command.Arguments
import LayoutLang.Proofs.Command.TableFlags
import LayoutLang.Proofs.Statement.Message
import LayoutLang.Proofs.Binary64.Range
import LayoutLang.Proofs.Decimal.Grammar
import LayoutLang.Proofs.Command.Metric
