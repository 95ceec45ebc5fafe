import TypeExpr.Arity
import TypeExpr.Command.Arguments
import TypeExpr.Command.Basic
import TypeExpr.Command.Check
import TypeExpr.Command.Parse
import TypeExpr.DataType.Basic
import TypeExpr.DataType.Interning
import TypeExpr.DataType.Json
import TypeExpr.DataType.Outline
import TypeExpr.DataType.Render
import TypeExpr.Decimal.Basic
import TypeExpr.Decimal.Layout
import TypeExpr.Decimal.Read
import TypeExpr.Double
import TypeExpr.Failure
import TypeExpr.Files.Basic
import TypeExpr.Files.Glob
import TypeExpr.Files.Search
import TypeExpr.Main
import TypeExpr.Node.Basic
import TypeExpr.Node.Denotation
import TypeExpr.Node.Parser
import TypeExpr.Proofs.Accounts
import TypeExpr.Proofs.Agreement
import TypeExpr.Proofs.Blame
import TypeExpr.Proofs.Canonical
import TypeExpr.Proofs.Case
import TypeExpr.Proofs.Composition
import TypeExpr.Proofs.Decoding
import TypeExpr.Proofs.Depth
import TypeExpr.Proofs.Derivation
import TypeExpr.Proofs.Documents
import TypeExpr.Proofs.EarliestError
import TypeExpr.Proofs.Enclosing
import TypeExpr.Proofs.Faults
import TypeExpr.Proofs.FirstFailure
import TypeExpr.Proofs.Form
import TypeExpr.Proofs.Grammar
import TypeExpr.Proofs.Guard
import TypeExpr.Proofs.Integers
import TypeExpr.Proofs.Levels
import TypeExpr.Proofs.Lines
import TypeExpr.Proofs.Literals
import TypeExpr.Proofs.Locating
import TypeExpr.Proofs.Made
import TypeExpr.Proofs.Messages
import TypeExpr.Proofs.Naturality
import TypeExpr.Proofs.Numbering
import TypeExpr.Proofs.Numerals
import TypeExpr.Proofs.Parsing
import TypeExpr.Proofs.Parts
import TypeExpr.Proofs.Pieces
import TypeExpr.Proofs.Positions
import TypeExpr.Proofs.Productions
import TypeExpr.Proofs.Progress
import TypeExpr.Proofs.Quotation
import TypeExpr.Proofs.Quoting
import TypeExpr.Proofs.Reading
import TypeExpr.Proofs.Refusals
import TypeExpr.Proofs.Rereading
import TypeExpr.Proofs.Resources
import TypeExpr.Proofs.RoundTrip
import TypeExpr.Proofs.Rounding
import TypeExpr.Proofs.Rules
import TypeExpr.Proofs.Sameness
import TypeExpr.Proofs.Shape
import TypeExpr.Proofs.Shortest
import TypeExpr.Proofs.SignedZero
import TypeExpr.Proofs.Spelling
import TypeExpr.Proofs.Stepwise
import TypeExpr.Proofs.Subterms
import TypeExpr.Proofs.Tiling
import TypeExpr.Proofs.Trimming
import TypeExpr.Proofs.Underline
import TypeExpr.Proofs.Unquoted
import TypeExpr.Proofs.Unusable
import TypeExpr.Proofs.Ways
import TypeExpr.Proofs.Words
import TypeExpr.Regex.Basic
import TypeExpr.Regex.Check
import TypeExpr.Regex.Property
import TypeExpr.Regex.Reader
import TypeExpr.Report
import TypeExpr.Span
import TypeExpr.SyntaxError
import TypeExpr.Text.Alphanumeric
import TypeExpr.Text.Blank
import TypeExpr.Text.Bytes
import TypeExpr.Text.Case
import TypeExpr.Text.CaseTable
import TypeExpr.Text.CodePoints
import TypeExpr.Text.Escape
import TypeExpr.Text.Printable
import TypeExpr.Text.Quoted
import TypeExpr.Text.Source
import TypeExpr.Text.Trivia
import TypeExpr.Token.Basic
import TypeExpr.Token.Delimited
import TypeExpr.Token.Lexer
import TypeExpr.Token.Numeral
import TypeExpr.Token.Word
import TypeExpr.TypeName
