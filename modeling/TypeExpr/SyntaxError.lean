import TypeExpr.Text.Escape
import TypeExpr.Token.Basic

/-!
# Syntax errors

What can be wrong with a text before anything is known of its meaning: characters that make up no
token, and tokens that make up no expression.  An error is a cause and the span it is blamed on;
`SyntaxError.message` puts the cause into words.
-/

namespace TypeExpr

/-- What is wrong with a text. -/
inductive SyntaxError.Cause where
  /-- No token begins with this character. -/
  | unexpectedCharacter (found : Char)
  /-- A word or number runs on into characters that cannot follow it. -/
  | malformedWord
  /-- A minus sign stands without a number. -/
  | numberExpected
  /-- A decimal number is out of range. -/
  | invalidFloat (spelling : String)
  /-- A whole number is out of range, or has digits that its radix lacks. -/
  | invalidInteger (spelling : String)
  | unterminatedString
  | unterminatedRegex
  | invalidRegex (pattern : String)
  /-- Where a type or a value should begin stands something else, or nothing. -/
  | valueExpected (found : Option Token)
  /-- Where a list should go on or close stands something else, or nothing. -/
  | separatorExpected (found : Option Token)
  /-- The expression is complete and the text goes on. -/
  | trailing (found : Token)
  /-- One bracket too many is open. -/
  | nestedTooDeeply
  deriving DecidableEq

/-- A cause and the part of the text it is blamed on. -/
structure SyntaxError where
  cause : SyntaxError.Cause
  span : Span
  deriving DecidableEq

/-- What a message says was found. -/
def describeFound : Option Token → String
  | some t => t.describe
  | none => "end of input"

/-- The cause in words. -/
def SyntaxError.Cause.message : SyntaxError.Cause → String
  | unexpectedCharacter c => "unexpected character " ++ Text.showQuotedChar c
  | malformedWord => "malformed word or number"
  | numberExpected => "expected a number"
  | invalidFloat spelling => "invalid float " ++ spelling
  | invalidInteger spelling => "invalid integer " ++ spelling
  | unterminatedString => "unterminated string"
  | unterminatedRegex => "unterminated regular expression"
  | invalidRegex pattern => "invalid regular expression /" ++ pattern ++ "/"
  | valueExpected found => "expected a type or value, got " ++ describeFound found
  | separatorExpected found => "expected ',' or ']', got " ++ describeFound found
  | trailing found => "unexpected " ++ found.describe ++ " after end of specification"
  | nestedTooDeeply => "specification nested too deeply"

/-- The error in words. -/
def SyntaxError.message (e : SyntaxError) : String := e.cause.message

end TypeExpr
