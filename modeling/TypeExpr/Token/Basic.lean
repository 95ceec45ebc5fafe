import TypeExpr.Span
import TypeExpr.Decimal.Layout

/-!
# Tokens

The words of a specification: names and references, literals, and the three marks that give it
structure.  A lexeme is a token together with the span of its spelling.

What stands between slashes is a token only if it can be used as a pattern.  Which texts can, is not
for specifications to say, so it is a parameter (`PatternLanguage`) of everything that reads tokens.
-/

namespace TypeExpr

/-- A word of a specification. -/
inductive Token where
  /-- A lower-case word with `::` between its segments, spelled as written. -/
  | name (spelling : String)
  /-- A capitalised word with `::` between its segments, spelled as written. -/
  | reference (spelling : String)
  | string (value : String)
  | integer (value : Int64)
  | float (value : Double)
  /-- A pattern, without its slashes and without the escapes of slashes in it. -/
  | regex (pattern : String)
  | openBracket
  | closeBracket
  | comma
  deriving DecidableEq

/-- Which texts can be used as patterns.  No law is asked of it: whatever the language of patterns
    is, a specification is read in the same way but for this one answer. -/
class PatternLanguage where
  /-- The text can be used as a pattern. -/
  compiles : List Char → Bool

/-- A token and where it was written. -/
structure Lexeme where
  token : Token
  span : Span
  deriving DecidableEq

/-- In a message a double is written out, without an exponent and without a decimal place that it
    does not need. -/
def messageNotation : DecimalNotation := ⟨.up, fun _ => true, false, false⟩

/-- What a message calls a token. -/
def Token.describe : Token → String
  | name n => "name `" ++ n ++ "`"
  | reference r => "reference `" ++ r ++ "`"
  | string _ => "string"
  | integer n => "integer " ++ toString n.toInt
  | float x => "float " ++ x.text messageNotation
  | regex _ => "regular expression"
  | openBracket => "'['"
  | closeBracket => "']'"
  | comma => "','"

end TypeExpr
