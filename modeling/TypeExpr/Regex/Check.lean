import TypeExpr.Regex.Reader
import TypeExpr.Token.Basic

/-!
# Which texts are patterns

A text can be used as a pattern if it can be read as one, has no more than `maxHeight` levels, and
can only match characters.  This is the language of patterns that the program runs with, and the one
that examples are computed in; what is proved of specifications holds for any other one as well.

How much room it would take to match a pattern is not looked at, so that a number of repetitions may
be as large as can be written.
-/

namespace TypeExpr

namespace Regex

/-- How many levels a pattern may have. -/
def maxHeight : Nat := 250

/-- The text can be used as a pattern. -/
def compiles (text : List Char) : Bool :=
  match read? text with
  | some r => r.height ≤ maxHeight && r.isLegal
  | none => false

example : compiles "^(?:a|b)+[^\\d&&[:alpha:]]$".toList = true := by decide +kernel
example : compiles "a{2,1}".toList = false ∧ compiles "a{ 1 ,2}".toList = true := by decide +kernel
example : compiles "(?-u)\\W".toList = false ∧ compiles "(?-u:\\w)\\W".toList = true := by
  decide +kernel

end Regex

namespace Program

/-- The patterns of the program are regular expressions. -/
scoped instance regularExpressions : PatternLanguage := ⟨Regex.compiles⟩

end Program

end TypeExpr
