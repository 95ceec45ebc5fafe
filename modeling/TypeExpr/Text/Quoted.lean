/-!
# Single-quoted text

A text is quoted by putting it between apostrophes, with a backslash before each apostrophe and
before each backslash in it.  Every text has exactly one quoted form, and no form is the beginning
of another.
-/

namespace TypeExpr.Text

/-- The inside of a quoted text: apostrophes and backslashes are marked by a backslash. -/
def escapeQuoted : List Char → List Char
  | [] => []
  | c :: cs => if c = '\'' ∨ c = '\\' then '\\' :: c :: escapeQuoted cs else c :: escapeQuoted cs

/-- The single-quoted form of a text. -/
def quoteChars (cs : List Char) : List Char := '\'' :: (escapeQuoted cs ++ ['\''])

/-- The single-quoted form of a text. -/
def quote (s : String) : String := String.ofList (quoteChars s.toList)

example : quoteChars "it's \\".toList = "'it\\'s \\\\'".toList := by decide

end TypeExpr.Text
