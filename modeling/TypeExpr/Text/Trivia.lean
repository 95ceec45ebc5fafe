import TypeExpr.Text.Blank

/-!
# Blanks and comments

What may stand between the words of a text without belonging to any: blanks, and comments, which run
from `#` to the end of the line.
-/

namespace TypeExpr.Text

/-- The blanks and comments at the front of a text, and the rest.  Within a comment everything up
    to the line feed belongs to them. -/
def splitTrivia (inComment : Bool) : List Char → List Char × List Char
  | [] => ([], [])
  | c :: cs =>
    if inComment then (splitTrivia (c != '\n') cs).map (c :: ·) id
    else if isBlank c then (splitTrivia false cs).map (c :: ·) id
    else if c = '#' then (splitTrivia true cs).map (c :: ·) id
    else ([], c :: cs)

/-- A text without the blanks and comments at its front. -/
def dropTrivia (cs : List Char) : List Char := (splitTrivia false cs).2

theorem splitTrivia_append (inComment : Bool) (cs : List Char) :
    (splitTrivia inComment cs).1 ++ (splitTrivia inComment cs).2 = cs := by
  fun_induction splitTrivia inComment cs <;> simp_all

example : dropTrivia " # a\n\t#\nb #".toList = "b #".toList := by decide

end TypeExpr.Text
