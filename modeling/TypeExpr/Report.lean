import TypeExpr.Failure

/-!
# Reports

A failure is reported with the line of the text on which it begins and a row of carets under the
part that it blames.  The carets stop at the end of the line, and there is always one at least.

The room on the left of the carets is as wide as what stands before the failure on its line.  Such a
width is a number of 16 bits, and nothing is written if it would have to be larger: a failure that
begins too far to the right has no report (`Failure.report?`).
-/

namespace TypeExpr

/-- A text in bold red, for a terminal. -/
def highlight (s : String) : String := "\x1b[1;31m" ++ s ++ "\x1b[0m"

/-- A text, in color if colors are wanted. -/
def paint (color : Bool) (s : String) : String := if color then highlight s else s

/-- A number of equal characters. -/
def row (n : Nat) (c : Char) : String := "".pushn c n

/-- The largest width that something can be padded to, which is the largest number of 16 bits. -/
def widest : Nat := 65535

/-- Room of a width, if it can be made. -/
def padding? (width : Nat) : Option String :=
  if width ≤ widest then some (row width ' ') else none

theorem padding?_of_le {width : Nat} (h : width ≤ widest) : padding? width = some (row width ' ') :=
  if_pos h

theorem padding?_of_lt {width : Nat} (h : widest < width) : padding? width = none :=
  if_neg (Nat.not_le.2 h)

namespace Failure

/-- What is wrong, and where. -/
def heading (f : Failure) (p : Text.Position) (color : Bool) : String :=
  paint color ("error[" ++ f.cause.kindName ++ "]") ++ ": " ++ f.message ++ "\n" ++
    " --> " ++ toString p.line ++ ":" ++ toString p.column ++ "\n"

/-- How many carets stand under a line of a text on which the failure begins at a column. -/
def underlined (f : Failure) (text line : List Char) (column : Nat) : Nat :=
  if f.span.isEmpty then 1
  else max 1 (min (Text.slice text f.span).length (line.length - (column - 1)))

/-- The report of a failure against the text it arose in, unless something in it would have to be
    padded too far. -/
def report? (f : Failure) (source : String) (color : Bool) : Option String :=
  let text := source.toList
  let p := Text.position text f.span.start
  let number := toString p.line
  match Text.line? text p.line with
  | none => some (f.heading p color)
  | some line => do
    let gutter ← padding? number.length
    let room ← padding? (p.column - 1)
    return f.heading p color ++ gutter ++ " |\n" ++
      number ++ " | " ++ String.ofList line ++ "\n" ++
      gutter ++ " | " ++ room ++ paint color (row (f.underlined text line p.column) '^') ++ "\n"

example : report? ⟨.unparameterizedType, "Boolean[1]", ⟨6, 16⟩⟩ "Array[Boolean[1]]" false = some
    ("error[UnparameterizedType]: Not a parameterized type <Boolean[1]>\n --> 1:7\n" ++
      "  |\n1 | Array[Boolean[1]]\n  |       ^^^^^^^^^^\n") := by decide +kernel

end Failure

end TypeExpr
