import TypeExpr.Span
import TypeExpr.Text.Bytes

/-!
# Finding one's way in a text

The part of a text that a span covers, the line and column of an offset, and the lines themselves.
All are total: an offset beyond the end counts as the end, and an offset inside a character, which
no span of a token has, as if nothing were known, so that a span with such a bound covers the whole
text and such an offset is at its end.

A line ends before a line feed, or before a carriage return and a line feed; what follows the last
line feed is a line only if it is not empty.
-/

namespace TypeExpr.Text

/-- The part of a text that a span covers. -/
def slice (text : List Char) (span : Span) : List Char :=
  let stop := min span.stop (byteLength text)
  let start := min span.start stop
  match splitBytes start text with
  | none => text
  | some (_, rest) => match splitBytes (stop - start) rest with
    | none => text
    | some (part, _) => part

/-- A line and a character in it, both counted from one. -/
structure Position where
  line : Nat
  column : Nat
  deriving DecidableEq

/-- The characters before an offset. -/
def before (text : List Char) (offset : Nat) : List Char :=
  match splitBytes (min offset (byteLength text)) text with
  | some (part, _) => part
  | none => text

/-- The position behind the given characters. -/
def endPosition (cs : List Char) : Position :=
  ⟨cs.count '\n' + 1, (cs.reverse.takeWhile (· != '\n')).length + 1⟩

/-- The position of an offset. -/
def position (text : List Char) (offset : Nat) : Position := endPosition (before text offset)

/-- A line, given back to front, without the carriage return at its end. -/
def dropReturn : List Char → List Char
  | '\r' :: cs => cs
  | cs => cs

/-- The lines of a text, of whose first one the characters in `line` have been read, last one
    first. -/
def linesAfter (line : List Char) : List Char → List (List Char)
  | [] => if line = [] then [] else [line.reverse]
  | c :: cs =>
    if c = '\n' then (dropReturn line).reverse :: linesAfter [] cs else linesAfter (c :: line) cs

/-- The lines of a text. -/
def lines (text : List Char) : List (List Char) := linesAfter [] text

/-- The line of a number, counted from one. -/
def line? (text : List Char) : Nat → Option (List Char)
  | 0 => none
  | n + 1 => (lines text)[n]?

example : slice "Array[é]".toList ⟨6, 8⟩ = ['é'] := by decide
example : slice "é".toList ⟨1, 2⟩ = ['é'] ∧ slice "ab".toList ⟨1, 9⟩ = ['b'] := by decide
example : lines "a\r\n\nb\r".toList = [['a'], [], ['b', '\r']] := by decide
example : position "é\nab".toList 4 = ⟨2, 2⟩ := by decide

end TypeExpr.Text
