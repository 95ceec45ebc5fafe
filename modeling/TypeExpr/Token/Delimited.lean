/-!
# Delimited literals

Strings and patterns stand between two marks of one kind.  Inside, a backslash takes the character
after it along, so that a mark behind a backslash does not close the literal; what such a pair
stands for depends on the kind.  A pattern has to close on the line it begins on.
-/

namespace TypeExpr

/-- How literals of a kind are written. -/
structure Delimiter where
  /-- The character before and after the literal. -/
  mark : Char
  /-- What a backslash and the given character stand for. -/
  unescape : Char → List Char
  /-- A bare line feed ends the search for the closing mark. -/
  oneLine : Bool

namespace Delimiter

/-- Between apostrophes only the apostrophe and the backslash can be escaped. -/
def apostrophe : Delimiter where
  mark := '\''
  unescape c := if c = '\'' ∨ c = '\\' then [c] else ['\\', c]
  oneLine := false

/-- Between double quotes there are escapes for white space and the dollar sign as well. -/
def doubleQuote : Delimiter where
  mark := '"'
  unescape c :=
    if c = '"' ∨ c = '\\' ∨ c = '$' then [c]
    else if c = 'n' then ['\n']
    else if c = 't' then ['\t']
    else if c = 'r' then ['\r']
    else if c = 's' then [' ']
    else ['\\', c]
  oneLine := false

/-- Between slashes the backslash belongs to the pattern, except before a slash. -/
def slash : Delimiter where
  mark := '/'
  unescape c := if c = '/' then [c] else ['\\', c]
  oneLine := true

/-- A literal that was closed: its value, its spelling with the closing mark and without the opening
    one, and the rest of the text. -/
structure Closed where
  value : List Char
  spelling : List Char
  rest : List Char
  deriving DecidableEq

/-- The literal with something before it. -/
def Closed.after (value spelling : List Char) (c : Closed) : Closed :=
  ⟨value ++ c.value, spelling ++ c.spelling, c.rest⟩

/-- Reads on from behind the opening mark up to the closing one, if there is one. -/
def close? (d : Delimiter) : List Char → Option Closed
  | [] => none
  | [c] => if c = d.mark then some ⟨[], [c], []⟩ else none
  | c :: e :: cs =>
    if c = d.mark then some ⟨[], [c], e :: cs⟩
    else if c = '\\' then (d.close? cs).map (.after (d.unescape e) [c, e])
    else if d.oneLine ∧ c = '\n' then none
    else (d.close? (e :: cs)).map (.after [c] [c])

/-! ## A literal and what follows it make up the text -/

theorem close?_append {d : Delimiter} {cs : List Char} {r : Closed} (h : d.close? cs = some r) :
    r.spelling ++ r.rest = cs := by
  fun_induction close? d cs generalizing r with
  | case1 => simp at h
  | case2 => simp at h; simp [← h]
  | case3 => simp at h
  | case4 => simp at h; simp [← h]
  | case5 e cs _ ih =>
    obtain ⟨r', hr, rfl⟩ := Option.map_eq_some_iff.1 h
    simp [Closed.after, ih hr]
  | case6 => simp at h
  | case7 c e cs _ _ _ ih =>
    obtain ⟨r', hr, rfl⟩ := Option.map_eq_some_iff.1 h
    simp [Closed.after, ih hr]

example : apostrophe.close? "it\\'s \\n', x".toList =
    some ⟨"it's \\n".toList, "it\\'s \\n'".toList, ", x".toList⟩ := by decide
example : (slash.close? "a\nb/".toList) = none := by decide
example : (doubleQuote.close? "a\\\"".toList) = none := by decide

end Delimiter

end TypeExpr
