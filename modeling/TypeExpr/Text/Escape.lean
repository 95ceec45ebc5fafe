import TypeExpr.Text.Printable

/-!
# Texts as shown to a reader and as written in JSON

Two ways to put a text between double quotes.  The *shown* form is for a person: what cannot be
seen is written as an escape, and a combining mark is too, since it would join the quote before it.
The JSON form escapes only what JSON requires.
-/

namespace TypeExpr.Text

/-- Lower-case hexadecimal digits of a number, without leading zeros. -/
def hexDigits (n : Nat) : List Char := Nat.toDigits 16 n

/-- The form in which a character is shown between quotes of the given kind. -/
def showChar (mark c : Char) : List Char :=
  if c = '\x00' then ['\\', '0']
  else if c = '\t' then ['\\', 't']
  else if c = '\r' then ['\\', 'r']
  else if c = '\n' then ['\\', 'n']
  else if c = '\\' ∨ c = mark then ['\\', c]
  else if isPrintable c then [c]
  else ['\\', 'u', '\x7b'] ++ hexDigits c.toNat ++ ['\x7d']

/-- A text as shown to a reader, in double quotes. -/
def showText (s : String) : String :=
  String.ofList ('"' :: (s.toList.flatMap (showChar '"') ++ ['"']))

/-- A character as shown to a reader, in apostrophes. -/
def showQuotedChar (c : Char) : String :=
  String.ofList ('\'' :: (showChar '\'' c ++ ['\'']))

/-- The form of a character inside a JSON string. -/
def jsonChar (c : Char) : List Char :=
  if c = '"' ∨ c = '\\' then ['\\', c]
  else if c = '\x08' then ['\\', 'b']
  else if c = '\x0c' then ['\\', 'f']
  else if c = '\n' then ['\\', 'n']
  else if c = '\r' then ['\\', 'r']
  else if c = '\t' then ['\\', 't']
  else if c.toNat < 0x10 then ['\\', 'u', '0', '0', '0'] ++ hexDigits c.toNat
  else if c.toNat < 0x20 then ['\\', 'u', '0', '0'] ++ hexDigits c.toNat
  else [c]

/-- A text as a JSON string. -/
def jsonText (s : String) : String :=
  String.ofList ('"' :: (s.toList.flatMap jsonChar ++ ['"']))

example : showText "a'\t\"\u0301é" = "\"a'\\t\\\"\\u\x7b301\x7dé\"" := by decide +kernel
example : showQuotedChar '"' = "'\"'" ∧ showQuotedChar '\'' = "'\\''" := by decide +kernel
example : jsonText "\x01\x1f\x7f/" = "\"\\u0001\\u001f\x7f/\"" := by decide +kernel

end TypeExpr.Text
