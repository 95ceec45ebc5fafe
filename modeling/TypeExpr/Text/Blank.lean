import TypeExpr.Text.CodePoints

/-!
# Blanks

The characters that separate tokens and that a line is trimmed of: the `White_Space` property.  It
has seventeen ASCII and non-ASCII spaces and eight controls and separators, the line feed among
them, and neither the zero-width space nor the byte order mark.
-/

namespace TypeExpr.Text

/-- The characters with the `White_Space` property. -/
def blankRanges : Ranges :=
  [(0x0009, 0x000D), (0x0020, 0x0020), (0x0085, 0x0085), (0x00A0, 0x00A0), (0x1680, 0x1680),
   (0x2000, 0x200A), (0x2028, 0x2029), (0x202F, 0x202F), (0x205F, 0x205F), (0x3000, 0x3000)]

/-- A character that separates tokens and has no ink. -/
def isBlank (c : Char) : Bool := blankRanges.has c

/-- A text without the blanks before its first and after its last other character. -/
def trim (cs : List Char) : List Char :=
  ((cs.dropWhile isBlank).reverse.dropWhile isBlank).reverse

theorem isBlank_newline : isBlank '\n' = true := by decide

example : trim " \t a b\u3000\n".toList = "a b".toList := by decide +kernel
example : isBlank '\u200b' = false ∧ isBlank '\ufeff' = false := by decide

end TypeExpr.Text
