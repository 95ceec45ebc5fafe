import TypeExpr.Decimal.Basic

/-!
# Reading a double

The written forms of a double: a sign, then digits with a point before, among or after them, then
an exponent; or one of the words for the infinities and for what is not a number, in any case.
Sign and exponent may be absent, and so may the digits on one side of the point.
-/

namespace TypeExpr

/-- A decimal digit. -/
def isDigit (c : Char) : Bool := '0' ≤ c && c ≤ '9'

/-- The whole number that decimal digits stand for. -/
def digitsValue (ds : List Char) : Nat := ds.foldl (fun n c => 10 * n + (c.toNat - '0'.toNat)) 0

/-- A number with its sign. -/
def signed (negative : Bool) (n : Nat) : Int := if negative then -(n : Int) else n

/-- The decimal that digits before a point, digits after it and an exponent stand for. -/
def Decimal.ofParts (negative : Bool) (whole fraction : List Char) (exponent : Int) : Decimal :=
  ⟨negative, digitsValue (whole ++ fraction), exponent - fraction.length⟩

/-- A sign at the front of a text, and the rest; no sign counts as plus. -/
def splitSign : List Char → Bool × List Char
  | '-' :: cs => (true, cs)
  | '+' :: cs => (false, cs)
  | cs => (false, cs)

/-- The value of an exponent that runs to the end of the text; no text at all counts as zero. -/
def exponentValue? : List Char → Option Int
  | [] => some 0
  | c :: cs =>
    let (negative, ds) := splitSign cs
    if (c = 'e' ∨ c = 'E') ∧ ds ≠ [] ∧ ds.all isDigit then some (signed negative (digitsValue ds))
    else none

/-- The double that a text writes. -/
def Double.ofText? (text : String) : Option Double :=
  let (negative, cs) := splitSign text.toList
  let word := cs.map Char.toLower
  if word = "nan".toList then some .nan
  else if word = "inf".toList ∨ word = "infinity".toList then some (.infinite negative)
  else
    let whole := cs.takeWhile isDigit
    let (fraction, rest) := match cs.dropWhile isDigit with
      | '.' :: r => (r.takeWhile isDigit, r.dropWhile isDigit)
      | r => ([], r)
    if whole = [] ∧ fraction = [] then none
    else (exponentValue? rest).map fun e => ofDecimal (.ofParts negative whole fraction e)

example : Double.ofText? "-0" = some (.zero true) := by decide +kernel
example : Double.ofText? ".5E+0" = Double.ofText? "5e-1" := by decide +kernel
example : Double.ofText? "." = none ∧ Double.ofText? "1e" = none := by decide +kernel

end TypeExpr
