import TypeExpr.Decimal.Basic

/-!
# How a double is written

A notation for doubles is a handful of decisions about its shortest decimal: which of two nearest
ones is taken, which powers of ten are written out, whether a whole number keeps a decimal place,
and whether a positive exponent has a sign.  `Double.text` writes a double in a notation.
-/

namespace TypeExpr

/-- The decisions of a notation for doubles. -/
structure DecimalNotation where
  tie : Tie
  /-- Is a number of this decimal order written without an exponent?  The order of 1 is 0. -/
  positional : Int → Bool
  /-- Does a whole number end in `.0`? -/
  wholePlace : Bool
  /-- Does a positive exponent have a sign? -/
  plusSign : Bool

/-- The digits of a number in decimal. -/
def decimalDigits (n : Nat) : List Char := Nat.toDigits 10 n

/-- The digits of a decimal without an exponent. -/
def Decimal.positional (d : Decimal) (wholePlace : Bool) : List Char :=
  let ds := decimalDigits d.digits
  match d.exponent with
  | .ofNat e => ds ++ List.replicate e '0' ++ (if wholePlace then ['.', '0'] else [])
  | .negSucc e =>
    let places := e + 1
    if places < ds.length then
      ds.take (ds.length - places) ++ '.' :: ds.drop (ds.length - places)
    else '0' :: '.' :: (List.replicate (places - ds.length) '0' ++ ds)

/-- The digits of a decimal with an exponent, one of them before the point. -/
def Decimal.scientific (d : Decimal) (plusSign : Bool) : List Char :=
  let ds := decimalDigits d.digits
  let order := d.exponent + ds.length - 1
  ds.take 1 ++ (if ds.length = 1 then [] else '.' :: ds.drop 1) ++
    'e' :: ((if order < 0 then ['-'] else if plusSign then ['+'] else []) ++
      decimalDigits order.natAbs)

/-- A decimal in a notation. -/
def DecimalNotation.write (n : DecimalNotation) (d : Decimal) : List Char :=
  let order := d.exponent + (decimalDigits d.digits).length - 1
  (if d.negative then ['-'] else []) ++
    if d.digits = 0 ∨ n.positional order then d.positional n.wholePlace
    else d.scientific n.plusSign

/-- A double in a notation. -/
def Double.text (n : DecimalNotation) : Double → String
  | .nan => "NaN"
  | .infinite negative => if negative then "-inf" else "inf"
  | .finite negative rank => String.ofList (n.write (shortest n.tie negative rank.val))

end TypeExpr
