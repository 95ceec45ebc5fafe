import TypeExpr.Decimal.Read
import TypeExpr.SyntaxError

/-!
# Numerals

The spellings of numbers: whole numbers in three radices, and decimal numbers with a fraction, an
exponent, or both.  `Numeral.split?` takes the longest numeral off the front of a text and
`Numeral.spelling` gives its characters back, so that a numeral and what follows it make up the
text.  A whole number is read as exactly the value of its digits, or refused.

A numeral is kept as it is written, with its digits and marks, and what it stands for is found
afterwards (`Numeral.token`).  So a number that is too large is still known with all of its
characters, which is what an error has to show.
-/

namespace TypeExpr

/-- A digit of a number in hexadecimal. -/
def isHexDigit (c : Char) : Bool :=
  isDigit c || ('a' ≤ c && c ≤ 'f') || ('A' ≤ c && c ≤ 'F')

/-- The value of a digit, if the radix has it. -/
def digitValue? (radix : Nat) (c : Char) : Option Nat :=
  let value :=
    if isDigit c then c.toNat - '0'.toNat
    else if 'a' ≤ c ∧ c ≤ 'f' then c.toNat - 'a'.toNat + 10
    else if 'A' ≤ c ∧ c ≤ 'F' then c.toNat - 'A'.toNat + 10
    else radix
  if value < radix then some value else none

/-- The value of a row of digits after digits of value `n`, if the radix has them all. -/
def radixValue? (radix : Nat) (n : Nat) : List Char → Option Nat
  | [] => some n
  | c :: cs => (digitValue? radix c).bind fun d => radixValue? radix (radix * n + d) cs

/-- An exponent: its mark, its sign if it has one, and its digits. -/
structure Numeral.Exponent where
  mark : Char
  sign : Option Char
  digits : List Char
  deriving DecidableEq

/-- A number as written, without its sign. -/
inductive Numeral where
  | hexadecimal (mark : Char) (digits : List Char)
  | whole (digits : List Char)
  /-- The fraction is empty if there is no point. -/
  | decimal (whole fraction : List Char) (exponent : Option Numeral.Exponent)
  deriving DecidableEq

namespace Numeral

/-! ## Spelling -/

/-- The characters of an exponent. -/
def Exponent.spelling (e : Exponent) : List Char := e.mark :: (e.sign.toList ++ e.digits)

/-- The characters of a numeral. -/
def spelling : Numeral → List Char
  | hexadecimal mark ds => '0' :: mark :: ds
  | whole ds => ds
  | decimal ds fs e =>
    ds ++ (if fs = [] then [] else '.' :: fs) ++ (e.elim [] Exponent.spelling)

/-! ## Taking a numeral off a text -/

/-- A sign at the front of a text, and the rest. -/
def splitSignMark : List Char → Option Char × List Char
  | [] => (none, [])
  | c :: cs => if c = '+' ∨ c = '-' then (some c, cs) else (none, c :: cs)

/-- An exponent at the front of a text, and the rest. -/
def splitExponent? : List Char → Option (Exponent × List Char)
  | [] => none
  | c :: cs =>
    let (sign, ds) := splitSignMark cs
    if (c = 'e' ∨ c = 'E') ∧ ds.takeWhile isDigit ≠ [] then
      some (⟨c, sign, ds.takeWhile isDigit⟩, ds.dropWhile isDigit)
    else none

/-- A hexadecimal number at the front of a text, and the rest. -/
def splitHexadecimal? : List Char → Option (Numeral × List Char)
  | '0' :: c :: cs =>
    if (c = 'x' ∨ c = 'X') ∧ cs.takeWhile isHexDigit ≠ [] then
      some (hexadecimal c (cs.takeWhile isHexDigit), cs.dropWhile isHexDigit)
    else none
  | _ => none

/-- A number in decimal digits at the front of a text, of which `ds` are the first, and the rest. -/
def splitDecimal (ds : List Char) : List Char → Numeral × List Char
  | [] => (whole ds, [])
  | c :: cs =>
    if c = '.' ∧ cs.takeWhile isDigit ≠ [] then
      match splitExponent? (cs.dropWhile isDigit) with
      | some (e, rest) => (decimal ds (cs.takeWhile isDigit) (some e), rest)
      | none => (decimal ds (cs.takeWhile isDigit) none, cs.dropWhile isDigit)
    else match splitExponent? (c :: cs) with
      | some (e, rest) => (decimal ds [] (some e), rest)
      | none => (whole ds, c :: cs)

/-- The longest numeral at the front of a text, and the rest. -/
def split? (cs : List Char) : Option (Numeral × List Char) :=
  match splitHexadecimal? cs with
  | some r => some r
  | none =>
    if cs.takeWhile isDigit = [] then none
    else some (splitDecimal (cs.takeWhile isDigit) (cs.dropWhile isDigit))

/-! ## What a numeral means -/

/-- The 64-bit integer of a value, if it is in range. -/
def int64? (n : Int) : Option Int64 :=
  if Int64.minValue.toInt ≤ n ∧ n ≤ Int64.maxValue.toInt then some (Int64.ofInt n) else none

/-- The value of an exponent. -/
def Exponent.value (e : Exponent) : Int := signed (e.sign = some '-') (digitsValue e.digits)

/-- The radix of a whole number and the digits that count: a number of several digits that begins
    with a zero is octal. -/
def wholeRadix : List Char → Nat × List Char
  | '0' :: d :: ds => (8, d :: ds)
  | ds => (10, ds)

/-- The integer that digits of a radix stand for, if there is one. -/
def integer? (negative : Bool) (radix : Nat) (ds : List Char) : Option Int64 :=
  (radixValue? radix 0 ds).bind fun n => int64? (signed negative n)

/-- The token that a numeral is read as. -/
def token (negative : Bool) (n : Numeral) : Except SyntaxError.Cause Token :=
  let spelled := String.ofList ((if negative then ['-'] else []) ++ n.spelling)
  let integer (radix : Nat) (ds : List Char) :=
    match integer? negative radix ds with
    | some i => .ok (.integer i)
    | none => .error (.invalidInteger spelled)
  match n with
  | hexadecimal _ ds => integer 16 ds
  | whole ds => integer (wholeRadix ds).1 (wholeRadix ds).2
  | decimal ds fs e =>
    let x := Double.ofDecimal (.ofParts negative ds fs (e.elim 0 Exponent.value))
    if x.isFinite then .ok (.float x) else .error (.invalidFloat spelled)

/-! ## A numeral and what follows it make up the text -/

/-- A sign, if there is one, and the rest make up the text. -/
theorem splitSignMark_append (cs : List Char) :
    (splitSignMark cs).1.toList ++ (splitSignMark cs).2 = cs := by
  fun_cases splitSignMark cs <;> simp_all

/-- An exponent's spelling and the rest make up the text. -/
theorem splitExponent?_append {cs : List Char} {e : Exponent} {rest : List Char}
    (h : splitExponent? cs = some (e, rest)) : e.spelling ++ rest = cs := by
  cases cs with
  | nil => simp [splitExponent?] at h
  | cons c cs =>
    simp only [splitExponent?] at h
    split at h
    · simp only [Option.some.injEq, Prod.mk.injEq] at h
      rw [← h.1, ← h.2]
      have := splitSignMark_append cs
      simp [Exponent.spelling, this]
    · simp at h

/-- A hexadecimal number's spelling and the rest make up the text. -/
theorem splitHexadecimal?_append {cs : List Char} {n : Numeral} {rest : List Char}
    (h : splitHexadecimal? cs = some (n, rest)) : n.spelling ++ rest = cs ∧ n.spelling ≠ [] := by
  unfold splitHexadecimal? at h
  split at h
  · split at h
    · simp only [Option.some.injEq, Prod.mk.injEq] at h
      rw [← h.1, ← h.2]
      simp [spelling]
    · simp at h
  · simp at h

/-- A decimal number's spelling and the rest make up the digits it begins with and the text behind
    them, whichever of its parts it has. -/
theorem splitDecimal_append {ds : List Char} (hds : ds ≠ []) (cs : List Char) :
    (splitDecimal ds cs).1.spelling ++ (splitDecimal ds cs).2 = ds ++ cs ∧
      (splitDecimal ds cs).1.spelling ≠ [] := by
  -- The cases are those of the definition: a fraction with or without an exponent, an exponent
  -- alone, and a whole number.
  cases cs with
  | nil => simp [splitDecimal, spelling, hds]
  | cons c cs =>
    simp only [splitDecimal]
    split
    · rename_i hc
      split
      · rename_i e rest he
        have := splitExponent?_append he
        simp [spelling, hc, hds, this]
      · simp [spelling, hc, hds]
    · split
      · rename_i e rest he
        have := splitExponent?_append he
        simp [spelling, hds, this]
      · simp [spelling, hds]

/-- A numeral's spelling and the rest make up the text, and no numeral is empty. -/
theorem split?_append {cs : List Char} {n : Numeral} {rest : List Char}
    (h : split? cs = some (n, rest)) : n.spelling ++ rest = cs ∧ n.spelling ≠ [] := by
  unfold split? at h
  split at h
  · rename_i r hr
    exact splitHexadecimal?_append (hr.trans h)
  · split at h
    · simp at h
    · rename_i hds
      simp only [Option.some.injEq] at h
      have := splitDecimal_append hds (cs.dropWhile isDigit)
      rw [h] at this
      simpa using this

example : (split? "0x1F,".toList) = some (.hexadecimal 'x' "1F".toList, [',']) := by decide
example : (split? "1e-".toList) = some (.whole ['1'], "e-".toList) := by decide
example : (split? "2.5e-1]".toList) =
    some (.decimal ['2'] ['5'] (some ⟨'e', some '-', ['1']⟩), [']']) := by decide
example : (token true (.whole "010".toList)).toOption = some (.integer (-8)) := by decide +kernel
example : (token false (.whole "09".toList)).toOption = none := by decide +kernel

end Numeral

end TypeExpr
