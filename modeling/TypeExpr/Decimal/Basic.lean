import TypeExpr.Double

/-!
# Decimals and the doubles they stand for

A decimal is a sign, a whole number of digits and a power of ten.  Reading one is rounding it to
the nearest double (`Double.ofDecimal`).

In the other direction a double has many decimals; the *shortest* is the one with the fewest digits
among those that read back, and the nearest to the double among these.  Measured in units of
10⁻¹⁰⁷⁴ every finite double is a whole number, and a decimal with fewer digits is a multiple of a
higher power of ten.  So the search goes down the powers of ten and stops at the first one that has
a multiple between the two half-way points around the double; the half-way points themselves count
exactly if the double's rank is even, because a tie is read as the even rank.
-/

namespace TypeExpr

/-- The number `± digits × 10 ^ exponent`. -/
structure Decimal where
  negative : Bool
  digits : Nat
  exponent : Int
  deriving DecidableEq

/-! ## Reading -/

/-- The double nearest to a decimal.  Numbers from 10³¹⁰ on are infinite and numbers below 10⁻³³⁰
    are zero whatever their digits, so no power of ten beyond these is ever computed. -/
def Double.ofDecimal (d : Decimal) : Double :=
  let size := d.exponent + (Nat.toDigits 10 d.digits).length
  if d.digits = 0 then zero d.negative
  else if 310 < size then .infinite d.negative
  else if size < -330 then zero d.negative
  else match d.exponent with
    | .ofNat e => ofQuotient d.negative (d.digits * Nat.pow 10 e) 1
    | .negSucc e => ofQuotient d.negative d.digits (Nat.pow 10 (e + 1))

/-! ## The shortest decimal -/

/-- Which of two equally near decimals is taken. -/
inductive Tie where
  | up
  | even

/-- A rank's magnitude and the two half-way points around it, all doubled, in units of 10⁻¹⁰⁷⁴. -/
structure Double.Interval where
  low : Nat
  middle : Nat
  high : Nat
  closed : Bool

/-- The doubled interval of the reals that round to a rank. -/
def Double.interval (rank : Nat) : Interval where
  low := (units (rank - 1) + units rank) * Nat.pow 5 1074
  middle := 2 * units rank * Nat.pow 5 1074
  high := (units rank + units (rank + 1)) * Nat.pow 5 1074
  closed := rank % 2 == 0

/-- A number of units of 10⁻¹⁰⁷⁴ rounds to the interval's rank. -/
def Double.Interval.holds (i : Interval) (n : Nat) : Bool :=
  if i.closed then i.low ≤ 2 * n && 2 * n ≤ i.high else i.low < 2 * n && 2 * n < i.high

/-- The multiple of `step` to write, as a count of steps: the one in the interval that is nearest
    to its middle. -/
def Double.Interval.multiple? (i : Interval) (tie : Tie) (step : Nat) : Option Nat :=
  let below := i.middle / (2 * step)
  let above := below + 1
  match i.holds (below * step), i.holds (above * step) with
  | false, false => none
  | true, false => some below
  | false, true => some above
  | true, true =>
    let down := i.middle - 2 * (below * step)
    let up := 2 * (above * step) - i.middle
    if down < up then some below
    else if up < down then some above
    else match tie with
      | .up => some above
      | .even => some (below + below % 2)

/-- Goes down the powers of ten, from `10 ^ power`, to the first that has a multiple in the
    interval.  The last power is one, and the middle itself is a multiple of that. -/
def Double.Interval.search (i : Interval) (tie : Tie) : Nat → Nat × Nat
  | 0 => (i.middle / 2, 0)
  | power + 1 =>
    match i.multiple? tie (Nat.pow 10 (power + 1)) with
    | some n => (n, power + 1)
    | none => i.search tie power

/-- The shortest decimal that reads back as the finite double of the given sign and rank. -/
def Double.shortest (tie : Tie) (negative : Bool) (rank : Nat) : Decimal :=
  if rank = 0 then ⟨negative, 0, 0⟩
  else
    let i := interval rank
    -- one binary digit is less than 0.302 decimal ones, so no multiple of this power is in reach
    let found := i.search tie (i.high.log2 * 302 / 1000 + 1)
    ⟨negative, found.1, (found.2 : Int) - 1074⟩

example : Double.shortest .up false 1 = ⟨false, 5, -324⟩ := by decide +kernel
example : Double.ofDecimal ⟨false, 5, -324⟩ = .finite false ⟨1, by decide⟩ := by decide +kernel
example : Double.ofDecimal ⟨true, 1, 999999999999⟩ = .infinite true := by decide +kernel

end TypeExpr
