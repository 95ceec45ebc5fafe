/-!
# Double-precision numbers

The numbers that a 64-bit binary floating-point word can hold, as a type of their own: not a
number, the two infinities, and the finite numbers.  A finite number is a sign and a *rank*: the
finite magnitudes in increasing order are numbered from zero, so that the next rank is the next
larger number.  Every finite magnitude is a whole multiple of 2⁻¹⁰⁷⁴, and `units` says which one;
with it, rounding is exact arithmetic on natural numbers.

Rounding goes to the nearest number, and half way to the even rank (`nearestRank`); what rounds
beyond the last finite rank is infinite.
-/

namespace TypeExpr

/-- How many finite magnitudes there are: the rank at which infinity stands. -/
def infinityRank : Nat := 0x7FF0000000000000

/-- A double-precision number. -/
inductive Double where
  | nan
  | infinite (negative : Bool)
  | finite (negative : Bool) (rank : Fin infinityRank)
  deriving DecidableEq, Hashable

namespace Double

/-- How many ranks are evenly spaced, 2⁵². -/
def binade : Nat := 0x10000000000000

/-- The magnitude of a given rank, in multiples of 2⁻¹⁰⁷⁴.  The first 2⁵² ranks are evenly spaced;
    from there on the spacing doubles every 2⁵² ranks. -/
def units (rank : Nat) : Nat :=
  if rank < binade then rank else (binade + rank % binade) * Nat.pow 2 (rank / binade - 1)

/-- The last rank whose magnitude is not above the given multiple of 2⁻¹⁰⁷⁴. -/
def floorRank (q : Nat) : Nat :=
  let shift := q.log2 - 52
  shift * binade + q / Nat.pow 2 shift

/-- The rank nearest to the quotient of two natural numbers, even in a tie. -/
def nearestRank (num den : Nat) : Nat :=
  let scaled := num * Nat.pow 2 1074
  let rank := floorRank (scaled / den)
  let doubled := 2 * scaled
  let middle := den * (units rank + units (rank + 1))
  if doubled < middle then rank
  else if middle < doubled then rank + 1
  else rank + rank % 2

/-- The number nearest to a signed quotient. -/
def ofQuotient (negative : Bool) (num den : Nat) : Double :=
  let rank := nearestRank num den
  if h : rank < infinityRank then .finite negative ⟨rank, h⟩ else .infinite negative

/-- Zero, with a sign. -/
def zero (negative : Bool) : Double := .finite negative ⟨0, by decide⟩

/-- The number nearest to an integer. -/
def ofInt (n : Int) : Double := ofQuotient (n < 0) n.natAbs 1

/-- Neither infinite nor undefined. -/
def isFinite : Double → Bool
  | .finite _ _ => true
  | _ => false

/-- The bound that stands for all those that are the same: for both zeros the one without a sign. -/
def normal : Double → Double
  | .finite negative rank => .finite (negative && rank.val != 0) rank
  | x => x

/-- Equality as bounds of a range: the two zeros are one bound, and an undefined bound is the same
    as itself. -/
def sameBound (x y : Double) : Bool := x.normal == y.normal

example : ofInt 1 = .finite false ⟨0x3FF0000000000000, by decide⟩ := by decide +kernel
example : ofInt 9007199254740993 = ofInt 9007199254740992 := by decide +kernel
example : ofQuotient true 1 3 = .finite true ⟨0x3FD5555555555555, by decide⟩ := by decide +kernel

end Double

end TypeExpr
