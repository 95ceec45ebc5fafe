import TypeExpr.Proofs.Rounding

/-!
# The shortest decimal reads back

Writing a double and reading it again gives the double: `ofDecimal_shortest`.  Both sides are
measured in units of 10⁻¹⁰⁷⁴.  A decimal that counts a whole number of them reads as a rank as soon
as the interval of that rank holds the number (`Double.ofDecimal_eq_finite`), no matter how the
decimal is spelled; and what the search for the shortest decimal finds is always held
(`Interval.search_holds`), since in the last resort it is the magnitude of the rank itself.

Two bounds on the way say why reading may leave out numbers that are too large or too small: what an
interval holds lies between 10⁻³²⁴ and 10³⁰⁹ (`size_le`, `neg_le_size`).

What makes a decimal the shortest is not used.  All that counts is that it lies between the points
half way to the two neighbouring doubles, and on such a point only if rounding goes the right way;
so the digits might be chosen in another way, as long as the interval holds the result.

Ranks take the place of doubles here, since to compare two magnitudes is to compare their ranks. The
sign is carried along on both sides and never looked at.
-/

namespace TypeExpr

namespace Decimal

/-! ## A decimal as a quotient

With the power of ten in the numerator or in the denominator a decimal is a quotient of two numbers,
and reading it is rounding that quotient.
-/

/-- The decimal without its sign is `num / den`. -/
def num (d : Decimal) : Nat := d.digits * Nat.pow 10 d.exponent.toNat

/-- One, or the power of ten that the digits are divided by. -/
def den (d : Decimal) : Nat := Nat.pow 10 (-d.exponent).toNat

/-- How many digits stand before the point, if the decimal is written out. -/
def size (d : Decimal) : Int := d.exponent + (Nat.toDigits 10 d.digits).length

/-- The decimal is `n` units of 10⁻¹⁰⁷⁴. -/
def Counts (d : Decimal) (n : Nat) : Prop := d.num * Nat.pow 10 1074 = n * d.den

theorem den_pos (d : Decimal) : 0 < d.den := Nat.pow_pos (by decide)

/-- A decimal that is neither zero nor far out of range is read as the double nearest to the
    quotient. -/
theorem ofDecimal_eq_ofQuotient {d : Decimal} (hdigits : d.digits ≠ 0) (hlarge : d.size ≤ 310)
    (hsmall : -330 ≤ d.size) : Double.ofDecimal d = .ofQuotient d.negative d.num d.den := by
  rw [size] at hlarge hsmall
  simp only [Double.ofDecimal]
  rw [if_neg hdigits, if_neg (by omega), if_neg (by omega)]
  cases he : d.exponent with
  | ofNat e => simp [num, den, he]
  | negSucc e => simp [num, den, he]

/-! ## How large it is

Reading does not round decimals with too many digits before the point or too many zeros behind it.
These two lemmas bound both by the number itself.
-/

/-- A number is less than ten to the number of its digits. -/
theorem lt_pow_length (n : Nat) : n < Nat.pow 10 (Nat.toDigits 10 n).length :=
  (Nat.length_toDigits_le_iff (by decide) Nat.length_toDigits_pos).1 (Nat.le_refl _)

/-- A number has no digit too many: it is at least ten to the number of its digits less one. -/
theorem pow_length_le {n : Nat} (h : n ≠ 0) : Nat.pow 10 ((Nat.toDigits 10 n).length - 1) ≤ n := by
  rcases Nat.eq_zero_or_pos ((Nat.toDigits 10 n).length - 1) with hk | hk
  · rw [hk]
    exact Nat.pos_of_ne_zero h
  · have hlen := Nat.length_toDigits_pos (b := 10) (n := n)
    refine Nat.not_lt.1 fun hlt => ?_
    have := (Nat.length_toDigits_le_iff (by decide) hk).2 hlt
    omega

/-- What is less than a power of ten has at most as many digits before the point as the power has
    zeros. -/
theorem size_le {d : Decimal} {k : Nat} (hdigits : d.digits ≠ 0)
    (h : d.num < Nat.pow 10 k * d.den) : d.size ≤ k := by
  have hlen := Nat.length_toDigits_pos (b := 10) (n := d.digits)
  have hpow := calc
    Nat.pow 10 ((Nat.toDigits 10 d.digits).length - 1 + d.exponent.toNat)
      = Nat.pow 10 ((Nat.toDigits 10 d.digits).length - 1) * Nat.pow 10 d.exponent.toNat :=
        Nat.pow_add ..
    _ ≤ d.num := Nat.mul_le_mul_right _ (pow_length_le hdigits)
    _ < Nat.pow 10 k * d.den := h
    _ = Nat.pow 10 (k + (-d.exponent).toNat) := (Nat.pow_add ..).symm
  have := (Nat.pow_lt_pow_iff_right (by decide)).1 hpow
  rw [size]
  omega

/-- What is no less than a power of a tenth has no more zeros behind the point than that. -/
theorem neg_le_size {d : Decimal} {k : Nat} (h : d.den ≤ d.num * Nat.pow 10 k) : -k ≤ d.size := by
  have hpos : 0 < Nat.pow 10 d.exponent.toNat * Nat.pow 10 k :=
    Nat.mul_pos (Nat.pow_pos (by decide)) (Nat.pow_pos (by decide))
  have hpow := calc
    d.den ≤ d.num * Nat.pow 10 k := h
    _ = d.digits * (Nat.pow 10 d.exponent.toNat * Nat.pow 10 k) := Nat.mul_assoc ..
    _ < Nat.pow 10 (Nat.toDigits 10 d.digits).length *
          (Nat.pow 10 d.exponent.toNat * Nat.pow 10 k) :=
        (Nat.mul_lt_mul_right hpos).2 (lt_pow_length d.digits)
    _ = Nat.pow 10 (Nat.toDigits 10 d.digits).length * Nat.pow 10 (d.exponent.toNat + k) :=
        congrArg _ (Nat.pow_add ..).symm
    _ = Nat.pow 10 ((Nat.toDigits 10 d.digits).length + (d.exponent.toNat + k)) :=
        (Nat.pow_add ..).symm
  have := (Nat.pow_lt_pow_iff_right (by decide)).1 hpow
  rw [size]
  omega

end Decimal

namespace Double

/-! ## What an interval holds

The interval of a rank is what rounds to it.  Whatever multiple the search comes up with, it has
made sure that the interval holds it; and what the interval holds, `nearestRank` rounds to the rank.
-/

namespace Interval

/-- What an interval holds, with the ends only if it is closed. -/
theorem holds_iff {i : Interval} {n : Nat} : i.holds n = true ↔
    i.low ≤ 2 * n ∧ 2 * n ≤ i.high ∧ (i.closed = false → i.low < 2 * n ∧ 2 * n < i.high) := by
  unfold holds
  cases i.closed
  · simp
    omega
  · simp

/-- The multiple that is written is held. -/
theorem holds_of_multiple? {i : Interval} {tie : Tie} {step n : Nat}
    (h : i.multiple? tie step = some n) : i.holds (n * step) = true := by
  simp only [multiple?] at h
  -- Below the middle there is one multiple and above it another.  If only one of them is held it is
  -- taken, and if both are, the nearer one, or the one that the tie is settled for.
  split at h
  · cases h
  · rename_i hbelow _
    cases h
    exact hbelow
  · rename_i _ habove
    cases h
    exact habove
  · rename_i hbelow habove
    split at h
    · cases h
      exact hbelow
    · split at h
      · cases h
        exact habove
      · cases tie with
        | up => cases h; exact habove
        | even =>
          cases h
          rcases Nat.mod_two_eq_zero_or_one (i.middle / (2 * step)) with h2 | h2
          · rw [h2]
            exact hbelow
          · rw [h2]
            exact habove

/-- What the search finds is held if the middle is. -/
theorem search_holds {i : Interval} (tie : Tie) (h : i.holds (i.middle / 2) = true) (power : Nat) :
    i.holds ((i.search tie power).1 * Nat.pow 10 (i.search tie power).2) = true := by
  induction power with
  | zero => simpa [search] using h
  | succ power ih =>
    rw [search]
    split
    · rename_i n hn
      exact holds_of_multiple? hn
    · exact ih

end Interval

/-- The magnitude of a rank is inside its interval. -/
theorem interval_holds_middle {rank : Nat} (hrank : 0 < rank) :
    (interval rank).holds ((interval rank).middle / 2) = true := by
  have hlow := units_strictMono (show rank - 1 < rank by omega)
  have hhigh := units_lt_units_succ rank
  have hmiddle : (interval rank).middle / 2 = units rank * Nat.pow 5 1074 := by
    simp only [interval]
    rw [Nat.mul_assoc, Nat.mul_div_cancel_left _ (by decide)]
  have hpos : 0 < Nat.pow 5 1074 := by decide +kernel
  rw [Interval.holds_iff, hmiddle]
  simp only [interval, ← Nat.mul_assoc 2]
  -- the magnitudes next to it are on both sides, and the ends of the interval half way to them
  have hbelow : units (rank - 1) + units rank < 2 * units rank := by omega
  have habove : 2 * units rank < units rank + units (rank + 1) := by omega
  have h₁ := (Nat.mul_lt_mul_right hpos).2 hbelow
  have h₂ := (Nat.mul_lt_mul_right hpos).2 habove
  exact ⟨Nat.le_of_lt h₁, Nat.le_of_lt h₂, fun _ => ⟨h₁, h₂⟩⟩

/-- What the interval of a rank holds, lies between the half-way points around the rank. -/
theorem near_of_holds {d : Decimal} {rank n : Nat} (hn : d.Counts n)
    (h : (interval rank).holds n = true) : Near rank d.num d.den := by
  have hten : Nat.pow 10 1074 = Nat.pow 2 1074 * Nat.pow 5 1074 := by decide +kernel
  have hpos : 0 < Nat.pow 5 1074 := by decide +kernel
  rw [Decimal.Counts, hten, ← Nat.mul_assoc] at hn
  obtain ⟨hlow, hhigh, hinside⟩ := Interval.holds_iff.1 h
  simp only [interval] at hlow hhigh hinside
  -- both sides of each comparison, multiplied by the same positive numbers
  have hunits : 2 * n * d.den = 2 * (d.num * Nat.pow 2 1074) * Nat.pow 5 1074 := by
    rw [Nat.mul_assoc 2, Nat.mul_assoc 2, hn]
  have hscale (a : Nat) : d.den * a * Nat.pow 5 1074 = a * Nat.pow 5 1074 * d.den := by
    rw [Nat.mul_comm d.den, Nat.mul_right_comm]
  refine ⟨?_, ?_, fun hodd => ?_⟩
  · refine Nat.le_of_mul_le_mul_right ?_ hpos
    rw [hscale, ← hunits]
    exact Nat.mul_le_mul_right _ hlow
  · refine Nat.le_of_mul_le_mul_right ?_ hpos
    rw [hscale, ← hunits]
    exact Nat.mul_le_mul_right _ hhigh
  · obtain ⟨hlow, hhigh⟩ := hinside (by simp [hodd])
    constructor
    · refine Nat.lt_of_mul_lt_mul_right (a := Nat.pow 5 1074) ?_
      rw [hscale, ← hunits]
      exact (Nat.mul_lt_mul_right d.den_pos).2 hlow
    · refine Nat.lt_of_mul_lt_mul_right (a := Nat.pow 5 1074) ?_
      rw [hscale, ← hunits]
      exact (Nat.mul_lt_mul_right d.den_pos).2 hhigh

/-- What the interval of a finite rank above zero holds, is neither too small nor too large to be
    read. -/
theorem bounds_of_holds {rank n : Nat} (hrank : 0 < rank) (hfinite : rank < infinityRank)
    (h : (interval rank).holds n = true) :
    Nat.pow 10 750 ≤ n ∧ n < Nat.pow 10 309 * Nat.pow 10 1074 := by
  have hpos : 0 < Nat.pow 5 1074 := by decide +kernel
  have hsmall : 2 * Nat.pow 10 750 ≤ Nat.pow 5 1074 := by decide +kernel
  have hlarge : units infinityRank * Nat.pow 5 1074 < Nat.pow 10 309 * Nat.pow 10 1074 := by
    decide +kernel
  obtain ⟨hlow, hhigh, -⟩ := Interval.holds_iff.1 h
  simp only [interval] at hlow hhigh
  constructor
  · -- the lowest interval begins half a unit above zero
    have hunit : 1 ≤ units (rank - 1) + units rank := by
      have := units_strictMono (show 0 < rank from hrank)
      omega
    have := Nat.mul_le_mul_right (Nat.pow 5 1074) hunit
    rw [Nat.one_mul] at this
    omega
  · -- the highest one ends before infinity
    have hlast : units rank + units (rank + 1) ≤ 2 * units infinityRank := by
      have := units_strictMono hfinite
      have := units_strictMono.monotone (show rank + 1 ≤ infinityRank from hfinite)
      omega
    have := Nat.mul_le_mul_right (Nat.pow 5 1074) hlast
    rw [Nat.mul_assoc] at this
    omega

/-- **Reading**: a decimal reads as a rank if the interval of that rank holds it. -/
theorem ofDecimal_eq_finite {d : Decimal} {rank : Fin infinityRank} {n : Nat} (hrank : 0 < rank.val)
    (hn : d.Counts n) (h : (interval rank.val).holds n = true) :
    ofDecimal d = .finite d.negative rank := by
  obtain ⟨hsmall, hlarge⟩ := bounds_of_holds hrank rank.isLt h
  have hlarge : d.num < Nat.pow 10 309 * d.den := by
    refine Nat.lt_of_mul_lt_mul_right (a := Nat.pow 10 1074) ?_
    rw [hn, Nat.mul_right_comm]
    exact (Nat.mul_lt_mul_right d.den_pos).2 hlarge
  have hsmall : d.den ≤ d.num * Nat.pow 10 324 := by
    have hunit : Nat.pow 10 324 * Nat.pow 10 750 = Nat.pow 10 1074 := by decide +kernel
    refine Nat.le_of_mul_le_mul_right (?_ : _ * Nat.pow 10 750 ≤ _) (by decide +kernel)
    rw [Nat.mul_assoc, hunit, hn, Nat.mul_comm]
    exact Nat.mul_le_mul_right _ hsmall
  have hdigits : d.digits ≠ 0 := by
    intro h0
    rw [Decimal.num, h0, Nat.zero_mul, Nat.zero_mul] at hsmall
    exact absurd d.den_pos (Nat.not_lt.2 hsmall)
  -- of this size a decimal is not taken for zero or infinity out of hand
  have := Decimal.size_le hdigits hlarge
  have := Decimal.neg_le_size hsmall
  rw [Decimal.ofDecimal_eq_ofQuotient hdigits (by omega) (by omega), ofQuotient,
    nearestRank_eq d.den_pos hrank (near_of_holds hn h)]
  exact dif_pos rank.isLt

/-! ## Writing and reading

The two halves put together.  A double may also be written with more digits than the shortest
decimal has, such as a zero behind the point, and it is read back all the same.
-/

theorem ofDecimal_zero {d : Decimal} (h : d.digits = 0) : ofDecimal d = zero d.negative := by
  simp only [ofDecimal]
  rw [if_pos h]

/-- Digits at a power of ten of the unit count as many units. -/
theorem counts_of_power (negative : Bool) (digits power : Nat) :
    Decimal.Counts ⟨negative, digits, (power : Int) - 1074⟩ (digits * Nat.pow 10 power) := by
  have hexponent : ((power : Int) - 1074).toNat + 1074 =
      power + (-((power : Int) - 1074)).toNat := by omega
  -- said of any exponents, so that no power is worked out
  have hpow {a b c e : Nat} (h : a + b = c + e) :
      Nat.pow 10 a * Nat.pow 10 b = Nat.pow 10 c * Nat.pow 10 e := calc
    Nat.pow 10 a * Nat.pow 10 b = Nat.pow 10 (a + b) := (Nat.pow_add ..).symm
    _ = Nat.pow 10 (c + e) := by rw [h]
    _ = Nat.pow 10 c * Nat.pow 10 e := Nat.pow_add ..
  unfold Decimal.Counts Decimal.num Decimal.den
  rw [Nat.mul_assoc, Nat.mul_assoc, hpow hexponent]

/-- The shortest decimal counts a number that the interval of the rank holds. -/
theorem exists_counts_shortest {rank : Nat} (tie : Tie) (negative : Bool) (hrank : 0 < rank) :
    ∃ n, (shortest tie negative rank).Counts n ∧ (interval rank).holds n = true := by
  have hholds := Interval.search_holds tie (interval_holds_middle hrank)
    ((interval rank).high.log2 * 302 / 1000 + 1)
  refine ⟨_, ?_, hholds⟩
  rw [shortest, if_neg (Nat.ne_of_gt hrank)]
  exact counts_of_power negative _ _

theorem shortest_negative (tie : Tie) (negative : Bool) (rank : Nat) :
    (shortest tie negative rank).negative = negative := by
  unfold shortest
  split <;> rfl

/-- A decimal is the same number as another, perhaps with more digits. -/
structure Respells (d' d : Decimal) : Prop where
  negative : d'.negative = d.negative
  zero : d.digits = 0 → d'.digits = 0
  counts : ∀ n, d.Counts n → d'.Counts n

/-- The shortest decimal of a double reads as the double, and so does every other spelling of it. -/
theorem ofDecimal_of_respells {tie : Tie} {negative : Bool} {rank : Fin infinityRank} {d : Decimal}
    (h : Respells d (shortest tie negative rank.val)) : ofDecimal d = .finite negative rank := by
  have hnegative : d.negative = negative :=
    h.negative.trans (shortest_negative tie negative rank.val)
  rcases Nat.eq_zero_or_pos rank.val with h0 | hrank
  · have hdigits : (shortest tie negative rank.val).digits = 0 := by
      rw [shortest, if_pos h0]
    obtain rfl : rank = ⟨0, by decide⟩ := Fin.ext h0
    rw [ofDecimal_zero (h.zero hdigits), hnegative, zero]
  · -- all spellings count the number that the search has found
    obtain ⟨n, hn, hholds⟩ := exists_counts_shortest tie negative hrank
    rw [ofDecimal_eq_finite hrank (h.counts n hn) hholds, hnegative]

/-- **Round trip**: what is written as the shortest decimal is read back. -/
theorem ofDecimal_shortest (tie : Tie) (negative : Bool) (rank : Fin infinityRank) :
    ofDecimal (shortest tie negative rank.val) = .finite negative rank :=
  ofDecimal_of_respells ⟨rfl, id, fun _ => id⟩

end Double

end TypeExpr
