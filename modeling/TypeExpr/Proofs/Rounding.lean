import Mathlib.Algebra.Group.Nat.Defs
import Mathlib.Order.Monotone.Basic
import TypeExpr.Decimal.Basic

/-!
# Rounding to the nearest double

Ranks number the finite magnitudes in increasing order, so to round a quotient is to find the rank
whose magnitude is nearest.  `nearestRank` takes the last rank that is not above the quotient and
compares the quotient with the point half way to the next.  Here this is put the other way round:
whatever lies between the two half-way points around a rank is rounded to it, and the points
themselves are if the rank is even (`nearestRank_eq`).

All that is used of magnitudes is that they increase with the rank (`units_lt_units_succ`) and that
`floorRank` finds its place among them (`units_floorRank`).

Magnitudes are counted in units of 2⁻¹⁰⁷⁴, so that all of them are whole numbers and no division is
needed to compare them.  A quotient is compared with a magnitude by multiplying both with the
divisor, and with the point half way between two magnitudes by doubling the quotient.
-/

namespace TypeExpr.Double

/-! ## Magnitudes increase with the rank

Ranks count through binades, and in each of them through places of one width.  A step to the next
rank is a step of that width, also where a binade ends.
-/

/-- Up to the first power of two the magnitudes are all multiples of the unit. -/
theorem units_of_lt {r : Nat} (h : r < binade) : units r = r := by
  rw [units, if_pos h]

/-- From the second binade on, `k` counts binades and `m` the places in one. -/
theorem units_mul_add {k m : Nat} (hk : 1 ≤ k) (hm : m < binade) :
    units (k * binade + m) = (binade + m) * 2 ^ (k - 1) := by
  have hpos : 0 < binade := by decide
  have hge : ¬ k * binade + m < binade := by
    rw [Nat.not_lt]
    exact Nat.le_add_right_of_le (Nat.le_mul_of_pos_left binade hk)
  have hdiv : (k * binade + m) / binade = k := by
    rw [Nat.add_comm, Nat.add_mul_div_right m k hpos, Nat.div_eq_of_lt hm, Nat.zero_add]
  have hmod : (k * binade + m) % binade = m := by
    rw [Nat.add_comm, Nat.add_mul_mod_self_right, Nat.mod_eq_of_lt hm]
  rw [units, if_neg hge, hdiv, hmod]
  rfl

/-- The next place is one step on, also where it begins the next binade. -/
theorem units_mul_add_succ {k m : Nat} (hk : 1 ≤ k) (hm : m < binade) :
    units (k * binade + m + 1) = (binade + m + 1) * 2 ^ (k - 1) := by
  rcases Nat.lt_or_eq_of_le (show m + 1 ≤ binade from hm) with h | h
  · rw [Nat.add_assoc, units_mul_add hk h, ← Nat.add_assoc]
  · -- the last place of a binade: the next one is the first of the next, where steps are twice as
    -- wide
    have hnext : k * binade + m + 1 = (k + 1) * binade + 0 := by
      rw [Nat.add_mul]
      omega
    have hpow : 2 ^ (k + 1 - 1) = 2 * 2 ^ (k - 1) := by
      rw [← Nat.pow_succ']
      congr 1
      omega
    rw [hnext, units_mul_add (by omega) (by decide), hpow, ← Nat.mul_assoc]
    congr 1
    omega

/-- Every rank is a place in the first binade or in a later one. -/
theorem lt_binade_or_eq (r : Nat) :
    r < binade ∨ ∃ k m, 1 ≤ k ∧ m < binade ∧ r = k * binade + m := by
  have hpos : 0 < binade := by decide
  rcases Nat.lt_or_ge r binade with h | h
  · exact Or.inl h
  · refine Or.inr ⟨r / binade, r % binade, (Nat.one_le_div_iff hpos).2 h, Nat.mod_lt r hpos, ?_⟩
    rw [Nat.mul_comm]
    exact (Nat.div_add_mod r binade).symm

/-- Each magnitude is less than the next. -/
theorem units_lt_units_succ (r : Nat) : units r < units (r + 1) := by
  rcases lt_binade_or_eq r with h | ⟨k, m, hk, hm, rfl⟩
  · rw [units_of_lt h]
    rcases Nat.lt_or_eq_of_le (show r + 1 ≤ binade from h) with h' | h'
    · rw [units_of_lt h']
      omega
    · have := units_mul_add (k := 1) (m := 0) (by decide) (by decide)
      simp only [Nat.one_mul, Nat.add_zero, Nat.sub_self, Nat.pow_zero, Nat.mul_one] at this
      rw [h', this]
      omega
  · rw [units_mul_add hk hm, units_mul_add_succ hk hm]
    exact Nat.mul_lt_mul_of_pos_right (by omega) (Nat.two_pow_pos _)

theorem units_strictMono : StrictMono units := strictMono_nat_of_lt_succ units_lt_units_succ

/-- A magnitude and the next enclose a number for one rank only. -/
theorem rank_unique {r s q : Nat} (hr : units r ≤ q) (hr' : q < units (r + 1)) (hs : units s ≤ q)
    (hs' : q < units (s + 1)) : r = s := by
  have h : r < s + 1 := units_strictMono.lt_iff_lt.1 (Nat.lt_of_le_of_lt hr hs')
  have h' : s < r + 1 := units_strictMono.lt_iff_lt.1 (Nat.lt_of_le_of_lt hs hr')
  omega

/-- Below the second binade a rank is its own magnitude. -/
theorem units_of_lt_two_binades {q : Nat} (h : q < 2 * binade) : units q = q := by
  rcases Nat.lt_or_ge q binade with hq | hq
  · exact units_of_lt hq
  · have := units_mul_add (k := 1) (m := q - binade) (by decide) (by omega)
    rw [Nat.one_mul, Nat.sub_self, Nat.pow_zero, Nat.mul_one, Nat.add_sub_of_le hq] at this
    exact this

/-- The last rank that is not above a number. -/
theorem units_floorRank (q : Nat) :
    units (floorRank q) ≤ q ∧ q < units (floorRank q + 1) := by
  have hbinade : 2 * binade = 2 ^ 53 := by decide
  rcases Nat.lt_or_ge q (2 * binade) with hq | hq
  · -- every number below the second binade is itself a magnitude
    have hlog : q.log2 - 52 = 0 := by
      rcases Nat.eq_zero_or_pos q with rfl | hpos
      · decide
      · have := (Nat.log2_lt (Nat.ne_of_gt hpos)).2 (hbinade ▸ hq)
        omega
    have hrank : floorRank q = q := by
      simp only [floorRank, hlog, Nat.pow_eq, Nat.pow_zero, Nat.div_one, Nat.zero_mul, Nat.zero_add]
    have hunits := units_of_lt_two_binades hq
    have hnext := units_lt_units_succ q
    rw [hrank]
    omega
  · -- from there on the first 53 binary digits decide
    have hne : q ≠ 0 := by
      rintro rfl
      exact absurd hq (by decide)
    have hlog : 53 ≤ q.log2 := (Nat.le_log2 hne).2 (hbinade ▸ hq)
    obtain ⟨s, hs⟩ : ∃ s, q.log2 = s + 52 := ⟨q.log2 - 52, by omega⟩
    have hlow : binade * 2 ^ s ≤ q := by
      have := Nat.log2_self_le hne
      rwa [hs, Nat.add_comm, Nat.pow_add] at this
    have hhigh : q < 2 * binade * 2 ^ s := by
      have : q < 2 ^ (q.log2 + 1) := Nat.lt_log2_self
      rwa [hs, Nat.add_assoc, Nat.add_comm, Nat.pow_add] at this
    have hpos : 0 < 2 ^ s := Nat.two_pow_pos s
    have hm : binade ≤ q / 2 ^ s := (Nat.le_div_iff_mul_le hpos).2 hlow
    have hm' : q / 2 ^ s < 2 * binade := (Nat.div_lt_iff_lt_mul hpos).2 hhigh
    obtain ⟨m, hmq⟩ : ∃ m, q / 2 ^ s = binade + m := ⟨q / 2 ^ s - binade, by omega⟩
    have hlt : m < binade := by omega
    have hrank : floorRank q = (s + 1) * binade + m := by
      simp only [floorRank, hs, Nat.pow_eq, Nat.add_sub_cancel, hmq]
      rw [Nat.add_mul, Nat.one_mul, Nat.add_assoc]
    rw [hrank, units_mul_add (by omega) hlt, units_mul_add_succ (by omega) hlt, Nat.add_sub_cancel,
      ← hmq]
    refine ⟨Nat.div_mul_le_self q _, ?_⟩
    rw [Nat.mul_comm]
    exact Nat.lt_mul_div_succ q hpos

/-! ## What rounds to a rank

The conditions that hold half way between two magnitudes, with the tie going to the even rank.
-/

/-- The quotient lies between the half-way points around a rank; it is none of them if the rank is
    odd. -/
structure Near (rank num den : Nat) : Prop where
  above : den * (units (rank - 1) + units rank) ≤ 2 * (num * Nat.pow 2 1074)
  below : 2 * (num * Nat.pow 2 1074) ≤ den * (units rank + units (rank + 1))
  inside : rank % 2 = 1 → den * (units (rank - 1) + units rank) < 2 * (num * Nat.pow 2 1074) ∧
    2 * (num * Nat.pow 2 1074) < den * (units rank + units (rank + 1))

/-- **Rounding**: what lies between the half-way points around a rank is rounded to it. -/
theorem nearestRank_eq {rank num den : Nat} (hden : 0 < den) (hrank : 0 < rank)
    (h : Near rank num den) : nearestRank num den = rank := by
  obtain ⟨r, rfl⟩ : ∃ r, rank = r + 1 := ⟨rank - 1, by omega⟩
  obtain ⟨habove, hbelow, hinside⟩ := h
  rw [Nat.add_sub_cancel] at habove hinside
  simp only [Nat.mul_add] at habove hbelow hinside
  have hlow := Nat.mul_lt_mul_of_pos_left (units_lt_units_succ r) hden
  have hhigh := Nat.mul_lt_mul_of_pos_left (units_lt_units_succ (r + 1)) hden
  simp only [nearestRank]
  generalize num * Nat.pow 2 1074 = scaled at habove hbelow hinside ⊢
  obtain ⟨hfloor, hceil⟩ := units_floorRank (scaled / den)
  rcases Nat.lt_or_ge scaled (den * units (r + 1)) with hlt | hge
  · -- left of the rank's own magnitude the rank before it is taken first
    have hr : floorRank (scaled / den) = r := by
      refine rank_unique hfloor hceil ((Nat.le_div_iff_mul_le hden).2 ?_)
        ((Nat.div_lt_iff_lt_mul hden).2 ?_)
      · rw [Nat.mul_comm]
        omega
      · rw [Nat.mul_comm]
        exact hlt
    simp only [hr, Nat.mul_add]
    split
    · omega
    · split
      · rfl
      · -- half way the rank is even, or it would not be half way
        have : (r + 1) % 2 ≠ 1 := fun hodd => by
          have := hinside hodd
          omega
        omega
  · -- from there on the rank itself is, and the next one is not reached
    have hr : floorRank (scaled / den) = r + 1 := by
      refine rank_unique hfloor hceil ((Nat.le_div_iff_mul_le hden).2 ?_)
        ((Nat.div_lt_iff_lt_mul hden).2 ?_)
      · rw [Nat.mul_comm]
        exact hge
      · rw [Nat.mul_comm]
        omega
    simp only [hr, Nat.mul_add]
    split
    · rfl
    · split
      · omega
      · have : (r + 1) % 2 ≠ 1 := fun hodd => by
          have := hinside hodd
          omega
        omega

/-- Rounding goes one rank up at most. -/
theorem nearestRank_le (num den : Nat) :
    nearestRank num den ≤ floorRank (num * Nat.pow 2 1074 / den) + 1 := by
  simp only [nearestRank]
  split
  · omega
  · split <;> omega

/-- The integers of 64 bits are far from the last finite rank. -/
theorem isFinite_ofInt (n : Int64) : (ofInt n.toInt).isFinite = true := by
  have hmin := n.le_toInt
  have hmax := n.toInt_lt
  have hn : n.toInt.natAbs < 2 ^ 64 := by omega
  have hpos : 0 < Nat.pow 2 1074 := by decide +kernel
  -- `2 ^ 64` is far below the last finite magnitude, so one rank more does no harm
  have hlast : 2 ^ 64 * Nat.pow 2 1074 < units (infinityRank - 1) := by decide +kernel
  have hfloor := (units_floorRank (n.toInt.natAbs * Nat.pow 2 1074 / 1)).1
  rw [Nat.div_one] at hfloor
  have hlt : n.toInt.natAbs * Nat.pow 2 1074 < 2 ^ 64 * Nat.pow 2 1074 :=
    (Nat.mul_lt_mul_right hpos).2 hn
  have hrank : floorRank (n.toInt.natAbs * Nat.pow 2 1074) < infinityRank - 1 :=
    units_strictMono.lt_iff_lt.1 (Nat.lt_of_le_of_lt hfloor (Nat.lt_trans hlt hlast))
  have hnearest := nearestRank_le n.toInt.natAbs 1
  rw [Nat.div_one] at hnearest
  have hfinite : nearestRank n.toInt.natAbs 1 < infinityRank := by omega
  rw [ofInt, ofQuotient, dif_pos hfinite]
  rfl

end TypeExpr.Double
