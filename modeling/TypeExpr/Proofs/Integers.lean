import Mathlib.Data.Nat.Digits.Defs
import TypeExpr.Proofs.Numerals
import TypeExpr.Regex.Check

/-!
# What whole numbers mean

A whole number as it is written (`IntegerWord`) is read as the number that its digits stand for in
its radix, with its sign, if all of them are digits of the radix and the number has 64 bits; if not,
it is refused as a whole (`Cursor.next_integerWord`).  The number is said here with the positional
value of digits, and a digit is worth its place among all of them; the reader goes through the
digits from the front instead, and stops where one is too large (`radixValue?_eq_some_iff`).

What comes behind the word is arbitrary, as long as it delimits it; so the statement holds of a
number at any place in a text, and the offset is only handed on to the span.

The smallest integer has no positive counterpart.  It is read because the sign is put in front of
the magnitude before the size is checked (`integer?_eq_some_iff`), and it is the example at the end.
-/

namespace TypeExpr

open Text (byteLength)

/-! ## Digits

The reader multiplies as it goes and gives up at a digit that the radix has not.  Both come to the
number that the digits stand for, if all of them are digits.
-/

/-- The value of a digit: its place among the digits, capital or not. -/
def digitPlace (c : Char) : Nat := "0123456789abcdef".toList.idxOf c.toLower

/-- The number that digits stand for in a radix. -/
def numberOf (radix : Nat) (ds : List Char) : Nat := Nat.ofDigits radix (ds.reverse.map digitPlace)

/-- All of them are digits of the radix. -/
def DigitsOf (radix : Nat) (ds : List Char) : Prop := ∀ c ∈ ds, digitPlace c < radix

instance (radix : Nat) (ds : List Char) : Decidable (DigitsOf radix ds) :=
  List.decidableBAll (digitPlace · < radix) ds

example : numberOf 16 "1F".toList = 31 ∧ numberOf 8 "010".toList = 8 := by decide

theorem isHexDigit_of_isDigit {c : Char} (h : isDigit c = true) : isHexDigit c = true := by
  simp [isHexDigit, h]

/-- The first digit is worth most: its place counts as many times the radix as digits follow. -/
theorem numberOf_cons (radix : Nat) (c : Char) (ds : List Char) :
    numberOf radix (c :: ds) = radix ^ ds.length * digitPlace c + numberOf radix ds := by
  simp only [numberOf, List.reverse_cons, List.map_append, Nat.ofDigits_append, List.length_map,
    List.length_reverse, List.map_cons, List.map_nil, Nat.ofDigits_singleton]
  exact Nat.add_comm ..

/-- The two ways to find the value of a digit agree. -/
theorem digitValue?_eq {radix : Nat} (hradix : radix ≤ 16) {c : Char} (hc : isHexDigit c = true) :
    digitValue? radix c = if digitPlace c < radix then some (digitPlace c) else none := by
  have hall := forall_ascii (P := fun c => isHexDigit c = true → ∀ r < 17,
    digitValue? r c = if digitPlace c < r then some (digitPlace c) else none)
    (by decide) (ascii_of_inside (inside_of_isHexDigit hc))
  exact hall hc radix (Nat.lt_succ_of_le hradix)

/-- **Radix**: digits are read from the front as the number that they stand for, if the radix has
    them all. -/
theorem radixValue?_eq_some_iff {radix : Nat} (hradix : radix ≤ 16) {ds : List Char}
    (hds : ∀ c ∈ ds, isHexDigit c = true) {n v : Nat} : radixValue? radix n ds = some v ↔
      DigitsOf radix ds ∧ radix ^ ds.length * n + numberOf radix ds = v := by
  induction ds generalizing n with
  | nil => simp [radixValue?, DigitsOf, numberOf]
  | cons c ds ih =>
    obtain ⟨hc, hds⟩ := List.forall_mem_cons.1 hds
    rw [radixValue?, digitValue?_eq hradix hc, DigitsOf, List.forall_mem_cons]
    -- a digit of the radix moves what came before it one place up; any other ends the reading
    by_cases hdigit : digitPlace c < radix
    · have hvalue : radix ^ ds.length * (radix * n + digitPlace c) + numberOf radix ds =
          radix ^ (c :: ds).length * n + numberOf radix (c :: ds) := by
        rw [numberOf_cons, List.length_cons, Nat.pow_succ]
        ring
      rw [if_pos hdigit, Option.bind_some, ih hds, hvalue]
      simp [hdigit, DigitsOf]
    · simp [hdigit]

/-! ## Sixty-four bits

The sign is taken into account before the size is checked, so the smallest integer can be written.
-/

/-- A number that has 64 bits is the value of its integer, and no other number has one. -/
theorem int64?_eq_some_iff {v : Int} {i : Int64} : Numeral.int64? v = some i ↔ i.toInt = v := by
  unfold Numeral.int64?
  have hmin : Int64.minValue.toInt = -2 ^ 63 := by decide
  have hmax : Int64.maxValue.toInt = 2 ^ 63 - 1 := by decide
  rw [hmin, hmax]
  -- The bounds say that the conversion into 64 bits loses nothing; the value of an integer is
  -- always within them.
  constructor
  · intro h
    rw [Option.ite_none_right_eq_some] at h
    obtain ⟨⟨h₁, h₂⟩, h⟩ := h
    cases h
    exact Int64.toInt_ofInt_of_le h₁ (by omega)
  · rintro rfl
    have h₁ := i.le_toInt
    have h₂ := i.toInt_lt
    rw [if_pos ⟨h₁, by omega⟩, Int64.ofInt_toInt]

/-- An integer is read exactly if the digits are digits of the radix and stand, with the sign, for
    that integer. -/
theorem integer?_eq_some_iff {negative : Bool} {radix : Nat} (hradix : radix ≤ 16) {ds : List Char}
    (hds : ∀ c ∈ ds, isHexDigit c = true) {i : Int64} :
    Numeral.integer? negative radix ds = some i ↔
      DigitsOf radix ds ∧ i.toInt = signed negative (numberOf radix ds) := by
  simp only [Numeral.integer?, Option.bind_eq_some_iff, radixValue?_eq_some_iff hradix hds,
    int64?_eq_some_iff, Nat.mul_zero, Nat.zero_add]
  constructor
  · rintro ⟨_, ⟨hdigits, rfl⟩, hi⟩
    exact ⟨hdigits, hi⟩
  · rintro ⟨hdigits, hi⟩
    exact ⟨_, ⟨hdigits, rfl⟩, hi⟩

/-! ## Words

The kinds of whole numbers by their spelling, and what each is read as.
-/

/-- A whole number as it is written, with or without a minus sign: `0x` or `0X` and digits of the
    radix 16, or digits of the radix 10, which are octal if there are several and the first one is a
    zero.  `IntegerWord negative radix ds w`: the word `w` has the digits `ds`. -/
inductive IntegerWord (negative : Bool) : Nat → List Char → List Char → Prop where
  | hexadecimal {mark ds} : mark = 'x' ∨ mark = 'X' → IsRow isHexDigit ds →
      IntegerWord negative 16 ds ((if negative then ['-'] else []) ++ '0' :: mark :: ds)
  | whole {ds} : IsRow isDigit ds →
      IntegerWord negative (if ds.head? = some '0' ∧ 1 < ds.length then 8 else 10) ds
        ((if negative then ['-'] else []) ++ ds)

/-- A zero before octal digits does not count. -/
theorem integer?_wholeRadix (negative : Bool) (ds : List Char) :
    Numeral.integer? negative (Numeral.wholeRadix ds).1 (Numeral.wholeRadix ds).2 =
      Numeral.integer? negative (if ds.head? = some '0' ∧ 1 < ds.length then 8 else 10) ds := by
  unfold Numeral.wholeRadix
  split
  · rename_i d ds
    have hzero : digitValue? 8 '0' = some 0 := by decide
    simp [Numeral.integer?, radixValue?, hzero]
  · -- there is one digit, or the first one is no zero
    rename_i hoctal
    rw [if_neg]
    rintro ⟨hhead, hlength⟩
    rcases ds with _ | ⟨c, _ | ⟨d, ds⟩⟩
    · simp at hhead
    · simp at hlength
    · obtain rfl : c = '0' := Option.some.inj hhead
      exact hoctal d ds rfl

namespace IntegerWord

variable {negative : Bool} {radix : Nat} {ds word : List Char}

theorem radix_le (h : IntegerWord negative radix ds word) : radix ≤ 16 := by
  cases h with
  | hexadecimal => exact Nat.le_refl 16
  | whole => split <;> decide

/-- The digits of a whole number are digits of the radix 16 at least, so that each has a value. -/
theorem isHexDigit (h : IntegerWord negative radix ds word) : ∀ c ∈ ds, isHexDigit c = true := by
  cases h with
  | hexadecimal _ hds => exact hds.2
  | whole hds => exact fun c hc => isHexDigit_of_isDigit (hds.2 c hc)

/-- Such a word is a numeral behind its sign, and stands for what its digits are read as. -/
theorem exists_numeral (h : IntegerWord negative radix ds word) : ∃ n : Numeral, n.WellFormed ∧
    word = (if negative then ['-'] else []) ++ n.spelling ∧
    n.token negative = match Numeral.integer? negative radix ds with
      | some i => .ok (.integer i)
      | none => .error (.invalidInteger (String.ofList word)) := by
  cases h with
  | @hexadecimal mark ds hmark hds => exact ⟨.hexadecimal mark ds, .hexadecimal hmark hds, rfl, rfl⟩
  | @whole ds hds =>
    refine ⟨.whole ds, .whole hds, rfl, ?_⟩
    rw [← integer?_wholeRadix]
    rfl

end IntegerWord

namespace Cursor

variable {negative : Bool} {radix : Nat} {ds word rest : List Char}

/-- What a whole number is read as, in front of what delimits it. -/
theorem next_integerWord_eq [PatternLanguage] (h : IntegerWord negative radix ds word)
    (hrest : Delimits rest) (offset : Nat) : (Cursor.mk offset (word ++ rest)).next =
      (match Numeral.integer? negative radix ds with
        | some i => .ok (some ⟨.integer i, ⟨offset, offset + byteLength word⟩⟩)
        | none =>
          .error ⟨.invalidInteger (String.ofList word), ⟨offset, offset + byteLength word⟩⟩,
      ⟨offset + byteLength word, rest⟩) := by
  obtain ⟨n, hn, hword, htoken⟩ := h.exists_numeral
  obtain ⟨c, cs, hspelling, hblank, hcomment, hread⟩ := Numeral.readToken_spelling hn negative
  have hread := hread rest hrest
  rw [← hword] at hspelling
  rw [htoken, ← hspelling] at hread
  rw [hspelling, List.cons_append, next_eq_read hblank hcomment, ← hspelling]
  cases hinteger : Numeral.integer? negative radix ds <;>
    simp only [hinteger] at hread <;> simp only [read, hread, advance]

/-- **Integers**: a word that is a whole number, in front of what delimits it, is read as the
    integer that its digits stand for in its radix, with its sign, if they are digits of the radix
    and the integer has 64 bits.  If not, it is refused, and the error is blamed on all of it. -/
theorem next_integerWord [PatternLanguage] (h : IntegerWord negative radix ds word)
    (hrest : Delimits rest) (offset : Nat) :
    (DigitsOf radix ds ∧ -2 ^ 63 ≤ signed negative (numberOf radix ds) ∧
        signed negative (numberOf radix ds) < 2 ^ 63 →
      ∃ i : Int64, i.toInt = signed negative (numberOf radix ds) ∧
        (Cursor.mk offset (word ++ rest)).next =
          (.ok (some ⟨.integer i, ⟨offset, offset + byteLength word⟩⟩),
            ⟨offset + byteLength word, rest⟩)) ∧
    (¬(DigitsOf radix ds ∧ -2 ^ 63 ≤ signed negative (numberOf radix ds) ∧
        signed negative (numberOf radix ds) < 2 ^ 63) →
      (Cursor.mk offset (word ++ rest)).next =
        (.error ⟨.invalidInteger (String.ofList word), ⟨offset, offset + byteLength word⟩⟩,
          ⟨offset + byteLength word, rest⟩)) := by
  have hiff (i : Int64) : Numeral.integer? negative radix ds = some i ↔
      DigitsOf radix ds ∧ i.toInt = signed negative (numberOf radix ds) :=
    integer?_eq_some_iff h.radix_le h.isHexDigit
  -- What is read is decided by whether the digits have an integer, and by `hiff` that is the
  -- condition.
  rw [next_integerWord_eq h hrest]
  constructor
  · rintro ⟨hdigits, hmin, hmax⟩
    have hi : (Int64.ofInt (signed negative (numberOf radix ds))).toInt =
        signed negative (numberOf radix ds) := Int64.toInt_ofInt_of_le hmin hmax
    refine ⟨_, hi, ?_⟩
    rw [(hiff _).2 ⟨hdigits, hi⟩]
  · intro hnot
    have hnone : Numeral.integer? negative radix ds = none := by
      refine Option.eq_none_iff_forall_not_mem.2 fun i hi => hnot ?_
      obtain ⟨hdigits, hi⟩ := (hiff i).1 hi
      rw [← hi]
      exact ⟨hdigits, i.le_toInt, i.toInt_lt⟩
    rw [hnone]

open scoped Program in
/-- The smallest integer, in hexadecimal. -/
theorem next_integerWord_min :
    IntegerWord true 16 "8000000000000000".toList "-0X8000000000000000".toList ∧
    Delimits "]é".toList ∧
    (DigitsOf 16 "8000000000000000".toList ∧
      -2 ^ 63 ≤ signed true (numberOf 16 "8000000000000000".toList) ∧
      signed true (numberOf 16 "8000000000000000".toList) < 2 ^ 63) ∧
    ∃ i : Int64, i.toInt = -2 ^ 63 ∧
      (Cursor.mk 7 ("-0X8000000000000000".toList ++ "]é".toList)).next =
        (.ok (some ⟨.integer i, ⟨7, 26⟩⟩), ⟨26, "]é".toList⟩) := by
  have hword : IntegerWord true 16 "8000000000000000".toList "-0X8000000000000000".toList :=
    .hexadecimal (Or.inr rfl) ⟨by decide, List.all_eq_true.1 rfl⟩
  have hrest : Delimits "]é".toList := delimits_mark (Or.inr (Or.inl rfl))
  have hvalid : DigitsOf 16 "8000000000000000".toList ∧
      -2 ^ 63 ≤ signed true (numberOf 16 "8000000000000000".toList) ∧
      signed true (numberOf 16 "8000000000000000".toList) < 2 ^ 63 := by
    decide
  obtain ⟨i, hi, hnext⟩ := (next_integerWord hword hrest 7).1 hvalid
  refine ⟨hword, hrest, hvalid, i, hi.trans (by decide), hnext⟩

end Cursor

end TypeExpr
