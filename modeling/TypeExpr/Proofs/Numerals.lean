import TypeExpr.DataType.Render
import TypeExpr.Proofs.Reading
import TypeExpr.Proofs.Shortest

/-!
# Numbers as words

Every numeral that is written as numerals are written is taken off the front of a text whole,
whatever delimits it (`Numeral.split?_spelling`), and so it is read as the token it stands for
(`Numeral.spells_spelling`).  The rest is about the numerals that a number is written as: the
decimal digits of a 64-bit integer spell that integer (`spells_integer`), and in a notation that
gives whole numbers a decimal place the text of a finite double spells that double
(`spells_float`).

Taking a numeral off a text means to take rows of digits off it, each as long as it can be.  So all
of the first part comes down to what stops a row (`takeWhile_append_stop`): what delimits a word is
no digit, and between the parts of a numeral stand a point, a mark or a sign, which are none
either.  The one thing to look out for is that a zero in front of an `x` begins a hexadecimal
numeral, and that in no other case it does (`Numeral.splitHexadecimal?_of_isRow`).

A double is written as a decimal in one of two ways, positional or scientific.  Both are numerals
(`Decimal.wellFormed_numeral`), what is written is their spelling (`Decimal.spelling_numeral`), and
as decimals they are the one that was written, but for a zero behind the point
(`Decimal.token_numeral`).

What the reader of numbers does is said of it alone first (`readNumber_spelling`), where nothing is
asked of the other kinds of tokens; that numbers are what is read at a digit or a minus sign comes
after that (`readToken_of_number`).  The readers of specifications and of JSON documents meet in the
former.
-/

namespace TypeExpr

/-! ## Rows of digits

All that is needed of characters: which ones are digits, and which ones can follow a digit that is
the last one of its row.
-/

/-- One or more characters of a kind. -/
def IsRow (p : Char → Bool) (cs : List Char) : Prop := cs ≠ [] ∧ ∀ c ∈ cs, p c = true

/-- A row is taken whole if something else comes behind it. -/
theorem takeWhile_append_stop {p : Char → Bool} {cs rest : List Char} (hcs : ∀ c ∈ cs, p c = true)
    (hrest : ∀ c ∈ rest.head?, p c = false) : (cs ++ rest).takeWhile p = cs := by
  rw [List.takeWhile_append_of_pos hcs]
  cases rest with
  | nil => simp
  | cons c rest => simp [hrest c rfl]

/-- What is left behind a row that is taken whole. -/
theorem dropWhile_append_stop {p : Char → Bool} {cs rest : List Char} (hcs : ∀ c ∈ cs, p c = true)
    (hrest : ∀ c ∈ rest.head?, p c = false) : (cs ++ rest).dropWhile p = rest := by
  rw [List.dropWhile_append_of_pos hcs]
  cases rest with
  | nil => rfl
  | cons c rest => simp [hrest c rfl]

theorem isDigit_of_mem_toDigits {n : Nat} {c : Char} (h : c ∈ Nat.toDigits 10 n) :
    isDigit c = true := by
  have := Nat.isDigit_of_mem_toDigits (by decide) (by decide) h
  simpa [Char.isDigit, isDigit, Char.le_def] using this

/-- The digits of a number are a row, since there is always one at least. -/
theorem isRow_toDigits (n : Nat) : IsRow isDigit (Nat.toDigits 10 n) :=
  ⟨Nat.toDigits_ne_nil, fun _ => isDigit_of_mem_toDigits⟩

theorem ne_of_isDigit {c : Char} (h : isDigit c = true) :
    c ≠ '.' ∧ c ≠ '+' ∧ c ≠ '-' ∧ c ≠ 'x' ∧ c ≠ 'X' ∧ c ≠ 'e' ∧ c ≠ 'E' := by
  refine ⟨?_, ?_, ?_, ?_, ?_, ?_, ?_⟩ <;> rintro rfl <;> exact absurd h (by decide)

/-- What delimits a word does not begin with a digit. -/
theorem Delimits.not_isDigit {rest : List Char} (h : Delimits rest) :
    ∀ c ∈ rest.head?, isDigit c = false := by
  intro c hc
  by_contra hd
  rw [Bool.not_eq_false] at hd
  have := runsOn_of_inside (inside_of_isDigit hd)
  simp [h c hc] at this

/-- A hexadecimal digit may stand in a word, so it cannot delimit one. -/
theorem inside_of_isHexDigit {c : Char} (h : isHexDigit c = true) :
    WordKind.reference.inside c = true := by
  simp only [isHexDigit, WordKind.reference, isCapital, isLowerLetter, isDigitOrLine, isDigit,
    Bool.or_eq_true, Bool.and_eq_true, decide_eq_true_eq] at h ⊢
  rcases h with (h | ⟨h, h'⟩) | ⟨h, h'⟩
  · exact Or.inr (Or.inl h)
  · exact Or.inl (Or.inr ⟨h, Char.le_trans h' (by decide)⟩)
  · exact Or.inl (Or.inl ⟨h, Char.le_trans h' (by decide)⟩)

/-- What delimits a word does not begin with a hexadecimal digit. -/
theorem Delimits.not_isHexDigit {rest : List Char} (h : Delimits rest) :
    ∀ c ∈ rest.head?, isHexDigit c = false := by
  intro c hc
  by_contra hd
  rw [Bool.not_eq_false] at hd
  have := runsOn_of_inside (inside_of_isHexDigit hd)
  simp [h c hc] at this

/-! ## Numerals as they are written

Not every value of `Numeral` is spelled as a number.  Those that are have digits where digits have
to be, and a decimal has something that a whole number has not.
-/

namespace Numeral

/-- A mark, perhaps a sign, and digits. -/
structure Exponent.WellFormed (e : Exponent) : Prop where
  mark : e.mark = 'e' ∨ e.mark = 'E'
  sign : ∀ c ∈ e.sign, c = '+' ∨ c = '-'
  digits : IsRow isDigit e.digits

/-- Digits where a numeral has digits; a decimal has a fraction or an exponent. -/
inductive WellFormed : Numeral → Prop where
  | hexadecimal {mark ds} : mark = 'x' ∨ mark = 'X' → IsRow isHexDigit ds →
      WellFormed (.hexadecimal mark ds)
  | whole {ds} : IsRow isDigit ds → WellFormed (.whole ds)
  | decimal {ds fs e} : IsRow isDigit ds → (∀ c ∈ fs, isDigit c = true) → (fs ≠ [] ∨ e ≠ none) →
      (∀ x ∈ e, x.WellFormed) → WellFormed (.decimal ds fs e)

/-- A row begins with a character of its kind. -/
theorem exists_cons_of_isRow {p : Char → Bool} {cs : List Char} (h : IsRow p cs) :
    ∃ c ds, cs = c :: ds ∧ p c = true := by
  obtain ⟨c, ds, rfl⟩ := List.exists_cons_of_ne_nil h.1
  exact ⟨c, ds, rfl, h.2 c List.mem_cons_self⟩

/-- A numeral begins with a digit. -/
theorem WellFormed.exists_cons {n : Numeral} (h : n.WellFormed) :
    ∃ c cs, n.spelling = c :: cs ∧ isDigit c = true := by
  cases h with
  | @hexadecimal mark ds _ _ => exact ⟨'0', mark :: ds, rfl, by decide⟩
  | whole hds => exact exists_cons_of_isRow hds
  | @decimal ds fs e hds _ _ _ =>
    obtain ⟨c, cs, rfl, hc⟩ := exists_cons_of_isRow hds
    exact ⟨c, _, rfl, hc⟩

/-! ## Taking a numeral off a text

The parts of a numeral are taken off one after the other, so that there is one lemma for each part,
in front of the part that follows it.  What follows the whole only has to delimit a word.
-/

/-- An exponent is taken whole in front of whatever delimits a word. -/
theorem splitExponent?_spelling {e : Exponent} (h : e.WellFormed) {rest : List Char}
    (hrest : Delimits rest) : splitExponent? (e.spelling ++ rest) = some (e, rest) := by
  obtain ⟨mark, sign, ds⟩ := e
  obtain ⟨hmark, hsign, hds⟩ := h
  -- if there is no sign, the first digit is none either
  have hsplit : splitSignMark (sign.toList ++ ds ++ rest) = (sign, ds ++ rest) := by
    cases sign with
    | none =>
      obtain ⟨c, cs, rfl, hc⟩ := exists_cons_of_isRow hds
      have := ne_of_isDigit hc
      simp [splitSignMark, this]
    | some c => simp [splitSignMark, hsign c rfl]
  have htake := takeWhile_append_stop hds.2 hrest.not_isDigit
  have hdrop := dropWhile_append_stop hds.2 hrest.not_isDigit
  simp only [Exponent.spelling, List.cons_append, splitExponent?, hsplit, htake, hdrop]
  rw [if_pos ⟨hmark, hds.1⟩]

/-- No exponent begins with what delimits a word. -/
theorem splitExponent?_of_delimits {rest : List Char} (hrest : Delimits rest) :
    splitExponent? rest = none := by
  cases rest with
  | nil => rfl
  | cons c cs =>
    have hc : ¬ (c = 'e' ∨ c = 'E') := by
      rintro (rfl | rfl) <;> exact absurd hrest.of_cons (by rw [runsOn_of_inside] <;> decide)
    simp [splitExponent?, hc]

/-- Digits that are delimited are a whole numeral: no point and no mark goes on them. -/
theorem splitDecimal_whole {ds rest : List Char} (hrest : Delimits rest) :
    splitDecimal ds rest = (whole ds, rest) := by
  cases rest with
  | nil => rfl
  | cons c cs =>
    have hc : c ≠ '.' := by
      rintro rfl
      exact absurd hrest.of_cons (by simp [runsOn_of_mark])
    simp [splitDecimal, hc, splitExponent?_of_delimits hrest]

/-- Digits with a fraction, an exponent or both are taken with all of it. -/
theorem splitDecimal_decimal {ds fs : List Char} {e : Option Exponent}
    (hfs : ∀ c ∈ fs, isDigit c = true) (hsome : fs ≠ [] ∨ e ≠ none) (he : ∀ x ∈ e, x.WellFormed)
    {rest : List Char} (hrest : Delimits rest) :
    splitDecimal ds ((if fs = [] then [] else '.' :: fs) ++ e.elim [] Exponent.spelling ++ rest) =
      (decimal ds fs e, rest) := by
  by_cases hnil : fs = []
  · -- without a point the exponent stands right behind the digits
    subst hnil
    cases e with
    | none => simp at hsome
    | some x =>
      have hx := splitExponent?_spelling (he x rfl) hrest
      have hmark : x.mark ≠ '.' := by
        intro h
        have := (he x rfl).mark
        simp [h] at this
      simp only [if_pos, List.nil_append, Option.elim_some, Exponent.spelling,
        List.cons_append, List.append_assoc] at hx ⊢
      simp [splitDecimal, hmark, hx]
  · have hstop : ∀ c ∈ (e.elim [] Exponent.spelling ++ rest).head?, isDigit c = false := by
      cases e with
      | none => exact hrest.not_isDigit
      | some x =>
        rintro c ⟨⟩
        rcases (he x rfl).mark with h | h <;> rw [h] <;> rfl
    have htake := takeWhile_append_stop hfs hstop
    have hdrop := dropWhile_append_stop hfs hstop
    rw [if_neg hnil, List.cons_append, List.cons_append, List.append_assoc]
    cases e with
    | none =>
      simp only [Option.elim_none, List.nil_append] at htake hdrop ⊢
      simp [splitDecimal, htake, hdrop, hnil, splitExponent?_of_delimits hrest]
    | some x =>
      have hx := splitExponent?_spelling (he x rfl) hrest
      simp only [Option.elim_some] at htake hdrop ⊢
      simp [splitDecimal, htake, hdrop, hnil, hx]

/-- Decimal digits are not taken for a hexadecimal numeral unless an `x` comes behind them. -/
theorem splitHexadecimal?_of_isRow {ds rest : List Char} (hds : IsRow isDigit ds)
    (hrest : ∀ c ∈ rest.head?, c ≠ 'x' ∧ c ≠ 'X') : splitHexadecimal? (ds ++ rest) = none := by
  -- the second character is a digit, or else the one that comes behind
  obtain ⟨c, cs, rfl, -⟩ := exists_cons_of_isRow hds
  have hsecond : ∀ d ∈ (cs ++ rest).head?, ¬ (d = 'x' ∨ d = 'X') := by
    intro d hd
    cases cs with
    | nil =>
      have := hrest d hd
      rintro (h | h) <;> simp_all
    | cons d' cs =>
      cases hd
      have := ne_of_isDigit (hds.2 d (by simp))
      rintro (h | h) <;> simp_all
  rw [List.cons_append]
  generalize cs ++ rest = ts at hsecond
  unfold splitHexadecimal?
  split
  · rename_i d ts' heq
    cases heq
    rw [if_neg]
    exact fun h => hsecond d rfl h.1
  · rfl

/-- **Longest match**: a numeral is taken whole off the text that it begins. -/
theorem split?_spelling {n : Numeral} (h : n.WellFormed) {rest : List Char}
    (hrest : Delimits rest) : split? (n.spelling ++ rest) = some (n, rest) := by
  have hx : ∀ c ∈ rest.head?, c ≠ 'x' ∧ c ≠ 'X' := by
    intro c hc
    constructor <;> rintro rfl <;> exact absurd (hrest _ hc) (by rw [runsOn_of_inside] <;> decide)
  cases h with
  | @hexadecimal mark ds hmark hds =>
    have htake := takeWhile_append_stop hds.2 hrest.not_isHexDigit
    have hdrop := dropWhile_append_stop hds.2 hrest.not_isHexDigit
    have hhex :
        splitHexadecimal? ('0' :: mark :: ds ++ rest) = some (.hexadecimal mark ds, rest) := by
      simp [splitHexadecimal?, htake, hdrop, hmark, hds.1]
    simp only [split?, spelling, hhex]
  | @whole ds hds =>
    have htake := takeWhile_append_stop hds.2 hrest.not_isDigit
    have hdrop := dropWhile_append_stop hds.2 hrest.not_isDigit
    simp only [split?, spelling, splitHexadecimal?_of_isRow hds hx, htake, hdrop]
    rw [if_neg hds.1, splitDecimal_whole hrest]
  | @decimal ds fs e hds hfs hsome he =>
    -- the first row of digits is stopped by the point or by the mark of the exponent
    have hrest' : ∀ c ∈ ((if fs = [] then [] else '.' :: fs) ++ e.elim [] Exponent.spelling ++
        rest).head?, isDigit c = false ∧ c ≠ 'x' ∧ c ≠ 'X' := by
      by_cases hnil : fs = []
      · cases e with
        | none => simp [hnil] at hsome
        | some x =>
          rw [if_pos hnil]
          rintro c ⟨⟩
          rcases (he x rfl).mark with h | h <;> rw [h] <;> decide
      · rw [if_neg hnil]
        rintro c ⟨⟩
        decide
    have htake := takeWhile_append_stop hds.2 fun c hc => (hrest' c hc).1
    have hdrop := dropWhile_append_stop hds.2 fun c hc => (hrest' c hc).1
    have hhex := splitHexadecimal?_of_isRow hds fun c hc => (hrest' c hc).2
    simp only [← List.append_assoc] at htake hdrop hhex
    simp only [split?, spelling, hhex, htake, hdrop]
    rw [if_neg hds.1, splitDecimal_decimal hfs hsome he hrest]

/-- What begins with a digit or a minus sign is read as a number. -/
theorem readToken_of_number [PatternLanguage] {c : Char} (h : (isDigit c || c == '-') = true) :
    Text.isBlank c = false ∧ c ≠ '#' ∧ ∀ cs, readToken c cs = (readNumber (c :: cs)).closed := by
  have hc : c.toNat < 128 := by
    simp only [Bool.or_eq_true, beq_iff_eq] at h
    rcases h with h | rfl
    · exact ascii_of_inside (inside_of_isDigit h)
    · decide
  -- it is none of the characters that are looked for before numbers
  have hall := forall_ascii (P := fun c => (isDigit c || c == '-') = true → c ≠ '[' ∧ c ≠ ']' ∧
    c ≠ ',' ∧ c ≠ '\'' ∧ c ≠ '"' ∧ c ≠ '/' ∧ Text.isBlank c = false ∧ c ≠ '#')
    (by decide) hc
  obtain ⟨h₁, h₂, h₃, h₄, h₅, h₆, h₇, h₈⟩ := hall h
  refine ⟨h₇, h₈, fun cs => ?_⟩
  unfold readToken
  rw [if_neg h₁, if_neg h₂, if_neg h₃, if_neg h₄, if_neg h₅, if_neg h₆, if_pos h]

/-- **Numbers**: a numeral, perhaps behind a minus sign, is taken whole in front of whatever
    delimits it, and read as the token that it stands for or refused. -/
theorem readNumber_spelling {n : Numeral} (hn : n.WellFormed) (negative : Bool) {rest : List Char}
    (hrest : Delimits rest) :
    readNumber ((if negative then ['-'] else []) ++ n.spelling ++ rest) =
      match n.token negative with
      | .ok t => .token t ((if negative then ['-'] else []) ++ n.spelling) rest
      | .error cause => .failure cause ((if negative then ['-'] else []) ++ n.spelling)
          ((if negative then ['-'] else []) ++ n.spelling) rest := by
  have hsplit := split?_spelling hn hrest
  cases negative with
  | true =>
    cases htoken : n.token true <;>
      simp only [readNumber, if_true, List.cons_append, List.nil_append, List.head?_cons,
        beq_self_eq_true, List.tail_cons, hsplit, htoken]
  | false =>
    -- the digit that the numeral begins with is not taken for a sign
    obtain ⟨c, cs, hspelling, hc⟩ := hn.exists_cons
    have hminus : (List.head? (n.spelling ++ rest) == some '-') = false := by
      simp [hspelling, (ne_of_isDigit hc).2.2.1]
    cases htoken : n.token false <;>
      simp only [readNumber, Bool.false_eq_true, if_false, List.nil_append, hminus, hsplit, htoken]

/-- A numeral begins a number, which is read whole. -/
theorem readToken_spelling [PatternLanguage] {n : Numeral} (hn : n.WellFormed) (negative : Bool) :
    ∃ c cs, (if negative then ['-'] else []) ++ n.spelling = c :: cs ∧
      Text.isBlank c = false ∧ c ≠ '#' ∧ ∀ rest, Delimits rest →
        readToken c (cs ++ rest) = match n.token negative with
          | .ok t => .token t (c :: cs) rest
          | .error cause => .failure cause (c :: cs) (c :: cs) rest := by
  obtain ⟨c, cs, htext, hc⟩ : ∃ c cs, (if negative then ['-'] else []) ++ n.spelling = c :: cs ∧
      (isDigit c || c == '-') = true := by
    obtain ⟨c, cs, hspelling, hc⟩ := hn.exists_cons
    cases negative with
    | true => exact ⟨'-', n.spelling, rfl, by decide⟩
    | false => exact ⟨c, cs, hspelling, by simp [hc]⟩
  -- the first character decides that a number is read here
  obtain ⟨hblank, hcomment, hread⟩ := readToken_of_number hc
  refine ⟨c, cs, htext, hblank, hcomment, fun rest hrest => ?_⟩
  have hnumber := readNumber_spelling hn negative hrest
  rw [htext, List.cons_append] at hnumber
  rw [hread, hnumber]
  cases n.token negative with
  | ok t => exact Reading.closed_token hrest
  | error cause => rfl

/-- A numeral is read as the token it stands for. -/
theorem spells_spelling [PatternLanguage] {n : Numeral} (hn : n.WellFormed) {negative : Bool}
    {t : Token} (ht : n.token negative = .ok t) :
    Spells ((if negative then ['-'] else []) ++ n.spelling) t := by
  obtain ⟨c, cs, hspelling, hblank, hcomment, hread⟩ := readToken_spelling hn negative
  rw [hspelling]
  refine ⟨c, cs, rfl, hblank, hcomment, fun rest hrest => ?_⟩
  rw [hread rest hrest, ht]

end Numeral

/-! ## Integers

An integer is written in decimal.  Two things could go wrong when it is read, and do not: the digits
could be taken for octal ones, if they began with a zero, and the value could be out of range.
-/

theorem digitsValue_toDigits (n : Nat) : digitsValue (Nat.toDigits 10 n) = n :=
  Nat.ofDigitChars_ten_toDigits

/-- Digits of the radix ten have the value that they spell. -/
theorem radixValue?_ten {ds : List Char} (h : ∀ c ∈ ds, isDigit c = true) (n : Nat) :
    radixValue? 10 n ds = some (Nat.ofDigitChars 10 ds n) := by
  induction ds generalizing n with
  | nil => simp [radixValue?]
  | cons c ds ih =>
    have hc := h c List.mem_cons_self
    have hvalue : digitValue? 10 c = some (c.toNat - '0'.toNat) := by
      have hlt : c.toNat - '0'.toNat < 10 := by
        simp only [isDigit, Bool.and_eq_true, decide_eq_true_eq] at hc
        have : c.toNat ≤ '9'.toNat := toNat_le_of_le hc.2
        have : '9'.toNat = 57 ∧ '0'.toNat = 48 := by decide
        omega
      simp only [digitValue?, hc, if_true, hlt]
    rw [radixValue?, hvalue, Option.bind_some, ih (fun d hd => h d (List.mem_cons_of_mem c hd)),
      Nat.ofDigitChars_cons]

/-- The digits of a number do not begin with a zero, unless it is zero. -/
theorem head?_toDigits_ne (n : Nat) (hn : n ≠ 0) : (Nat.toDigits 10 n).head? ≠ some '0' := by
  induction n using Nat.strongRecOn with
  | _ n ih =>
    -- one digit, or the digits of a tenth and one more
    by_cases hlt : n < 10
    · rw [Nat.toDigits_of_lt_base hlt]
      have : ∀ m < 10, m ≠ 0 → [Nat.digitChar m].head? ≠ some '0' := by decide
      exact this n hlt hn
    · have hhead := ih (n / 10) (by omega) (by omega)
      rw [Nat.toDigits_of_base_le (by decide) (by omega)]
      have hne : Nat.toDigits 10 (n / 10) ≠ [] := Nat.toDigits_ne_nil
      obtain ⟨c, cs, hcs⟩ := List.exists_cons_of_ne_nil hne
      rw [hcs] at hhead ⊢
      exact hhead

/-- So they are not read as octal. -/
theorem wholeRadix_toDigits (n : Nat) :
    Numeral.wholeRadix (Nat.toDigits 10 n) = (10, Nat.toDigits 10 n) := by
  by_cases hn : n = 0
  · subst hn
    rfl
  · have hhead := head?_toDigits_ne n hn
    unfold Numeral.wholeRadix
    split
    · rename_i d ds heq
      rw [heq] at hhead
      exact absurd rfl hhead
    · rfl

/-- The digits of a 64-bit integer, behind its sign, stand for the integer: they are decimal ones,
    and it is in range. -/
theorem token_whole (n : Int64) :
    (Numeral.whole (Nat.toDigits 10 n.toInt.natAbs)).token (n.toInt < 0) = .ok (.integer n) := by
  have hvalue : radixValue? 10 0 (Nat.toDigits 10 n.toInt.natAbs) = some n.toInt.natAbs := by
    rw [radixValue?_ten (fun _ => isDigit_of_mem_toDigits), Nat.ofDigitChars_ten_toDigits]
  -- the sign is put back in front of the magnitude
  have hsigned : signed (n.toInt < 0) n.toInt.natAbs = n.toInt := by
    by_cases h : n.toInt < 0
    · simp only [signed, h, decide_true, if_true]
      omega
    · simp only [signed, h, decide_false, Bool.false_eq_true, if_false]
      omega
  have hint64 : Numeral.int64? n.toInt = some n := by
    have hmin : Int64.minValue.toInt ≤ n.toInt := n.le_toInt
    have hmax : n.toInt ≤ Int64.maxValue.toInt := Int.le_of_lt_add_one n.toInt_lt
    rw [Numeral.int64?, if_pos ⟨hmin, hmax⟩, Int64.ofInt_toInt]
  have hinteger : Numeral.integer? (n.toInt < 0) 10 (Nat.toDigits 10 n.toInt.natAbs) = some n := by
    rw [Numeral.integer?, hvalue, Option.bind_some, hsigned, hint64]
  simp only [Numeral.token, wholeRadix_toDigits, hinteger]

/-- The text of an integer is its digits, behind a minus sign if it is negative. -/
theorem toList_toString_int (n : Int) :
    (toString n).toList = (if n < 0 then ['-'] else []) ++ Nat.toDigits 10 n.natAbs := by
  rw [Int.toString_eq_repr, Int.repr_eq_if]
  by_cases h : n < 0
  · have hnat : (-n).toNat = n.natAbs := by omega
    rw [if_neg (by omega), if_pos h, String.toList_append, Nat.toList_repr, hnat]
    rfl
  · have hnat : n.toNat = n.natAbs := by omega
    rw [if_pos (by omega), if_neg h, Nat.toList_repr, hnat]
    rfl

/-- **Integers** are spelled by their decimal digits. -/
theorem spells_integer [PatternLanguage] (n : Int64) :
    Spells (toString n.toInt).toList (.integer n) := by
  have := Numeral.spells_spelling (.whole (isRow_toDigits n.toInt.natAbs)) (token_whole n)
  simp only [decide_eq_true_eq] at this
  rw [toList_toString_int]
  exact this

/-- Integers are read back from their text. -/
theorem reads_integer [PatternLanguage] (n : Int64) :
    Reads (toString n.toInt).toList (some [.integer n]) :=
  (spells_integer n).reads

/-! ## Doubles

A decimal is the digits of a number and the place of the point.  Written out, it has zeros before or
behind these digits; as a number it is the same.
-/

namespace Decimal

/-- The numeral that a decimal is written as, apart from its sign.  A whole number has a decimal
    place, and a positive exponent may have a sign. -/
def numeral (d : Decimal) (positional plusSign : Bool) : Numeral :=
  let ds := decimalDigits d.digits
  let order := d.exponent + ds.length - 1
  if positional then
    match d.exponent with
    | .ofNat e => .decimal (ds ++ List.replicate e '0') ['0'] none
    | .negSucc e =>
      if e + 1 < ds.length then
        .decimal (ds.take (ds.length - (e + 1))) (ds.drop (ds.length - (e + 1))) none
      else .decimal ['0'] (List.replicate (e + 1 - ds.length) '0' ++ ds) none
  else
    .decimal (ds.take 1) (ds.drop 1)
      (some ⟨'e', if order < 0 then some '-' else if plusSign then some '+' else none,
        decimalDigits order.natAbs⟩)

theorem length_decimalDigits_pos (n : Nat) : 0 < (decimalDigits n).length := Nat.length_toDigits_pos

/-- The numeral is spelled as the decimal is written, apart from its sign, in both ways to write
    one. -/
theorem spelling_numeral (d : Decimal) (positional plusSign : Bool) :
    (d.numeral positional plusSign).spelling =
      if positional then d.positional true else d.scientific plusSign := by
  have hlen := length_decimalDigits_pos d.digits
  cases positional with
  | true =>
    cases he : d.exponent with
    | ofNat e => simp [numeral, Decimal.positional, he, Numeral.spelling]
    | negSucc e =>
      by_cases h : e + 1 < (decimalDigits d.digits).length
      · -- the point stands among the digits, or in front of them all
        have hdrop :
            (decimalDigits d.digits).drop ((decimalDigits d.digits).length - (e + 1)) ≠ [] := by
          intro hnil
          have := congrArg List.length hnil
          simp only [List.length_drop, List.length_nil] at this
          omega
        simp [numeral, Decimal.positional, he, h, Numeral.spelling, hdrop]
      · have hne : List.replicate (e + 1 - (decimalDigits d.digits).length) '0' ++
            decimalDigits d.digits ≠ [] := by
          simp [decimalDigits]
        simp [numeral, Decimal.positional, he, h, Numeral.spelling, hne]
  | false =>
    have hdrop : (decimalDigits d.digits).drop 1 = [] ↔ (decimalDigits d.digits).length = 1 := by
      rw [List.drop_eq_nil_iff]
      omega
    simp only [numeral, scientific, Numeral.spelling, Numeral.Exponent.spelling, hdrop,
      Bool.false_eq_true, if_false, Option.elim_some]
    split <;> split <;> cases plusSign <;> simp

/-- Zeros are a row of digits, if there is one at least. -/
theorem isRow_zeros (n : Nat) : IsRow isDigit (List.replicate (n + 1) '0') := by
  refine ⟨by simp [List.replicate_succ], fun c hc => ?_⟩
  rw [List.eq_of_mem_replicate hc]
  decide

/-- A row of digits in front of digits is one row with them. -/
theorem isRow_append {p : Char → Bool} {cs ds : List Char} (hcs : IsRow p cs)
    (hds : ∀ c ∈ ds, p c = true) : IsRow p (cs ++ ds) := by
  refine ⟨by simp [hcs.1], fun c hc => ?_⟩
  rcases List.mem_append.1 hc with hc | hc
  · exact hcs.2 c hc
  · exact hds c hc

/-- The first digits of a row, at least one, are a row. -/
theorem isRow_take {p : Char → Bool} {cs : List Char} {n : Nat} (hcs : IsRow p cs) (hn : 0 < n) :
    IsRow p (cs.take n) := by
  refine ⟨?_, fun c hc => hcs.2 c (List.mem_of_mem_take hc)⟩
  rw [ne_eq, List.take_eq_nil_iff]
  rintro (h | h)
  · omega
  · exact hcs.1 h

/-- The numeral is written as numerals are: where there have to be digits, there are. -/
theorem wellFormed_numeral (d : Decimal) (positional plusSign : Bool) :
    (d.numeral positional plusSign).WellFormed := by
  -- each row is made of digits of the number, of zeros, or of both
  have hrow : IsRow isDigit (decimalDigits d.digits) := isRow_toDigits d.digits
  have hzeros (n : Nat) : ∀ c ∈ List.replicate n '0', isDigit c = true :=
    fun c hc => (isRow_zeros n).2 c (List.mem_replicate.2 ⟨by simp, List.eq_of_mem_replicate hc⟩)
  unfold numeral
  cases positional with
  | true =>
    cases d.exponent with
    | ofNat e => exact .decimal (isRow_append hrow (hzeros e)) (hzeros 1) (by simp) (by simp)
    | negSucc e =>
      by_cases h : e + 1 < (decimalDigits d.digits).length
      · simp only [if_true, h]
        refine .decimal (isRow_take hrow (by omega))
          (fun c hc => hrow.2 c (List.mem_of_mem_drop hc)) (Or.inl ?_) (by simp)
        rw [ne_eq, List.drop_eq_nil_iff]
        omega
      · simp only [if_true, h, if_false]
        refine .decimal (isRow_zeros 0) ?_ (Or.inl (by simp [hrow.1])) (by simp)
        intro c hc
        rcases List.mem_append.1 hc with hc | hc
        · exact hzeros _ c hc
        · exact hrow.2 c hc
  | false =>
    simp only [Bool.false_eq_true, if_false]
    refine .decimal (isRow_take hrow Nat.one_pos)
      (fun c hc => hrow.2 c (List.mem_of_mem_drop hc)) (Or.inr (by simp)) ?_
    rintro x ⟨⟩
    refine ⟨Or.inl rfl, ?_, isRow_toDigits _⟩
    intro c hc
    split at hc
    · cases hc
      exact Or.inr rfl
    · cases plusSign <;> cases hc
      exact Or.inl rfl

theorem digitsValue_append_zeros (ds : List Char) (e : Nat) :
    digitsValue (ds ++ List.replicate e '0') = digitsValue ds * 10 ^ e := by
  show Nat.ofDigitChars 10 (ds ++ List.replicate e '0') 0 = Nat.ofDigitChars 10 ds 0 * 10 ^ e
  rw [Nat.ofDigitChars_append, Nat.ofDigitChars_replicate_zero, Nat.mul_comm]

theorem digitsValue_zeros_append (ds : List Char) (e : Nat) :
    digitsValue (List.replicate e '0' ++ ds) = digitsValue ds := by
  show Nat.ofDigitChars 10 (List.replicate e '0' ++ ds) 0 = Nat.ofDigitChars 10 ds 0
  rw [Nat.ofDigitChars_append, Nat.ofDigitChars_replicate_zero, Nat.mul_zero]

/-- A whole number with a decimal place. -/
theorem respells_place (d : Decimal) {e : Nat} (he : d.exponent = .ofNat e) :
    Double.Respells ⟨d.negative, d.digits * 10 ^ (e + 1), -1⟩ d := by
  refine ⟨rfl, fun h => by simp [h], fun n hn => ?_⟩
  unfold Counts at hn ⊢
  have hexponent : (Int.ofNat e).toNat = e ∧ (-Int.ofNat e).toNat = 0 := by
    constructor
    · rfl
    · simp
  have hplace : (-1 : Int).toNat = 0 ∧ (-(-1 : Int)).toNat = 1 := by decide
  have hten : Nat.pow 10 0 = 1 ∧ Nat.pow 10 1 = 10 := by decide
  simp only [num, den, he, hexponent, hplace, hten, Nat.mul_one] at hn ⊢
  rw [← hn, Nat.pow_succ, ← Nat.mul_assoc, Nat.mul_right_comm _ 10]
  rfl

theorem digitsValue_decimalDigits (n : Nat) : digitsValue (decimalDigits n) = n :=
  digitsValue_toDigits n

/-- The digits with a point among them. -/
theorem ofParts_take_drop {d : Decimal} {e : Nat} (he : d.exponent = .negSucc e)
    (h : e + 1 < (decimalDigits d.digits).length) :
    ofParts d.negative ((decimalDigits d.digits).take ((decimalDigits d.digits).length - (e + 1)))
      ((decimalDigits d.digits).drop ((decimalDigits d.digits).length - (e + 1))) 0 = d := by
  obtain ⟨negative, digits, exponent⟩ := d
  simp only [ofParts, List.take_append_drop, digitsValue_decimalDigits, List.length_drop,
    Decimal.mk.injEq, true_and]
  simp only at he h
  omega

/-- The digits behind the point, after as many zeros as it takes. -/
theorem ofParts_zeros {d : Decimal} {e : Nat} (he : d.exponent = .negSucc e)
    (h : ¬e + 1 < (decimalDigits d.digits).length) :
    ofParts d.negative ['0'] (List.replicate (e + 1 - (decimalDigits d.digits).length) '0' ++
      decimalDigits d.digits) 0 = d := by
  obtain ⟨negative, digits, exponent⟩ := d
  have hzeros : digitsValue (['0'] ++ (List.replicate (e + 1 - (decimalDigits digits).length)
      '0' ++ decimalDigits digits)) = digits := by
    rw [← List.append_assoc, List.singleton_append, ← List.replicate_succ,
      digitsValue_zeros_append, digitsValue_decimalDigits]
  simp only [ofParts, hzeros, List.length_append, List.length_replicate, Decimal.mk.injEq, true_and]
  simp only at he h
  omega

/-- The exponent that is written has the value of the order, whether or not a plus sign is written.
    -/
theorem value_exponent (order : Int) (plusSign : Bool) : Numeral.Exponent.value
    ⟨'e', if order < 0 then some '-' else if plusSign then some '+' else none,
      decimalDigits order.natAbs⟩ = order := by
  by_cases h : order < 0
  · simp only [Numeral.Exponent.value, h, if_true, digitsValue_decimalDigits, signed, decide_true]
    omega
  · have hsign : ¬(if plusSign then some '+' else none) = some '-' := by cases plusSign <;> decide
    simp only [Numeral.Exponent.value, h, if_false, digitsValue_decimalDigits, signed, hsign,
      decide_false, Bool.false_eq_true]
    omega

/-- One digit before the point, and the place of the first digit as the exponent. -/
theorem ofParts_scientific (d : Decimal) :
    ofParts d.negative ((decimalDigits d.digits).take 1) ((decimalDigits d.digits).drop 1)
      (d.exponent + (decimalDigits d.digits).length - 1) = d := by
  have hlen := length_decimalDigits_pos d.digits
  obtain ⟨negative, digits, exponent⟩ := d
  simp only [ofParts, List.take_append_drop, digitsValue_decimalDigits, List.length_drop,
    Decimal.mk.injEq, true_and]
  simp only at hlen
  omega

/-- The numeral that a decimal is written as is the same number. -/
theorem token_numeral {d : Decimal} {x : Double} (positional plusSign : Bool)
    (hx : x.isFinite = true) (h : ∀ d', Double.Respells d' d → Double.ofDecimal d' = x) :
    (d.numeral positional plusSign).token d.negative = .ok (.float x) := by
  have hsame : Double.ofDecimal d = x := h d ⟨rfl, id, fun _ => id⟩
  have hdecimal (ws fs : List Char) (e : Option Numeral.Exponent)
      (hd : Double.ofDecimal (.ofParts d.negative ws fs (e.elim 0 Numeral.Exponent.value)) = x) :
      (Numeral.decimal ws fs e).token d.negative = .ok (.float x) := by
    simp only [Numeral.token, hd, hx, if_true]
  unfold numeral
  cases positional with
  | true =>
    cases he : d.exponent with
    | ofNat e =>
      -- only here the digits are not those of the decimal: there is a zero behind the point
      refine hdecimal _ _ _ (h _ ?_)
      have hplace : decimalDigits d.digits ++ List.replicate e '0' ++ ['0'] =
          decimalDigits d.digits ++ List.replicate (e + 1) '0' := by
        rw [List.append_assoc, ← List.replicate_succ']
      have := respells_place d he
      simpa [ofParts, hplace, digitsValue_append_zeros, digitsValue_decimalDigits] using this
    | negSucc e =>
      by_cases hplaces : e + 1 < (decimalDigits d.digits).length
      · simp only [if_true, hplaces]
        refine hdecimal _ _ _ ?_
        rwa [Option.elim_none, ofParts_take_drop he hplaces]
      · simp only [if_true, hplaces, if_false]
        refine hdecimal _ _ _ ?_
        rwa [Option.elim_none, ofParts_zeros he hplaces]
  | false =>
    simp only [Bool.false_eq_true, if_false]
    refine hdecimal _ _ _ ?_
    rwa [Option.elim_some, value_exponent, ofParts_scientific]

end Decimal

/-- **Doubles**: in a notation that gives whole numbers a decimal place, the text of a double is a
    decimal numeral, perhaps behind a minus sign, and that is the double. -/
theorem Double.exists_numeral (n : DecimalNotation) (hplace : n.wholePlace = true)
    (negative : Bool) (rank : Fin infinityRank) : ∃ d : Decimal, ∃ positional : Bool,
      (Double.text n (.finite negative rank)).toList =
        (if negative then ['-'] else []) ++ (d.numeral positional n.plusSign).spelling ∧
      (d.numeral positional n.plusSign).token negative = .ok (.float (.finite negative rank)) := by
  generalize hd : Double.shortest n.tie negative rank.val = d
  have hnegative : d.negative = negative := by
    rw [← hd]
    exact Double.shortest_negative n.tie negative rank.val
  have hread : ∀ d', Double.Respells d' d → Double.ofDecimal d' = .finite negative rank := by
    intro d' hd'
    rw [← hd] at hd'
    exact Double.ofDecimal_of_respells hd'
  -- whichever way it is written, the numeral is a respelling of the shortest decimal
  have htoken (positional : Bool) := Decimal.token_numeral positional n.plusSign rfl hread
  rw [hnegative] at htoken
  have htext : (Double.text n (.finite negative rank)).toList = n.write d := by
    rw [Double.text, String.toList_ofList]
    exact congrArg n.write hd
  rw [htext, DecimalNotation.write, hnegative, hplace]
  by_cases h : d.digits = 0 ∨ n.positional (d.exponent + (decimalDigits d.digits).length - 1) = true
  · refine ⟨d, true, ?_, htoken true⟩
    simp only [if_pos h, Decimal.spelling_numeral, if_true]
  · refine ⟨d, false, ?_, htoken false⟩
    simp only [if_neg h, Decimal.spelling_numeral, Bool.false_eq_true, if_false]

/-- In a notation that writes a place after the point for whole numbers too, the text of a finite
    double is taken for a double, and for the same one. -/
theorem spells_float [PatternLanguage] (n : DecimalNotation) (hplace : n.wholePlace = true)
    (negative : Bool) (rank : Fin infinityRank) :
    Spells (Double.text n (.finite negative rank)).toList (.float (.finite negative rank)) := by
  obtain ⟨d, positional, htext, htoken⟩ := Double.exists_numeral n hplace negative rank
  rw [htext]
  exact Numeral.spells_spelling (d.wellFormed_numeral positional _) htoken

/-- Doubles are read back from their canonical text. -/
theorem reads_float [PatternLanguage] (negative : Bool) (rank : Fin infinityRank) :
    Reads (Double.text canonicalNotation (.finite negative rank)).toList
      (some [.float (.finite negative rank)]) :=
  (spells_float canonicalNotation rfl negative rank).reads

end TypeExpr
