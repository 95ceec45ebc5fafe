import TypeExpr.Proofs.Tiling
import TypeExpr.Regex.Check

/-!
# Reading on after errors

A reading can go on where the last one left off even if that was an error, so it comes to places
that no token ends at, such as the inside of a string that is never closed.  Still a reading does
one of two things (`Cursor.read_step`): it takes characters of the text, or it is settled and takes
none.  It is settled at the end of the text, where no token can begin with the next character, and
where a minus sign stands without a number.

Whoever takes nothing stays where he is, so every reading behind a settled one says the same
(`Cursor.next_of_isSettled`).  The other readings take at least a byte each, so there cannot be more
of them than the text has bytes, and one reading more is settled (`Cursor.exists_isSettled`).
Together this says how any number of readings of a text goes (`Cursor.readings_progress`).

The step comes down to a property of what is read, `Reading.Moves`: whether a failure takes anything
can be told from its cause.  It is shown once for each of the four ways to read a token.  A run is
then so many steps, and what is said of it is shown by induction on their number: the place is
behind some characters of the text (`Cursor.exists_passes_after`), and as long as no reading has
been settled, behind as many bytes as there have been readings (`Cursor.le_offset_after`).
-/

namespace TypeExpr

open Text (byteLength splitTrivia splitTrivia_append IsBoundary)

/-! ## What a reading takes

Whether anything is taken when reading fails can be told from the cause.  There are two causes after
which the same characters are found again; after any other at least one is gone.
-/

/-- What is wrong is not taken, and is found again. -/
inductive SyntaxError.Cause.Stays : SyntaxError.Cause → Prop where
  | unexpectedCharacter (c : Char) : Stays (.unexpectedCharacter c)
  | numberExpected : Stays .numberExpected

/-- A failure takes nothing exactly if its cause stays. -/
def Reading.Moves : Reading → Prop
  | .token _ _ _ => True
  | .failure cause _ taken _ => cause.Stays ↔ taken = []

/-- What spoils a word is found behind it, and the word is taken. -/
theorem Reading.Moves.closed {text : List Char} {r : Reading} (h : r.Moves)
    (hsplits : r.Splits text) : r.closed.Moves := by
  unfold Reading.closed
  split
  · split
    · -- the word is taken without what spoils it
      exact iff_of_false nofun hsplits.2
    · trivial
  · exact h

/-- A literal takes its opening mark at least, whatever is wrong with it. -/
theorem moves_readDelimited [PatternLanguage] {d : Delimiter} {u : SyntaxError.Cause}
    {token : List Char → Except SyntaxError.Cause Token} (hopens : d.Opens u token)
    (cs : List Char) : (readDelimited d u token cs).Moves := by
  -- no cause that a literal can have is one that stays
  have hu : ¬u.Stays := by
    cases hopens <;> nofun
  have htoken (v : List Char) (cause : SyntaxError.Cause) (h : token v = .error cause) :
      ¬cause.Stays := by
    cases hopens with
    | apostrophe | doubleQuote => cases h
    | slash =>
      unfold regexToken at h
      split at h
      · cases h
      · cases h
        nofun
  unfold readDelimited
  split
  · exact iff_of_false hu (by simp)
  · split
    · trivial
    · rename_i cause hcause
      exact iff_of_false (htoken _ cause hcause) (by simp)

/-- A numeral that is refused is not found again. -/
theorem Numeral.not_stays_of_token {negative : Bool} {n : Numeral} {cause : SyntaxError.Cause}
    (h : n.token negative = .error cause) : ¬cause.Stays := by
  rcases n.token_cases negative with ⟨i, hi⟩ | ⟨x, -, hx⟩ | ⟨spelled, -, herror | herror⟩
  · cases hi.symm.trans h
  · cases hx.symm.trans h
  · cases herror.symm.trans h
    nofun
  · cases herror.symm.trans h
    nofun

/-- A number takes something, unless there is a minus sign and no number. -/
theorem moves_readNumber (cs : List Char) : (readNumber cs).Moves := by
  unfold readNumber
  simp only
  split
  · exact iff_of_true .numberExpected rfl
  · rename_i n rest hn
    split
    · trivial
    · rename_i cause hcause
      have hspelling := (Numeral.split?_append hn).2
      exact iff_of_false (Numeral.not_stays_of_token hcause) (by simp [hspelling])

/-- A word takes something, unless none begins with the character. -/
theorem moves_readWord (c : Char) (cs : List Char) : (readWord c cs).Moves := by
  unfold readWord
  split
  · trivial
  · split
    · trivial
    · exact iff_of_true (.unexpectedCharacter c) rfl

/-- So whether a failure takes anything can be told from its cause, whatever was read. -/
theorem moves_readToken [PatternLanguage] (c : Char) (cs : List Char) : (readToken c cs).Moves := by
  refine readToken_cases (P := fun _ _ r => r.Moves) ?_ ?_ ?_ ?_ c cs
  · exact fun c t cs _ => trivial
  · exact fun d u token cs hopens => moves_readDelimited hopens cs
  · exact fun c cs => (moves_readNumber (c :: cs)).closed (splits_readNumber c cs)
  · exact fun c cs => (moves_readWord c cs).closed (splits_readWord c cs)

/-- A reading after which nothing else is ever read: the text is at its end, or what is wrong
    stays. -/
inductive IsSettled : Except SyntaxError (Option Lexeme) → Prop where
  | endOfText : IsSettled (.ok none)
  | error {e : SyntaxError} : e.cause.Stays → IsSettled (.error e)

/-! ## One reading

A reading passes a part of what is left.  It is settled, or this part is not empty.
-/

namespace Cursor

/-- At the first cursor some characters come next, and the second one stands right behind them. -/
structure Passes (c : Cursor) (taken : List Char) (c' : Cursor) : Prop where
  rest : c.rest = taken ++ c'.rest
  offset : c'.offset = c.offset + byteLength taken

namespace Passes

variable {c c' c'' : Cursor} {taken taken' : List Char}

theorem refl (c : Cursor) : c.Passes [] c := ⟨rfl, rfl⟩

/-- What comes between two cursors, and between the second and a third, comes between the first and
    the third. -/
theorem trans (h : c.Passes taken c') (h' : c'.Passes taken' c'') :
    c.Passes (taken ++ taken') c'' where
  rest := by rw [h.rest, h'.rest, List.append_assoc]
  offset := by rw [h'.offset, h.offset, Text.byteLength_append, Nat.add_assoc]

theorem offset_le (h : c.Passes taken c') : c.offset ≤ c'.offset :=
  h.offset ▸ Nat.le_add_right ..

theorem offset_lt (h : c.Passes taken c') (hne : taken ≠ []) : c.offset < c'.offset := by
  have := byteLength_pos hne
  have := h.offset
  omega

end Passes

/-- Blanks and comments are passed when they are skipped. -/
theorem passes_skipTrivia (c : Cursor) : c.Passes (splitTrivia false c.rest).1 c.skipTrivia :=
  ⟨(splitTrivia_append false c.rest).symm, rfl⟩

/-- Behind blanks and comments there are none. -/
theorem skipTrivia_skipTrivia (c : Cursor) : c.skipTrivia.skipTrivia = c.skipTrivia := by
  have h : splitTrivia false c.skipTrivia.rest = ([], c.skipTrivia.rest) :=
    splitTrivia_rest false c.rest
  exact skipTrivia_eq h c.skipTrivia.offset

section

variable [PatternLanguage]

/-- **Step**: a reading is settled and stays where it is, or it takes something. -/
theorem read_step (c : Cursor) :
    (IsSettled c.read.1 ∧ c.read.2 = c) ∨
      (¬IsSettled c.read.1 ∧ ∃ taken, taken ≠ [] ∧ c.Passes taken c.read.2) := by
  obtain ⟨offset, _ | ⟨x, xs⟩⟩ := c
  · exact Or.inl ⟨.endOfText, rfl⟩
  · have hsplits := splits_readToken x xs
    have hmoves := moves_readToken x xs
    -- a token always takes something; for a failure it depends on the cause
    cases hread : readToken x xs with
    | token t taken rest =>
      rw [hread] at hsplits
      simp only [read, hread, advance]
      refine Or.inr ⟨?_, taken, hsplits.2, hsplits.1.symm, rfl⟩
      rintro ⟨⟩
    | failure cause blamed taken rest =>
      rw [hread] at hsplits hmoves
      simp only [read, hread, advance]
      by_cases hstays : cause.Stays
      · have htaken : taken = [] := hmoves.1 hstays
        subst htaken
        have hrest : rest = x :: xs := hsplits
        exact Or.inl ⟨.error hstays, by simp [hrest]⟩
      · refine Or.inr ⟨?_, taken, fun h => hstays (hmoves.2 h), Eq.symm hsplits, rfl⟩
        rintro ⟨⟩
        contradiction

/-- A reading never goes back, and it goes on unless it is settled. -/
theorem exists_passes_next (c : Cursor) :
    ∃ taken, c.Passes taken c.next.2 ∧ (¬IsSettled c.next.1 → taken ≠ []) := by
  have hskip := c.passes_skipTrivia
  rcases c.skipTrivia.read_step with ⟨hsettled, hstays⟩ | ⟨-, taken, hne, hpasses⟩
  · rw [next, hstays]
    exact ⟨_, hskip, fun hmoves => absurd hsettled hmoves⟩
  · exact ⟨_, hskip.trans hpasses, fun _ => by simp [hne]⟩

/-- **Rest**: behind a settled reading the next one is the same, and so is the place. -/
theorem next_of_isSettled {c : Cursor} (h : IsSettled c.next.1) : c.next.2.next = c.next := by
  have hstays : c.next.2 = c.skipTrivia := by
    rcases c.skipTrivia.read_step with ⟨-, hstays⟩ | ⟨hmoves, -⟩
    · exact hstays
    · exact absurd h hmoves
  rw [hstays, next, skipTrivia_skipTrivia]
  rfl

/-! ## Any number of readings

By induction on how many there are.  Each one that is not settled passes a byte at least, so there
cannot be more of them than bytes.
-/

/-- The cursor behind `n` readings, each one going on where the last one left off. -/
def after : Nat → Cursor → Cursor
  | 0, c => c
  | n + 1, c => (after n c).next.2

/-- A reading more may be made first or last. -/
theorem after_next (n : Nat) (c : Cursor) : c.next.2.after n = c.after (n + 1) := by
  induction n with
  | zero => rfl
  | succ n ih =>
    rw [after, ih]
    rfl

/-- Every reading is made at the cursor behind those before it. -/
theorem readings_eq_map (n : Nat) (c : Cursor) :
    readings n c = (List.range n).map fun i => (c.after i).next.1 := by
  induction n generalizing c with
  | zero => rfl
  | succ n ih =>
    rw [readings, ih, List.range_succ_eq_map, List.map_cons, List.map_map]
    simp only [after_next, Function.comp_def]
    rfl

/-- However many readings there have been, they have passed a beginning of what is left. -/
theorem exists_passes_after (c : Cursor) (n : Nat) : ∃ taken, c.Passes taken (c.after n) := by
  induction n with
  | zero => exact ⟨[], .refl c⟩
  | succ n ih =>
    obtain ⟨taken, hpasses⟩ := ih
    obtain ⟨taken', hnext, -⟩ := exists_passes_next (c.after n)
    exact ⟨_, hpasses.trans hnext⟩

/-- Behind a settled reading all readings are the same. -/
theorem next_after_of_isSettled {c : Cursor} {n m : Nat} (h : IsSettled (c.after n).next.1)
    (hle : n ≤ m) : (c.after m).next = (c.after n).next := by
  induction m, hle using Nat.le_induction with
  | base => rfl
  | succ m _ ih =>
    have hsettled : IsSettled (c.after m).next.1 := ih ▸ h
    rw [after, next_of_isSettled hsettled, ih]

/-- If none of some readings is settled, each of them has taken a byte. -/
theorem le_offset_after {c : Cursor} {n : Nat} (h : ∀ i < n, ¬IsSettled (c.after i).next.1) :
    c.offset + n ≤ (c.after n).offset := by
  induction n with
  | zero => exact Nat.le_refl _
  | succ n ih =>
    have hbefore := ih fun i hi => h i (Nat.lt_succ_of_lt hi)
    obtain ⟨taken, hpasses, hmoves⟩ := exists_passes_next (c.after n)
    have : (c.after n).offset < (c.after (n + 1)).offset :=
      hpasses.offset_lt (hmoves (h n (Nat.lt_succ_self n)))
    omega

/-- **Bound**: one reading more than there are bytes is settled, if no reading was before. -/
theorem exists_isSettled (c : Cursor) :
    ∃ n ≤ byteLength c.rest, IsSettled (c.after n).next.1 := by
  by_contra hnone
  push Not at hnone
  have hle := le_offset_after (n := byteLength c.rest) fun i hi => hnone i (Nat.le_of_lt hi)
  -- then all bytes are taken, so the next reading is at the end of the text
  obtain ⟨taken, hpasses⟩ := c.exists_passes_after (byteLength c.rest)
  have hlength : byteLength c.rest =
      byteLength taken + byteLength (c.after (byteLength c.rest)).rest := by
    rw [← Text.byteLength_append, ← hpasses.rest]
  have hoffset := hpasses.offset
  have hend : (c.after (byteLength c.rest)).rest = [] := by
    by_contra hne
    have := byteLength_pos hne
    omega
  refine hnone _ (Nat.le_refl _) ?_
  have hread : (c.after (byteLength c.rest)).next.1 = .ok none := by
    rw [next, skipTrivia, hend]
    rfl
  rw [hread]
  exact .endOfText

/-- **Progress**: however many tokens of a text are asked for, errors or not, the place stays on
    characters of the text and never goes back; it goes on with every token, and with every error
    but those for which what is wrong stays.  Behind the end of the text and behind such an error
    every answer is the same; so from the answer behind as many as the text has bytes, all are. -/
theorem readings_progress (text : String) :
    let start : Cursor := ⟨0, text.toList⟩
    (∀ n, readings n start = (List.range n).map fun i => (start.after i).next.1) ∧
    (∀ n, IsBoundary text.toList (start.after n).offset ∧
      (start.after n).offset ≤ byteLength text.toList ∧
      (start.after n).offset ≤ (start.after (n + 1)).offset) ∧
    (∀ n, ¬IsSettled (start.after n).next.1 →
      (start.after n).offset < (start.after (n + 1)).offset) ∧
    (∀ n m, IsSettled (start.after n).next.1 → n ≤ m →
      (start.after m).next.1 = (start.after n).next.1) ∧
    ∀ n, byteLength text.toList ≤ n →
      (start.after n).next.1 = (start.after (byteLength text.toList)).next.1 := by
  intro start
  refine ⟨fun n => readings_eq_map n start, fun n => ?_, fun n hn => ?_, fun n m hn hm => ?_,
    fun n hn => ?_⟩
  · -- what has been passed is the text up to the place, so the place is between characters
    obtain ⟨taken, hpasses⟩ := start.exists_passes_after n
    obtain ⟨taken', hnext, -⟩ := (start.after n).exists_passes_next
    have hoffset : (start.after n).offset = byteLength taken := by
      rw [hpasses.offset, Nat.zero_add]
    have htext : text.toList = taken ++ (start.after n).rest := hpasses.rest
    refine ⟨⟨taken, _, htext, hoffset.symm⟩, ?_, hnext.offset_le⟩
    rw [hoffset, htext, Text.byteLength_append]
    exact Nat.le_add_right ..
  · obtain ⟨taken, hnext, hmoves⟩ := (start.after n).exists_passes_next
    exact hnext.offset_lt (hmoves hn)
  · rw [next_after_of_isSettled hn hm]
  · -- both answers come behind the one that is settled
    obtain ⟨i, hi, hsettled⟩ := start.exists_isSettled
    rw [next_after_of_isSettled hsettled (Nat.le_trans hi hn), next_after_of_isSettled hsettled hi]

end

open scoped Program in
/-- Behind the mark of a string that is not closed its inside is read, as far as it can be. -/
example : readings 5 ⟨0, "'a é".toList⟩ =
    [.error ⟨.unterminatedString, ⟨0, 5⟩⟩, .ok (some ⟨.name "a", ⟨1, 2⟩⟩),
      .error ⟨.unexpectedCharacter 'é', ⟨3, 5⟩⟩, .error ⟨.unexpectedCharacter 'é', ⟨3, 5⟩⟩,
      .error ⟨.unexpectedCharacter 'é', ⟨3, 5⟩⟩] := by
  decide +kernel

end Cursor

end TypeExpr
