import TypeExpr.Proofs.Rules
import TypeExpr.Proofs.Words

/-!
# Lower case and capitals

Putting a name in lower case twice is putting it in lower case once (`lower_lower`): what the case
table maps something to, it does not map any further.  And a kind of resource that can be written as
a reference is read back from it: its capitalised form is a plain reference
(`isPlain_capitalize`), and in lower case that is the kind again (`lower_capitalize`).

The first of these is about all of Unicode, and the table is too long to try out its characters one
by one.  But it is made of rows, and that the images of one row miss another is seen from the ends
of both; so it is enough to compare the rows with each other (`clear_lowerRows`), which is
computed.  Two characters are not left to the table: the dotted capital I, and the capital sigma,
whose lower case depends on where it stands.

The second one is about ASCII, since nothing else may stand in a reference.  With it the title of a
name, which is how texts and failures show the name, is the name again in lower case
(`TypeName.lower_title`).

The rows that are compared are those of the table itself.  A row that is added to it, or changed, is
compared with the others when the library is built, and nothing else has to be done for it.
-/

namespace TypeExpr.Text

/-! ## The table maps nothing twice

The table of lower case maps no code point to one that it maps again.  Each row is a range with a
distance, so for two rows this is a matter of their ends, and for all of them it is evaluated once.
-/

/-- A row that maps none of the code points from `first` to `last`; if `even`, of these only every
    other one counts, beginning with the first. -/
def CaseRow.misses (first last : Nat) (even : Bool) (s : CaseRow) : Bool :=
  Nat.blt 0 s.first && (Nat.blt last s.first || Nat.blt s.last first ||
    (even && s.step == 2 && (first + s.first) % 2 == 1))

/-- None of the rows maps anything that `r` maps something to. -/
def CaseRow.clear (rows : List CaseRow) (r : CaseRow) : Bool :=
  0 ≤ r.first + r.shift && rows.all (CaseRow.misses (r.first + r.shift).toNat
    (r.last + r.shift).toNat (r.first == r.last || r.step % 2 == 0))

/-- If a row is clear of some rows, none of these covers what it maps anything to. -/
theorem CaseRow.not_covers_of_clear {rows : List CaseRow} {r s : CaseRow} {n : Nat}
    (h : r.clear rows = true) (hs : s ∈ rows) (hn : r.covers n = true) :
    s.covers (n + r.shift).toNat = false ∧ s.covers 0 = false := by
  rw [clear, Bool.and_eq_true, List.all_eq_true] at h
  obtain ⟨hr, h⟩ := h
  have h := h s hs
  simp only [misses, covers, Bool.or_eq_true, Bool.and_eq_true, decide_eq_true_eq, beq_iff_eq,
    Nat.blt_eq] at h hn hr
  obtain ⟨hpos, h⟩ := h
  obtain ⟨⟨hfirst, hlast⟩, hstep⟩ := hn
  constructor
  · rw [Bool.eq_false_iff]
    intro hcovers
    simp only [covers, Bool.and_eq_true, decide_eq_true_eq, beq_iff_eq] at hcovers
    obtain ⟨⟨hfirst', hlast'⟩, hstep'⟩ := hcovers
    rcases h with (h | h) | ⟨⟨heven, htwo⟩, hodd⟩
    · omega
    · omega
    · -- both rows go in steps of two, and an odd way lies between them
      rw [htwo] at hstep'
      have hn : (n - r.first) % 2 = 0 := by
        rcases heven with heven | heven
        · omega
        · rw [← Nat.mod_mod_of_dvd _ (Nat.dvd_of_mod_eq_zero heven), hstep, Nat.zero_mod]
      omega
  · have : ¬ s.first ≤ 0 := by omega
    simp [covers, this]

/-- The dotted capital I, which has a lower-case form of its own. -/
def dottedRow : CaseRow := ⟨0x130, 0x130, 1, 0⟩

/-- No row of the table maps what some row maps something to. -/
theorem clear_lowerRows : lowerRows.all (CaseRow.clear (dottedRow :: lowerRows)) = true := by
  decide +kernel

/-- The character is in lower case, as far as it has one. -/
def IsLowered (c : Char) : Prop := ∀ s ∈ dottedRow :: lowerRows, s.covers c.toNat = false

instance (c : Char) : Decidable (IsLowered c) :=
  decidable_of_iff ((dottedRow :: lowerRows).all (fun s => !s.covers c.toNat) = true)
    (by simp [IsLowered])

/-- Characters that the table has no row for, and one that it has a row for. -/
theorem isLowered_marks : IsLowered 'i' ∧ IsLowered '\u0307' ∧ IsLowered 'ς' ∧ IsLowered 'σ' ∧
    IsLowered ':' ∧ ¬IsLowered 'Σ' := by
  decide

/-- What is in lower case is not the dotted capital I. -/
theorem IsLowered.ne_dotted {c : Char} (h : IsLowered c) : c ≠ 'İ' := by
  rintro rfl
  have := h dottedRow (by simp)
  revert this
  decide

/-- The table keeps what is in lower case. -/
theorem IsLowered.apply_lowerRows {c : Char} (h : IsLowered c) :
    CaseRow.apply lowerRows c = c := by
  have : lowerRows.find? (·.covers c.toNat) = none := by
    rw [List.find?_eq_none]
    intro s hs
    simp [h s (List.mem_cons_of_mem _ hs)]
  simp [CaseRow.apply, this]

theorem IsLowered.ne_sigma {c : Char} (h : IsLowered c) : c ≠ 'Σ' := by
  rintro rfl
  obtain ⟨-, -, -, -, -, hsigma⟩ := isLowered_marks
  exact hsigma h

/-- What is in lower case is its own lower case. -/
theorem IsLowered.lowerChar_eq {c : Char} (h : IsLowered c) : lowerChar c = [c] := by
  rw [lowerChar, if_neg h.ne_dotted, h.apply_lowerRows]

/-- A number is the code point of the character made of it, unless there is none; then the character
    is the first one. -/
theorem toNat_ofNat (n : Nat) : (Char.ofNat n).toNat = n ∨ (Char.ofNat n).toNat = 0 := by
  by_cases h : n.isValidChar
  · rw [Char.ofNat, dif_pos h]
    exact Or.inl rfl
  · rw [Char.ofNat, dif_neg h]
    exact Or.inr rfl

/-- The image of a character under the table is in lower case. -/
theorem isLowered_apply_lowerRows {c : Char} (hc : c ≠ 'İ') :
    IsLowered (CaseRow.apply lowerRows c) := by
  unfold CaseRow.apply
  split
  · rename_i r hr
    have hcovers := List.find?_some hr
    have hclear := List.all_eq_true.1 clear_lowerRows r (List.mem_of_find?_eq_some hr)
    intro s hs
    have := CaseRow.not_covers_of_clear hclear hs hcovers
    -- a code point that is no character becomes 0, which is not mapped either
    rcases toNat_ofNat (c.toNat + r.shift).toNat with h | h <;> rw [h]
    · exact this.1
    · exact this.2
  · rename_i hnone
    intro s hs
    rcases List.mem_cons.1 hs with rfl | hs
    · rw [Bool.eq_false_iff]
      intro hcovers
      rw [CaseRow.covers, Bool.and_eq_true, Bool.and_eq_true, decide_eq_true_eq,
        decide_eq_true_eq] at hcovers
      have h : c.toNat = 0x130 := Nat.le_antisymm hcovers.1.2 hcovers.1.1
      refine hc ?_
      rw [← Char.ofNat_toNat c, h]
    · have := List.find?_eq_none.1 hnone s hs
      simpa using this

/-- All that a character becomes in lower case is in lower case. -/
theorem isLowered_of_mem_lowerChar {c d : Char} (h : d ∈ lowerChar c) : IsLowered d := by
  unfold lowerChar at h
  split at h
  · obtain ⟨hletter, hdot, -⟩ := isLowered_marks
    rcases List.mem_cons.1 h with rfl | h
    · exact hletter
    · rwa [List.mem_singleton.1 h]
  · rename_i hc
    rw [List.mem_singleton.1 h]
    exact isLowered_apply_lowerRows hc

/-! ## A text in lower case

The one character whose lower case depends on what stands around it is the capital sigma; it is not
in lower case, so a text in lower case is safe from it.
-/

/-- All that a text becomes in lower case is in lower case. -/
theorem isLowered_of_mem_lowerAfter {before cs : List Char} {d : Char}
    (h : d ∈ lowerAfter before cs) : IsLowered d := by
  induction cs generalizing before with
  | nil => cases h
  | cons c cs ih =>
    rw [lowerAfter, List.mem_append] at h
    rcases h with h | h
    · split at h
      · -- the sigma at the end of a word and the one inside
        obtain ⟨-, -, hfinal, hinner, -⟩ := isLowered_marks
        split at h
        · rwa [List.mem_singleton.1 h]
        · rwa [List.mem_singleton.1 h]
      · exact isLowered_of_mem_lowerChar h
    · exact ih h

/-- A text in lower case is kept, whatever comes before it. -/
theorem lowerAfter_of_isLowered {before cs : List Char} (h : ∀ c ∈ cs, IsLowered c) :
    lowerAfter before cs = cs := by
  induction cs generalizing before with
  | nil => rfl
  | cons c cs ih =>
    have hc := h c List.mem_cons_self
    rw [lowerAfter, if_neg hc.ne_sigma, hc.lowerChar_eq,
      ih fun d hd => h d (List.mem_cons_of_mem c hd)]
    rfl

/-- **Lower case** is reached in one step. -/
theorem lower_lower (cs : List Char) : lower (lower cs) = lower cs :=
  lowerAfter_of_isLowered fun _ => isLowered_of_mem_lowerAfter

/-! ## Capitals

Putting a name in capitals changes the first letter of each segment and nothing else, and lower case
takes these changes back.
-/

/-- A letter has a capital, which has the letter in lower case. -/
theorem upperChar_of_isLowerLetter {c : Char} (h : isLowerLetter c = true) :
    ∃ u, upperChar c = [u] ∧ isCapital u = true ∧ u ≠ 'Σ' ∧ lowerChar u = [c] := by
  have hc : c.toNat < 128 := ascii_of_inside (by simp [WordKind.reference, h])
  have hall := forall_ascii (P := fun c => isLowerLetter c = true →
    let u := (upperChar c).headD c
    upperChar c = [u] ∧ isCapital u = true ∧ u ≠ 'Σ' ∧ lowerChar u = [c])
    (by decide) hc h
  exact ⟨_, hall⟩

/-- What may stand in a reference in lower case is in lower case, and is no colon. -/
theorem isLowered_of_inside {c : Char} (h : WordKind.lowerReference.inside c = true) :
    IsLowered c ∧ c ≠ ':' :=
  forall_ascii (P := fun c => WordKind.lowerReference.inside c = true → IsLowered c ∧ c ≠ ':')
    (by decide +kernel) (ascii_of_inside (inside_of_lowerReference h)) h

/-- A character is put in upper case at the start of a segment and kept elsewhere. -/
theorem capitalizeFrom_cons {c : Char} (h : c ≠ ':') (atStart : Bool) (cs : List Char) :
    capitalizeFrom atStart (c :: cs) =
      (if atStart then upperChar c else [c]) ++ capitalizeFrom false cs := by
  cases cs with
  | nil => simp [capitalizeFrom]
  | cons d cs => simp [capitalizeFrom, h]

/-- Behind two colons a segment starts. -/
theorem capitalizeFrom_colons (atStart : Bool) (cs : List Char) :
    capitalizeFrom atStart (':' :: ':' :: cs) = ':' :: ':' :: capitalizeFrom true cs := by
  simp [capitalizeFrom]

/-- What goes on a kind of resource goes on a reference, with capitals where segments start. -/
theorem goesOn_capitalizeFrom {w : List Char} (h : WordKind.lowerReference.GoesOn w)
    (atStart : Bool) (hstart : atStart = true → ∀ c ∈ w.head?, isLowerLetter c = true) :
    WordKind.reference.GoesOn (capitalizeFrom atStart w) := by
  induction h generalizing atStart with
  | nil => exact .nil
  | @inside c cs hc _ ih =>
    rw [capitalizeFrom_cons (isLowered_of_inside hc).2]
    have hrest := ih false (by simp)
    cases atStart with
    | false => exact .inside (inside_of_lowerReference hc) hrest
    | true =>
      obtain ⟨u, hu, hcapital, -⟩ := upperChar_of_isLowerLetter (hstart rfl c rfl)
      rw [if_pos rfl, hu]
      exact .inside (by simp [WordKind.reference, hcapital]) hrest
  | @segment c cs hc hcs ih =>
    -- behind the two colons a capital comes again
    have hrest := ih true (by simpa [WordKind.lowerReference] using hc)
    obtain ⟨u, hu, hcapital, -⟩ := upperChar_of_isLowerLetter hc
    have hne : c ≠ ':' := by
      rintro rfl
      exact absurd hc (by decide)
    rw [capitalizeFrom_colons]
    rw [capitalizeFrom_cons hne, if_pos rfl, hu] at hrest ⊢
    exact .segment hcapital hrest

/-- In lower case the capitals are gone again. -/
theorem lowerAfter_capitalizeFrom {w : List Char} (h : WordKind.lowerReference.GoesOn w)
    (atStart : Bool) (hstart : atStart = true → ∀ c ∈ w.head?, isLowerLetter c = true)
    (before : List Char) : lowerAfter before (capitalizeFrom atStart w) = w := by
  induction h generalizing atStart before with
  | nil => rfl
  | @inside c cs hc _ ih =>
    obtain ⟨hlowered, hne⟩ := isLowered_of_inside hc
    rw [capitalizeFrom_cons hne]
    -- no sigma among the letters, so what stands before them does not matter
    cases atStart with
    | false =>
      rw [if_neg (by decide), List.singleton_append, lowerAfter, if_neg hlowered.ne_sigma,
        hlowered.lowerChar_eq, ih false (by simp)]
      rfl
    | true =>
      obtain ⟨u, hu, -, hsigma, hlower⟩ := upperChar_of_isLowerLetter (hstart rfl c rfl)
      rw [if_pos rfl, hu, List.singleton_append, lowerAfter, if_neg hsigma, hlower,
        ih false (by simp)]
      rfl
  | @segment c cs hc _ ih =>
    obtain ⟨-, -, -, -, hcolon, -⟩ := isLowered_marks
    rw [capitalizeFrom_colons, lowerAfter, lowerAfter, if_neg hcolon.ne_sigma, hcolon.lowerChar_eq,
      ih true (by simpa [WordKind.lowerReference] using hc)]
    rfl

/-! ## References in lower case

Only letters of ASCII stand in references, where lower case is what one expects of it.
-/

/-- A capital has one letter for its lower-case form. -/
theorem lowerChar_of_isCapital {c : Char} (h : isCapital c = true) :
    ∃ d, lowerChar c = [d] ∧ isLowerLetter d = true ∧ c ≠ 'Σ' := by
  have hc : c.toNat < 128 := ascii_of_inside (by simp [WordKind.reference, h])
  have hall := forall_ascii (P := fun c => isCapital c = true →
    let d := (lowerChar c).headD c
    lowerChar c = [d] ∧ isLowerLetter d = true ∧ c ≠ 'Σ') (by decide) hc h
  exact ⟨_, hall⟩

/-- What stands in a reference stands in one in lower case. -/
theorem lowerChar_of_inside {c : Char} (h : WordKind.reference.inside c = true) :
    ∃ d, lowerChar c = [d] ∧ WordKind.lowerReference.inside d = true ∧ c ≠ 'Σ' := by
  by_cases hcapital : isCapital c = true
  · obtain ⟨d, hd, hletter, hsigma⟩ := lowerChar_of_isCapital hcapital
    exact ⟨d, hd, by simp [WordKind.lowerReference, hletter], hsigma⟩
  · have hinside : WordKind.lowerReference.inside c = true := by
      simpa [WordKind.reference, WordKind.lowerReference, hcapital] using h
    have hlowered := (isLowered_of_inside hinside).1
    exact ⟨c, hlowered.lowerChar_eq, hinside, hlowered.ne_sigma⟩

/-- What goes on a reference goes on a kind of resource, in lower case. -/
theorem goesOn_lowerAfter {w : List Char} (h : WordKind.reference.GoesOn w) (before : List Char) :
    WordKind.lowerReference.GoesOn (lowerAfter before w) := by
  induction h generalizing before with
  | nil => exact .nil
  | inside hc _ ih =>
    obtain ⟨d, hd, hinside, hsigma⟩ := lowerChar_of_inside hc
    rw [lowerAfter, if_neg hsigma, hd]
    exact .inside hinside (ih _)
  -- two colons stay as they are, and behind them a capital becomes a letter that a segment may
  -- begin with
  | @segment c cs hc _ ih =>
    obtain ⟨-, -, -, -, hcolon, -⟩ := isLowered_marks
    obtain ⟨d, hd, hletter, hsigma⟩ := lowerChar_of_isCapital hc
    have hrest := ih (':' :: ':' :: before)
    rw [lowerAfter, lowerAfter, if_neg hcolon.ne_sigma, hcolon.lowerChar_eq]
    rw [lowerAfter, if_neg hsigma, hd] at hrest ⊢
    exact .segment hletter hrest

/-- What begins with no colon keeps its beginning. -/
theorem dropRoot_cons {c : Char} (h : c ≠ ':') (cs : List Char) : dropRoot (c :: cs) = c :: cs := by
  unfold dropRoot
  split
  · rename_i heq
    rw [List.cons.injEq] at heq
    exact absurd heq.1 h
  · rfl

/-- In lower case and without its root, a reference is a plain word. -/
theorem isPlain_lower {w : List Char} (h : WordKind.reference.IsWord w) :
    WordKind.lowerReference.isPlain (lower (dropRoot w)) = true := by
  obtain ⟨c, cs, hdrop, hc, hcs⟩ :
      ∃ c cs, dropRoot w = c :: cs ∧ isCapital c = true ∧ WordKind.reference.GoesOn cs := by
    cases h with
    | @plain c cs hc hcs =>
      exact ⟨c, cs, dropRoot_cons (WordKind.lawful_reference.ne_colon hc) cs, hc, hcs⟩
    | @rooted c cs hc hcs => exact ⟨c, cs, rfl, hc, hcs⟩
  obtain ⟨d, hd, hletter, hsigma⟩ := lowerChar_of_isCapital hc
  rw [hdrop, lower, lowerAfter, if_neg hsigma, hd]
  exact WordKind.isPlain_of_goesOn WordKind.lawful_lowerReference hletter (goesOn_lowerAfter hcs _)

section Plain

variable {w : List Char} (h : WordKind.lowerReference.isPlain w = true)

include h

/-- A kind of resource that is a plain word is a plain reference when it is capitalised. -/
theorem isPlain_capitalize : WordKind.reference.isPlain (capitalize w) = true := by
  obtain ⟨c, cs, rfl, hne, hc, hcs⟩ := WordKind.exists_of_isPlain WordKind.lawful_lowerReference h
  obtain ⟨u, hu, hcapital, -⟩ := upperChar_of_isLowerLetter hc
  rw [capitalize, capitalizeFrom_cons hne, if_pos rfl, hu]
  exact WordKind.isPlain_of_goesOn WordKind.lawful_reference hcapital
    (goesOn_capitalizeFrom hcs false (by simp))

/-- **Capitals** are undone by putting the reference in lower case. -/
theorem lower_capitalize : lower (capitalize w) = w := by
  obtain ⟨c, cs, rfl, -, hc, hcs⟩ := WordKind.exists_of_isPlain WordKind.lawful_lowerReference h
  have hinside : WordKind.lowerReference.inside c = true := by
    simp only [WordKind.lowerReference, Bool.or_eq_true]
    exact Or.inl hc
  refine lowerAfter_capitalizeFrom (.inside hinside hcs) true ?_ []
  rintro - d ⟨⟩
  exact hc

end Plain

/-- Outside of ASCII the capital of a letter need not be a letter that has it in lower case. -/
example : lower (capitalize "ßa".toList) = "ssa".toList := by decide +kernel

end TypeExpr.Text

/-! ## Titles

The titles of the names that are known to the rules are listed one by one; any other name has its
own letters for a title, in capitals.
-/

namespace TypeExpr.TypeName

open Text (lower)

/-- In lower case the title of a plain type is its name. -/
theorem lower_plain_title (p : Plain) :
    String.ofList (lower p.title.toList) = (plain p).word := by
  cases p <;> decide +kernel

/-- In lower case the title of a name that forms types is its name. -/
theorem lower_former_title (f : Former) :
    String.ofList (lower f.title.toList) = (former f).word := by
  cases f <;> decide +kernel

/-- **Titles**: in lower case, the title of a name is the name again. -/
theorem lower_title {name : String}
    (h : WordKind.lowerReference.isPlain name.toList = true) :
    String.ofList (lower (ofLower name).title.toList) = name := by
  have hword := word_ofLower name
  cases hk : ofLower name with
  | plain p => rw [hk] at hword; exact (lower_plain_title p).trans hword
  | former f => rw [hk] at hword; exact (lower_former_title f).trans hword
  | ruby => rw [hk] at hword; rw [← hword]; decide
  | type => rw [hk] at hword; rw [← hword]; decide
  | other kind =>
    rw [hk] at hword
    obtain rfl : kind = name := hword
    rw [title, String.toList_ofList, Text.lower_capitalize h, String.ofList_toList]

end TypeExpr.TypeName
