import Mathlib.Tactic.ByContra
import Mathlib.Tactic.Tauto
import TypeExpr.DataType.Render
import TypeExpr.Proofs.Reading

/-!
# Names, references and strings as words

A word is read as itself in front of whatever delimits it (`spells_name`, `spells_reference`), and
what is taken off a text as a word is one (`isWord_of_split?`).  A quoted text is read as the text,
whatever is in it (`reads_quote`).  So the two ways to write the name of a class are both read as
the name, and none of the texts that are written in apostrophes can get out of them.

The kinds of words differ in the characters that may begin a segment and in those that may stand in
one.  Of both nothing is used but the three laws of `WordKind.Lawful`, so that what is said of
splitting is said of all kinds at once.  A colon is the difficult character: one colon ends a word,
and two of them go on it, but only if a segment begins behind them.  `GoesOn` follows the data, not
the recursion of the splitter, which looks at one character at a time.

Strings are in this module because they are what a name is written as when it is no word. Their
escapes are undone one after the other, and the closing mark is the first apostrophe that no
backslash takes along; so reading stops where writing has put the end.
-/

namespace TypeExpr

open Text (isBlank quoteChars escapeQuoted)

/-! ## Taking a word off a text

The kinds of words have three laws in common (`Lawful`), and everything here follows from these.
-/

/-- What may stand in a name may stand in a reference. -/
theorem inside_of_name_inside {c : Char} (h : WordKind.name.inside c = true) :
    WordKind.reference.inside c = true := by
  simp only [WordKind.name, Bool.or_eq_true] at h
  simp only [WordKind.reference, Bool.or_eq_true]
  tauto

/-- What may stand in a reference in lower case may stand in any reference. -/
theorem inside_of_lowerReference {c : Char} (h : WordKind.lowerReference.inside c = true) :
    WordKind.reference.inside c = true := by
  simp only [WordKind.lowerReference, WordKind.reference, Bool.or_eq_true] at h ⊢
  tauto

namespace WordKind

/-- What the kinds of words have in common: what may begin a segment may stand in one, and what may
    stand in one runs into a word before it and is no colon. -/
structure Lawful (k : WordKind) : Prop where
  inside_of_starts : ∀ {c}, k.starts c = true → k.inside c = true
  runsOn_of_inside : ∀ {c}, k.inside c = true → runsOn c = true
  colon : k.inside ':' = false

/-- References are a kind of words. -/
theorem lawful_reference : reference.Lawful where
  inside_of_starts h := by
    simp only [reference, Bool.or_eq_true] at h ⊢
    tauto
  runsOn_of_inside := TypeExpr.runsOn_of_inside
  colon := rfl

/-- Names are a kind of words. -/
theorem lawful_name : name.Lawful where
  inside_of_starts h := by
    simp only [name, isDigitOrLine, Bool.or_eq_true] at h ⊢
    tauto
  runsOn_of_inside h := TypeExpr.runsOn_of_inside (inside_of_name_inside h)
  colon := rfl

/-- References in lower case are a kind of words. -/
theorem lawful_lowerReference : lowerReference.Lawful where
  inside_of_starts h := by
    simp only [lowerReference, Bool.or_eq_true] at h ⊢
    tauto
  runsOn_of_inside h := TypeExpr.runsOn_of_inside (inside_of_lowerReference h)
  colon := rfl

variable {k : WordKind}

theorem Lawful.ne_colon (hk : k.Lawful) {c : Char} (h : k.starts c = true) : c ≠ ':' := by
  rintro rfl
  have := hk.inside_of_starts h
  simp [hk.colon] at this

/-- A character that may stand in a segment is taken along. -/
theorem splitRest_cons_of_inside {c : Char} (h : k.inside c = true) (cs : List Char) :
    k.splitRest (c :: cs) = (c :: (k.splitRest cs).1, (k.splitRest cs).2) := by
  cases cs with
  | nil => simp [splitRest, h]
  | cons d cs => simp [splitRest, h, Prod.map]

/-- Two colons are taken along if a segment begins behind them. -/
theorem splitRest_colons (hk : k.Lawful) {cs : List Char} (h : cs.head?.any k.starts = true) :
    k.splitRest (':' :: ':' :: cs) = (':' :: ':' :: (k.splitRest cs).1, (k.splitRest cs).2) := by
  simp [splitRest, hk.colon, h, Prod.map]

/-- Characters of words run into a word before them, and a colon does. -/
theorem splitRest_of_delimits (hk : k.Lawful) {rest : List Char} (hrest : Delimits rest) :
    k.splitRest rest = ([], rest) := by
  have hinside {c : Char} {cs : List Char} (h : Delimits (c :: cs)) : k.inside c = false := by
    by_contra hc
    rw [Bool.not_eq_false] at hc
    have := hk.runsOn_of_inside hc
    simp [h.of_cons] at this
  have hcolon {c : Char} {cs : List Char} (h : Delimits (c :: cs)) : c ≠ ':' := by
    rintro rfl
    exact absurd h.of_cons (by simp [runsOn_of_mark])
  unfold splitRest
  split
  · rfl
  · rw [if_neg (by simp [hinside hrest])]
  · rw [if_neg (by simp [hinside hrest]), if_neg fun h => hcolon hrest h.1]

/-- What can stand behind the first character of a word: characters that may stand in a segment, and
    two colons before one that may begin a segment. -/
inductive GoesOn (k : WordKind) : List Char → Prop where
  | nil : GoesOn k []
  | inside {c cs} : k.inside c = true → GoesOn k cs → GoesOn k (c :: cs)
  | segment {c cs} : k.starts c = true → GoesOn k (c :: cs) → GoesOn k (':' :: ':' :: c :: cs)

/-- What is taken off a text behind the first character of a word, goes on the word. -/
theorem goesOn_of_splitRest (hk : k.Lawful) {cs w rest : List Char}
    (h : k.splitRest cs = (w, rest)) : k.GoesOn w := by
  fun_induction splitRest k cs generalizing w rest with
  | case1 => cases h; exact .nil
  | case2 c hc => cases h; exact .inside hc .nil
  | case3 => cases h; exact .nil
  | case4 c d cs hc ih =>
    simp only [Prod.map, Prod.mk.injEq] at h
    rw [← h.1]
    exact .inside hc (ih rfl)
  | case5 c d cs hc hcolons ih =>
    obtain ⟨rfl, rfl, hstart⟩ := hcolons
    simp only [Prod.map, Prod.mk.injEq] at h
    cases cs with
    | nil => cases hstart
    | cons e es =>
      -- what begins the next segment may stand in it, so it is taken along
      have he : k.starts e = true := by simpa using hstart
      have hs := splitRest_cons_of_inside (hk.inside_of_starts he) es
      rw [← h.1, hs]
      exact .segment he (ih hs)
  | case6 => cases h; exact .nil

/-- A word goes on with characters of segments and colons only. -/
theorem GoesOn.inside_or_colon {cs : List Char} (h : k.GoesOn cs) :
    ∀ c ∈ cs, k.inside c = true ∨ c = ':' := by
  induction h with
  | nil => simp
  | inside hc _ ih => exact List.forall_mem_cons.2 ⟨.inl hc, ih⟩
  | segment _ _ ih => exact List.forall_mem_cons.2 ⟨.inr rfl, List.forall_mem_cons.2 ⟨.inr rfl, ih⟩⟩

/-- What can go on a word, goes on it in front of all that delimits it. -/
theorem GoesOn.splitRest_append_of_delimits (hk : k.Lawful) {w rest : List Char}
    (h : k.GoesOn w) (hrest : Delimits rest) : k.splitRest (w ++ rest) = (w, rest) := by
  induction h with
  | nil => exact splitRest_of_delimits hk hrest
  | inside hc _ ih => rw [List.cons_append, splitRest_cons_of_inside hc, ih]
  | @segment c cs hc _ ih =>
    rw [List.cons_append, List.cons_append, splitRest_colons hk (by simpa using hc), ih]

/-- A word that begins with no colon begins with what may begin a segment. -/
theorem split?_cons {c : Char} (hcolon : c ≠ ':') (cs : List Char) :
    k.split? (c :: cs) =
      if k.starts c then some (c :: (k.splitRest cs).1, (k.splitRest cs).2) else none := by
  unfold split?
  split
  · rename_i heq
    rw [List.cons.injEq] at heq
    exact absurd heq.1 hcolon
  · rename_i heq
    rw [List.cons.injEq] at heq
    obtain ⟨rfl, rfl⟩ := heq
    rfl
  · rename_i heq
    cases heq

/-- A word of a kind: perhaps two colons, a character that may begin a segment, and what can go on a
    word. -/
inductive IsWord (k : WordKind) : List Char → Prop where
  | plain {c cs} : k.starts c = true → k.GoesOn cs → IsWord k (c :: cs)
  | rooted {c cs} : k.starts c = true → k.GoesOn cs → IsWord k (':' :: ':' :: c :: cs)

/-- What is taken off a text as a word is one. -/
theorem isWord_of_split? (hk : k.Lawful) {cs w rest : List Char}
    (h : k.split? cs = some (w, rest)) : k.IsWord w := by
  unfold split? at h
  split at h
  · rw [Option.ite_none_right_eq_some] at h
    obtain ⟨hc, h⟩ := h
    cases h
    exact .rooted hc (goesOn_of_splitRest hk rfl)
  · rw [Option.ite_none_right_eq_some] at h
    obtain ⟨hc, h⟩ := h
    cases h
    exact .plain hc (goesOn_of_splitRest hk rfl)
  · cases h

/-- A word has no characters but those of segments and colons. -/
theorem IsWord.inside_or_colon (hk : k.Lawful) {w : List Char} (h : k.IsWord w) :
    ∀ c ∈ w, k.inside c = true ∨ c = ':' := by
  cases h with
  | plain hc hcs => exact (GoesOn.inside (hk.inside_of_starts hc) hcs).inside_or_colon
  | rooted hc hcs =>
    exact (GoesOn.segment hc (.inside (hk.inside_of_starts hc) hcs)).inside_or_colon

/-- **Longest match**: a word is taken whole off the text that it begins. -/
theorem IsWord.split?_append (hk : k.Lawful) {w rest : List Char} (h : k.IsWord w)
    (hrest : Delimits rest) : k.split? (w ++ rest) = some (w, rest) := by
  cases h with
  | plain hc hcs =>
    rw [List.cons_append, split?_cons (hk.ne_colon hc), if_pos hc,
      hcs.splitRest_append_of_delimits hk hrest]
  | rooted hc hcs =>
    have := hcs.splitRest_append_of_delimits hk hrest
    simp [split?, hc, this]

theorem isWord_of_isPlain (hk : k.Lawful) {w : List Char} (h : k.isPlain w = true) :
    k.IsWord w := by
  simp only [isPlain, Bool.and_eq_true, beq_iff_eq] at h
  exact isWord_of_split? hk h.2

/-- A plain word: what it begins with may begin a segment, and the rest can go on it. -/
theorem exists_of_isPlain (hk : k.Lawful) {w : List Char} (h : k.isPlain w = true) :
    ∃ c cs, w = c :: cs ∧ c ≠ ':' ∧ k.starts c = true ∧ k.GoesOn cs := by
  cases isWord_of_isPlain hk h with
  | @plain c cs hc hcs => exact ⟨c, cs, rfl, hk.ne_colon hc, hc, hcs⟩
  | rooted => simp [isPlain] at h

/-- What begins a segment and goes on it is a plain word. -/
theorem isPlain_of_goesOn (hk : k.Lawful) {c : Char} {cs : List Char} (hc : k.starts c = true)
    (hcs : k.GoesOn cs) : k.isPlain (c :: cs) = true := by
  have := (IsWord.plain hc hcs).split?_append hk delimits_nil
  rw [List.append_nil] at this
  simp [isPlain, this, hk.ne_colon hc]

end WordKind

/-! ## Names and references

The reader tries a reference first.  A name begins with a small letter or an underscore, so no name
is taken for a reference.
-/

/-- What begins with a letter or an underscore is read as a word. -/
theorem readToken_of_letter [PatternLanguage] {c : Char}
    (h : (WordKind.name.starts c || WordKind.reference.starts c) = true) :
    isBlank c = false ∧ c ≠ '#' ∧ ∀ cs, readToken c cs = (readWord c cs).closed := by
  have hc : c.toNat < 128 := by
    refine ascii_of_inside ?_
    simp only [WordKind.name, WordKind.reference, isDigitOrLine, Bool.or_eq_true] at h ⊢
    tauto
  -- none of the marks, quotes, digits and blanks is a letter or an underscore
  have hall := forall_ascii (P := fun c =>
    (WordKind.name.starts c || WordKind.reference.starts c) = true → c ≠ '[' ∧ c ≠ ']' ∧ c ≠ ',' ∧
      c ≠ '\'' ∧ c ≠ '"' ∧ c ≠ '/' ∧ (isDigit c || c == '-') = false ∧ isBlank c = false ∧
      c ≠ '#') (by decide) hc
  obtain ⟨h₁, h₂, h₃, h₄, h₅, h₆, h₇, h₈, h₉⟩ := hall h
  refine ⟨h₈, h₉, fun cs => ?_⟩
  unfold readToken
  rw [if_neg h₁, if_neg h₂, if_neg h₃, if_neg h₄, if_neg h₅, if_neg h₆, if_neg (by simp [h₇])]

/-- A name does not begin with a capital, so it is not taken for a reference. -/
theorem WordKind.reference_split?_of_isWord_name {w : List Char} (h : name.IsWord w)
    (rest : List Char) : reference.split? (w ++ rest) = none := by
  have hcapital {c : Char} (hc : name.starts c = true) : reference.starts c = false :=
    forall_ascii (P := fun c => name.starts c = true → reference.starts c = false)
      (by decide)
      (ascii_of_inside (inside_of_name_inside (lawful_name.inside_of_starts hc))) hc
  cases h with
  | plain hc _ =>
    rw [List.cons_append, split?_cons (lawful_name.ne_colon hc), if_neg (by simp [hcapital hc])]
  | rooted hc _ => simp [split?, hcapital hc]

section

variable [PatternLanguage]

/-- What begins with a colon is read as a word. -/
theorem readToken_of_colon (cs : List Char) : readToken ':' cs = (readWord ':' cs).closed := rfl

/-- A word begins as words do. -/
theorem WordKind.IsWord.exists_cons {k : WordKind} {w : List Char} (h : k.IsWord w)
    (hk : ∀ c, k.starts c = true → (name.starts c || reference.starts c) = true) :
    ∃ c cs, w = c :: cs ∧ isBlank c = false ∧ c ≠ '#' ∧
      ∀ rest, readToken c rest = (readWord c rest).closed := by
  cases h with
  | @plain c cs hc hcs => exact ⟨c, cs, rfl, readToken_of_letter (hk c hc)⟩
  | @rooted c cs hc hcs => exact ⟨':', _, rfl, by decide, by decide, readToken_of_colon⟩

/-- A reference is read as itself. -/
theorem spells_reference {w : List Char} (h : WordKind.reference.IsWord w) :
    Spells w (.reference (String.ofList w)) := by
  obtain ⟨c, cs, rfl, hblank, hcomment, hread⟩ := h.exists_cons (by simp +contextual)
  refine ⟨c, cs, rfl, hblank, hcomment, fun rest hrest => ?_⟩
  have hsplit := h.split?_append WordKind.lawful_reference hrest
  rw [List.cons_append] at hsplit
  simp only [hread, readWord, hsplit]
  exact Reading.closed_token hrest

/-- A name is read as itself. -/
theorem spells_name {w : List Char} (h : WordKind.name.IsWord w) :
    Spells w (.name (String.ofList w)) := by
  obtain ⟨c, cs, rfl, hblank, hcomment, hread⟩ := h.exists_cons (by simp +contextual)
  refine ⟨c, cs, rfl, hblank, hcomment, fun rest hrest => ?_⟩
  have hnone := WordKind.reference_split?_of_isWord_name h rest
  have hsplit := h.split?_append WordKind.lawful_name hrest
  rw [List.cons_append] at hnone hsplit
  simp only [hread, readWord, hnone, hsplit]
  exact Reading.closed_token hrest

end

section Spelled

variable [PatternLanguage] {s : String}

theorem spells_reference_toList (h : WordKind.reference.IsWord s.toList) :
    Spells s.toList (.reference s) := by
  have hspells := spells_reference h
  rwa [String.ofList_toList] at hspells

theorem spells_name_toList (h : WordKind.name.IsWord s.toList) : Spells s.toList (.name s) := by
  have hspells := spells_name h
  rwa [String.ofList_toList] at hspells

/-- A plain reference is read as itself. -/
theorem reads_reference (h : WordKind.reference.isPlain s.toList = true) :
    Reads s.toList (some [.reference s]) :=
  (spells_reference_toList (WordKind.isWord_of_isPlain WordKind.lawful_reference h)).reads

/-- A plain name is read as itself. -/
theorem reads_name (h : WordKind.name.isPlain s.toList = true) :
    Reads s.toList (some [.name s]) :=
  (spells_name_toList (WordKind.isWord_of_isPlain WordKind.lawful_name h)).reads

end Spelled

/-! ## Strings

A quoted text is a string whatever stands behind it, since it has an end of its own.
-/

/-- Escaping is undone up to the closing mark, and reading stops there. -/
theorem close?_escapeQuoted (cs rest : List Char) :
    Delimiter.apostrophe.close? (escapeQuoted cs ++ '\'' :: rest) =
      some ⟨cs, escapeQuoted cs ++ ['\''], rest⟩ := by
  induction cs with
  | nil => cases rest <;> rfl
  | cons c cs ih =>
    by_cases hc : c = '\'' ∨ c = '\\'
    · have hunescape : Delimiter.apostrophe.unescape c = [c] := by
        simp [Delimiter.apostrophe, hc]
      have hmark : '\\' ≠ Delimiter.apostrophe.mark := by decide
      rw [escapeQuoted, if_pos hc, List.cons_append, List.cons_append, Delimiter.close?,
        if_neg hmark, if_pos rfl, ih, Option.map_some, hunescape]
      rfl
    · -- the next character is there: the closing mark at the latest
      obtain ⟨e, es, he⟩ : ∃ e es, escapeQuoted cs ++ '\'' :: rest = e :: es :=
        List.exists_cons_of_ne_nil (by simp)
      have hmark : c ≠ Delimiter.apostrophe.mark := fun h => hc (Or.inl h)
      have hback : c ≠ '\\' := fun h => hc (Or.inr h)
      have hline : ¬ (Delimiter.apostrophe.oneLine = true ∧ c = '\n') := by
        simp [Delimiter.apostrophe]
      rw [escapeQuoted, if_neg hc, List.cons_append, he, Delimiter.close?, if_neg hmark,
        if_neg hback, if_neg hline, ← he, ih]
      rfl

variable [PatternLanguage]

/-- A quoted text is read up to its closing mark, whatever comes behind it: unlike a word, it does
    not have to be delimited. -/
theorem readToken_quoteChars (cs rest : List Char) :
    readToken '\'' (escapeQuoted cs ++ '\'' :: rest) =
      .token (.string (String.ofList cs)) (quoteChars cs) rest := by
  show readToken Delimiter.apostrophe.mark _ = _
  rw [Delimiter.Opens.apostrophe.readToken_eq, readDelimited, close?_escapeQuoted]
  rfl

/-- **Strings** are read back from their quoted form, whatever is in them. -/
theorem spells_quoteChars (cs : List Char) :
    Spells (quoteChars cs) (.string (String.ofList cs)) := by
  refine ⟨'\'', _, rfl, by decide, by decide, fun rest _ => ?_⟩
  rw [List.append_assoc, List.singleton_append]
  exact readToken_quoteChars cs rest

theorem reads_quoteChars (cs : List Char) :
    Reads (quoteChars cs) (some [.string (String.ofList cs)]) := (spells_quoteChars cs).reads

/-- **Quoting**: a quoted text is read as the text. -/
theorem reads_quote (s : String) : Reads (Text.quote s).toList (some [.string s]) := by
  have := reads_quoteChars s.toList
  rw [String.ofList_toList] at this
  rwa [Text.quote, String.toList_ofList]

end TypeExpr
