import TypeExpr.Token.Lexer

/-!
# Reading one word after another

What a text is read as can be put together from its words.  `Reads cs o` says that the characters
`cs` are read as the tokens `o`, or not at all, whatever comes behind them, as long as that does not
spoil a word (`Delimits`).  Then whatever follows is read as if it stood alone.

So far as single words go, this is a property of `readToken` (`Spells`, `reads_none_of_readToken`);
words are joined by the marks, which are read in front of anything (`Reads.bracketed`,
`Reads.separated`).

Two things are left out of `Reads` on purpose.  Where the tokens stand does not matter to what a
text denotes, so `Cursor.tokens?` drops the spans, and then the offset at which reading begins makes
no difference either.  And that some characters cannot be read at all is one of the two things that
they can be read as; so a text of which one word is wrong is dealt with by the same lemmas as one
that is right.

Most of what is asked of characters is asked of ASCII only, where it can be checked one by one
(`forall_ascii`).
-/

namespace TypeExpr

open Text (byteLength isBlank splitTrivia)

/-! ## Characters that run into a word

A word ends where a character follows that cannot be mistaken for a part of it, and this is decided
by that one character.
-/

/-- What holds of every character of ASCII, one by one. -/
theorem forall_ascii {P : Char → Prop} (h : ∀ n < 128, P (Char.ofNat n)) {c : Char}
    (hc : c.toNat < 128) : P c := by
  have := h c.toNat hc
  rwa [Char.ofNat_toNat] at this

theorem toNat_le_of_le {c d : Char} (h : c ≤ d) : c.toNat ≤ d.toNat :=
  UInt32.le_iff_toNat_le.1 (Char.le_def.1 h)

/-- What may stand in a word is ASCII. -/
theorem ascii_of_inside {c : Char} (h : WordKind.reference.inside c = true) : c.toNat < 128 := by
  have hbound (d : Char) (hd : d.toNat < 128) (hcd : c ≤ d) : c.toNat < 128 :=
    Nat.lt_of_le_of_lt (toNat_le_of_le hcd) hd
  simp only [WordKind.reference, isCapital, isLowerLetter, isDigitOrLine, Bool.or_eq_true,
    Bool.and_eq_true, decide_eq_true_eq, beq_iff_eq] at h
  rcases h with (⟨-, h⟩ | ⟨-, h⟩) | ⟨-, h⟩ | rfl
  · exact hbound 'Z' (by decide) h
  · exact hbound 'z' (by decide) h
  · exact hbound '9' (by decide) h
  · decide

/-- Letters, digits and underscores run into a word before them. -/
theorem runsOn_of_inside {c : Char} (h : WordKind.reference.inside c = true) : runsOn c = true := by
  have hall : WordKind.reference.inside c = true → runsOn c = true :=
    forall_ascii (P := fun c => WordKind.reference.inside c = true → runsOn c = true)
      (by decide +kernel) (ascii_of_inside h)
  exact hall h

/-- Dots and colons run into a word before them too. -/
theorem runsOn_of_mark {c : Char} (h : c = '.' ∨ c = ':') : runsOn c = true := by
  rcases h with rfl | rfl <;> simp [runsOn]

/-- Brackets, commas and line feeds do not. -/
theorem runsOn_eq_false_of_mark {c : Char} (h : c = '[' ∨ c = ']' ∨ c = ',' ∨ c = '\n') :
    runsOn c = false := by
  have hmarks : runsOn '[' = false ∧ runsOn ']' = false ∧ runsOn ',' = false ∧
      runsOn '\n' = false := by
    decide +kernel
  rcases h with rfl | rfl | rfl | rfl
  · exact hmarks.1
  · exact hmarks.2.1
  · exact hmarks.2.2.1
  · exact hmarks.2.2.2

/-- Digits may stand in words, but not begin them. -/
theorem inside_of_isDigit {c : Char} (h : isDigit c = true) :
    WordKind.reference.inside c = true := by
  have : isDigitOrLine c = true := by
    rw [isDigit] at h
    rw [isDigitOrLine, h, Bool.true_or]
  simp [WordKind.reference, this]

/-- Nothing here spoils a word that stands right before it. -/
def Delimits (rest : List Char) : Prop := ∀ c ∈ rest.head?, runsOn c = false

theorem delimits_nil : Delimits [] := by
  rintro c ⟨⟩

theorem delimits_cons {c : Char} {cs : List Char} (h : runsOn c = false) : Delimits (c :: cs) := by
  rintro d ⟨⟩
  exact h

/-- Brackets, commas and line feeds delimit words. -/
theorem delimits_mark {c : Char} {cs : List Char} (h : c = '[' ∨ c = ']' ∨ c = ',' ∨ c = '\n') :
    Delimits (c :: cs) :=
  delimits_cons (runsOn_eq_false_of_mark h)

theorem Delimits.of_cons {c : Char} {cs : List Char} (h : Delimits (c :: cs)) : runsOn c = false :=
  h c rfl

/-- A word is not spoilt by what delimits it. -/
theorem Reading.closed_token {t : Token} {taken rest : List Char} (h : Delimits rest) :
    (Reading.token t taken rest).closed = .token t taken rest := by
  cases rest with
  | nil => rfl
  | cons c rest => simp [closed, h.of_cons]

/-! ## The tokens from a cursor on

What `tokenize` does, one step at a time, and then the same without spans.
-/

namespace Cursor

theorem lexemes_of_next_end [PatternLanguage] {c c' : Cursor} (h : c.next = (.ok none, c')) :
    c.lexemes = .ok [] := by
  rw [lexemes]
  split <;> simp_all

/-- If there is a next token, it comes first, and the rest is read from behind it. -/
theorem lexemes_of_next_token [PatternLanguage] {c c' : Cursor} {l : Lexeme}
    (h : c.next = (.ok (some l), c')) : c.lexemes = c'.lexemes.map (l :: ·) := by
  rw [lexemes]
  split <;> simp_all

theorem lexemes_of_next_error [PatternLanguage] {c c' : Cursor} {e : SyntaxError}
    (h : c.next = (.error e, c')) : c.lexemes = .error e := by
  rw [lexemes]
  split <;> simp_all

end Cursor

/-- The tokens from a cursor to the end of the text, if it can be read. -/
def Cursor.tokens? [PatternLanguage] (c : Cursor) : Option (List Token) :=
  c.lexemes.toOption.map fun ls => ls.map (·.token)

/-- The tokens of a text are those of its lexemes. -/
theorem tokens?_eq_some_iff [PatternLanguage] {text : String} {ts : List Token} :
    Cursor.tokens? ⟨0, text.toList⟩ = some ts ↔
      ∃ ls, tokenize text = .ok ls ∧ ls.map (·.token) = ts := by
  unfold Cursor.tokens? tokenize
  cases Cursor.lexemes ⟨0, text.toList⟩ <;> simp [Except.toOption]

/-- A character that is no blank and begins no comment is not skipped. -/
theorem skipTrivia_of_not_trivia {offset : Nat} {c : Char} {cs : List Char}
    (hblank : isBlank c = false) (hcomment : c ≠ '#') :
    Cursor.skipTrivia ⟨offset, c :: cs⟩ = ⟨offset, c :: cs⟩ := by
  simp [Cursor.skipTrivia, Cursor.advance, splitTrivia, hblank, hcomment]

section

variable [PatternLanguage]

/-- Where no blanks and comments stand, the next token is read right there. -/
theorem Cursor.next_eq_read {c : Char} (hblank : isBlank c = false) (hcomment : c ≠ '#')
    (offset : Nat) (cs : List Char) :
    (Cursor.mk offset (c :: cs)).next = (Cursor.mk offset (c :: cs)).read := by
  rw [next, skipTrivia_of_not_trivia hblank hcomment]

theorem tokens?_nil (offset : Nat) : Cursor.tokens? ⟨offset, []⟩ = some [] := by
  have hnext : (Cursor.mk offset []).next = (.ok none, ⟨offset, []⟩) := rfl
  rw [Cursor.tokens?, Cursor.lexemes_of_next_end hnext]
  rfl

/-- What comes next decides what is read. -/
theorem Cursor.lexemes_congr {c c' : Cursor} (h : c.next = c'.next) : c.lexemes = c'.lexemes := by
  rw [lexemes, lexemes]
  split <;> split <;> simp_all

/-- A blank says nothing. -/
theorem Cursor.lexemes_space (offset : Nat) (cs : List Char) :
    lexemes ⟨offset, ' ' :: cs⟩ = lexemes ⟨offset + 1, cs⟩ := by
  have hblank : isBlank ' ' = true := by decide
  have hsize : ' '.utf8Size = 1 := by decide
  refine lexemes_congr ?_
  unfold next
  congr 1
  simp [skipTrivia, advance, splitTrivia, hblank, hsize, Nat.add_assoc]

/-- Spaces are skipped, as many as there are, and count one byte each. -/
theorem Cursor.lexemes_spaces (n offset : Nat) (cs : List Char) :
    lexemes ⟨offset, List.replicate n ' ' ++ cs⟩ = lexemes ⟨offset + n, cs⟩ := by
  induction n generalizing offset with
  | zero => rfl
  | succ n ih =>
    rw [List.replicate_succ, List.cons_append, lexemes_space, ih, Nat.add_assoc, Nat.add_comm 1]

/-- A space makes no difference. -/
theorem tokens?_space (offset : Nat) (cs : List Char) :
    Cursor.tokens? ⟨offset, ' ' :: cs⟩ = Cursor.tokens? ⟨offset + 1, cs⟩ := by
  rw [Cursor.tokens?, Cursor.tokens?, Cursor.lexemes_space]

end

section OneToken

variable {c : Char} {cs : List Char}

/-- A token stands in front of all that follows it. -/
theorem Cursor.lexemes_of_readToken [PatternLanguage] {t : Token} {taken rest : List Char}
    (hblank : isBlank c = false)
    (hcomment : c ≠ '#') (h : readToken c cs = .token t taken rest) (offset : Nat) :
    lexemes ⟨offset, c :: cs⟩ = (lexemes ⟨offset + byteLength taken, rest⟩).map
      (⟨t, ⟨offset, offset + byteLength taken⟩⟩ :: ·) := by
  refine lexemes_of_next_token ?_
  rw [next_eq_read hblank hcomment]
  simp [read, h, advance]

/-- A token that is read comes first, and the rest is read from behind it. -/
theorem tokens?_of_readToken [PatternLanguage] {t : Token} {taken rest : List Char}
    (hblank : isBlank c = false)
    (hcomment : c ≠ '#') (h : readToken c cs = .token t taken rest) (offset : Nat) :
    Cursor.tokens? ⟨offset, c :: cs⟩ =
      (Cursor.tokens? ⟨offset + byteLength taken, rest⟩).map (t :: ·) := by
  rw [Cursor.tokens?, Cursor.tokens?, Cursor.lexemes_of_readToken hblank hcomment h]
  cases Cursor.lexemes ⟨offset + byteLength taken, rest⟩ <;> simp [Except.map, Except.toOption]

/-- Behind an error nothing is read. -/
theorem tokens?_of_failure [PatternLanguage] {cause : SyntaxError.Cause}
    {blamed taken rest : List Char} (hblank : isBlank c = false) (hcomment : c ≠ '#')
    (h : readToken c cs = .failure cause blamed taken rest) (offset : Nat) :
    Cursor.tokens? ⟨offset, c :: cs⟩ = none := by
  have hnext : ∃ e c', (Cursor.mk offset (c :: cs)).next = (.error e, c') := by
    rw [Cursor.next_eq_read hblank hcomment]
    simp [Cursor.read, h]
  obtain ⟨e, c', hnext⟩ := hnext
  rw [Cursor.tokens?, Cursor.lexemes_of_next_error hnext]
  rfl

end OneToken

/-! ## The tokens of a piece of text

A piece of text is read in front of something else.  The two forms in which this is needed are that
it is read as one token (`Spells`) and that it is read as some tokens or not at all (`Reads`).
-/

variable [PatternLanguage]

/-- The characters are read as the tokens, or cannot be read, in front of whatever delimits them. -/
def Reads (cs : List Char) (o : Option (List Token)) : Prop :=
  ∀ (offset : Nat) (rest : List Char), Delimits rest →
    Cursor.tokens? ⟨offset, cs ++ rest⟩ =
      o.bind fun ts => (Cursor.tokens? ⟨offset + byteLength cs, rest⟩).map (ts ++ ·)

/-- What the text of a piece is read as when nothing follows it. -/
theorem Reads.tokens?_eq {cs : List Char} {o : Option (List Token)} (h : Reads cs o)
    (offset : Nat) : Cursor.tokens? ⟨offset, cs⟩ = o := by
  have := h offset [] delimits_nil
  rw [List.append_nil, tokens?_nil] at this
  rw [this]
  cases o <;> simp

/-- The characters spell the token: as a word they are read as the token, in front of whatever
    delimits them. -/
def Spells (w : List Char) (t : Token) : Prop :=
  ∃ c cs, w = c :: cs ∧ isBlank c = false ∧ c ≠ '#' ∧
    ∀ rest, Delimits rest → readToken c (cs ++ rest) = .token t w rest

/-- A word that spells a token is read as the token. -/
theorem Spells.reads {w : List Char} {t : Token} (h : Spells w t) : Reads w (some [t]) := by
  obtain ⟨c, cs, rfl, hblank, hcomment, hread⟩ := h
  intro offset rest hrest
  rw [List.cons_append, tokens?_of_readToken hblank hcomment (hread rest hrest)]
  rfl

/-- The word comes first in front of whatever delimits it, with the span of its spelling. -/
theorem Spells.lexemes_append {w : List Char} {t : Token} (h : Spells w t) (offset : Nat)
    {rest : List Char} (hrest : Delimits rest) : Cursor.lexemes ⟨offset, w ++ rest⟩ =
      (Cursor.lexemes ⟨offset + byteLength w, rest⟩).map
        (⟨t, ⟨offset, offset + byteLength w⟩⟩ :: ·) := by
  obtain ⟨c, cs, rfl, hblank, hcomment, hread⟩ := h
  rw [List.cons_append, Cursor.lexemes_of_readToken hblank hcomment (hread rest hrest)]

/-- A word that cannot be read in front of anything cannot be read. -/
theorem reads_none_of_readToken {c : Char} {cs : List Char} (hblank : isBlank c = false)
    (hcomment : c ≠ '#')
    (h : ∀ rest, ∃ cause blamed taken left,
      readToken c (cs ++ rest) = .failure cause blamed taken left) :
    Reads (c :: cs) none := by
  intro offset rest _
  obtain ⟨cause, blamed, taken, left, h⟩ := h rest
  exact tokens?_of_failure hblank hcomment h offset

/-! ## Marks

Brackets and commas are what pieces are joined with.
-/

/-- The tokens of a list in brackets behind a word. -/
def bracketed (head body : Option (List Token)) : Option (List Token) :=
  head.bind fun ts => body.map fun us => ts ++ .openBracket :: us ++ [.closeBracket]

/-- The tokens of two pieces with a comma between them. -/
def separated (first second : Option (List Token)) : Option (List Token) :=
  first.bind fun ts => second.map fun us => ts ++ .comma :: us

/-- A mark is read in front of anything. -/
theorem tokens?_of_mark {c : Char} {t : Token} (hblank : isBlank c = false) (hcomment : c ≠ '#')
    (hsize : c.utf8Size = 1) (h : ∀ cs, readToken c cs = .token t [c] cs) (cs : List Char)
    (offset : Nat) :
    Cursor.tokens? ⟨offset, c :: cs⟩ = (Cursor.tokens? ⟨offset + 1, cs⟩).map (t :: ·) := by
  rw [tokens?_of_readToken hblank hcomment (h cs)]
  simp [hsize]

theorem reads_nil : Reads [] (some []) := by
  intro offset rest _
  simp

/-- A list in brackets behind a word is read as the word, the marks and what is in between; if
    either cannot be read, neither can the whole. -/
theorem Reads.bracketed {cs ds : List Char} {o p : Option (List Token)} (hcs : Reads cs o)
    (hds : Reads ds p) : Reads (cs ++ '[' :: ds ++ [']']) (TypeExpr.bracketed o p) := by
  intro offset rest _
  have hopen (k : Nat) (us : List Char) :
      Cursor.tokens? ⟨k, '[' :: us⟩ = (Cursor.tokens? ⟨k + 1, us⟩).map (.openBracket :: ·) :=
    tokens?_of_mark (by decide) (by decide) (by decide) (fun _ => rfl) us k
  have hclose (k : Nat) (us : List Char) :
      Cursor.tokens? ⟨k, ']' :: us⟩ = (Cursor.tokens? ⟨k + 1, us⟩).map (.closeBracket :: ·) :=
    tokens?_of_mark (by decide) (by decide) (by decide) (fun _ => rfl) us k
  -- a bracket delimits what stands before it
  have h₁ := hcs offset ('[' :: (ds ++ ']' :: rest)) (delimits_mark (by simp))
  have h₂ := hds (offset + byteLength cs + 1) (']' :: rest) (delimits_mark (by simp))
  rw [hopen, h₂, hclose] at h₁
  have hassoc : cs ++ '[' :: ds ++ [']'] ++ rest = cs ++ '[' :: (ds ++ ']' :: rest) := by simp
  have hlength : offset + byteLength (cs ++ '[' :: ds ++ [']']) =
      offset + byteLength cs + 1 + byteLength ds + 1 := by
    have hsize : '['.utf8Size = 1 ∧ ']'.utf8Size = 1 := by decide
    simp [hsize]
    omega
  rw [hassoc, h₁, hlength]
  cases o <;> cases p <;>
    cases Cursor.tokens? ⟨offset + byteLength cs + 1 + byteLength ds + 1, rest⟩ <;>
    simp [TypeExpr.bracketed]

/-- With a space in front, characters are read as they are without. -/
theorem Reads.space {cs : List Char} {o : Option (List Token)} (h : Reads cs o) :
    Reads (' ' :: cs) o := by
  have hsize : ' '.utf8Size = 1 := by decide
  intro offset rest hrest
  rw [List.cons_append, tokens?_space, h _ rest hrest]
  simp [hsize, Nat.add_assoc]

/-- Two pieces with a comma between them are read as both, with the comma between them. -/
theorem Reads.separated {cs ds : List Char} {o p : Option (List Token)} (hcs : Reads cs o)
    (hds : Reads ds p) : Reads (cs ++ ',' :: ds) (TypeExpr.separated o p) := by
  intro offset rest hrest
  have hcomma (k : Nat) (us : List Char) :
      Cursor.tokens? ⟨k, ',' :: us⟩ = (Cursor.tokens? ⟨k + 1, us⟩).map (.comma :: ·) :=
    tokens?_of_mark (by decide) (by decide) (by decide) (fun _ => rfl) us k
  -- the comma delimits the first piece, and the second is read from behind it
  have h₁ := hcs offset (',' :: (ds ++ rest)) (delimits_mark (by simp))
  rw [hcomma, hds _ rest hrest] at h₁
  have hassoc : cs ++ ',' :: ds ++ rest = cs ++ ',' :: (ds ++ rest) := by simp
  have hlength : offset + byteLength (cs ++ ',' :: ds) =
      offset + byteLength cs + 1 + byteLength ds := by
    have hsize : ','.utf8Size = 1 := by decide
    simp [hsize]
    omega
  rw [hassoc, h₁, hlength]
  generalize Cursor.tokens? ⟨offset + byteLength cs + 1 + byteLength ds, rest⟩ = q
  cases o <;> cases p <;> cases q <;> simp [TypeExpr.separated]

end TypeExpr
