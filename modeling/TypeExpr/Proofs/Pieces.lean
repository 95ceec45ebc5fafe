import TypeExpr.Proofs.Numerals
import TypeExpr.Proofs.Words

/-!
# A text in pieces

A text that is read falls into pieces: a token's characters with the blanks and comments before
them.  `Cuts cs ps rest` says that the text begins with the pieces and goes on with the rest.

What a piece is depends on nothing before it, and on what comes behind it by one thing only: whether
that would spoil a word (`Delimits`).  So pieces stay the same when the rest of the text is
exchanged (`Cuts.exchange`), and in particular when it is cut off.  The characters behind a word
that was read have delimited it, so this needs a reading of every kind of token back to what it was
spelled with (`readToken_of_delimits`).

Every text can be cut into pieces up to its end or up to where nothing can be read (`exists_cuts`),
and its lexemes are those of the pieces (`Cursor.lexemes_eq_ok_iff`,
`Cursor.exists_fails_of_lexemes_eq_error`).

Nothing here looks at what the tokens mean, and nothing at what patterns there are.  A pattern that
is refused ends the reading like any other failure, whatever it is refused for.

The modules about texts that are put together or taken apart rest on this one: a text behind a line
feed (`Lines`), a text in brackets (`Enclosing`), a part that is cut out (`Subterms`), blanks around
a text (`Trimming`).  What each of them has to show is only what happens at the places where
something was joined or cut.
-/

namespace TypeExpr

open Text (byteLength isBlank splitTrivia splitTrivia_append)

/-! ## Literals

Behind its closing mark nothing of a literal is looked at, so it closes at the same place in front
of anything else.
-/

namespace Delimiter

variable {d : Delimiter} {cs : List Char} {r : Closed}

/-- A literal that was closed has its closing mark in its spelling, so the spelling is not empty. -/
theorem spelling_ne_nil_of_close? (h : d.close? cs = some r) : r.spelling ≠ [] := by
  -- where the mark itself comes, the spelling is the mark; elsewhere a character is put in front of
  -- the spelling of the rest
  fun_cases close? d cs with
  | case1 => cases h
  | case2 => simp only [close?, if_true, Option.some.injEq] at h; simp [← h]
  | case3 c hc => simp [close?, hc] at h
  | case4 => simp only [close?, if_true, Option.some.injEq] at h; simp [← h]
  | case5 e cs hmark =>
    simp only [close?, hmark, if_false, if_true] at h
    obtain ⟨r', -, rfl⟩ := Option.map_eq_some_iff.1 h
    simp [Closed.after]
  | case6 c e cs hmark hback hline =>
    simp only [close?, hmark, hback, if_false, if_pos hline] at h
    cases h
  | case7 c e cs hmark hback hline =>
    simp only [close?, hmark, hback, hline, if_false] at h
    obtain ⟨r', -, rfl⟩ := Option.map_eq_some_iff.1 h
    simp [Closed.after]

/-- A literal closes at its mark whatever follows. -/
theorem close?_spelling_append (h : d.close? cs = some r) (rest : List Char) :
    d.close? (r.spelling ++ rest) = some ⟨r.value, r.spelling, rest⟩ := by
  fun_induction close? d cs generalizing r with
  | case1 => cases h
  | case2 =>
    cases h
    cases rest <;> simp [close?]
  | case3 => cases h
  | case4 e cs =>
    cases h
    cases rest <;> simp [close?]
  | case5 e cs hmark ih =>
    obtain ⟨r', hr, rfl⟩ := Option.map_eq_some_iff.1 h
    simp [Closed.after, close?, hmark, ih hr]
  | case6 => cases h
  | case7 c e cs hmark hback hline ih =>
    obtain ⟨r', hr, rfl⟩ := Option.map_eq_some_iff.1 h
    -- the closing mark at the latest comes next
    obtain ⟨e', es, hes⟩ := List.exists_cons_of_ne_nil (spelling_ne_nil_of_close? hr)
    have := ih hr
    simp only [hes, List.cons_append] at this
    simp [Closed.after, hes, close?, hmark, hback, hline, this]

end Delimiter

/-! ## Numbers

What has been taken off a text as a numeral is written as numerals are; so the lemmas on such
numerals say what it is taken for in front of another text.
-/

namespace Numeral

/-- Characters taken off a text while something holds of them are a row, if there are any. -/
theorem isRow_takeWhile {p : Char → Bool} {cs : List Char} (h : cs.takeWhile p ≠ []) :
    IsRow p (cs.takeWhile p) := ⟨h, List.all_eq_true.1 List.all_takeWhile⟩

/-- What is taken off a text as an exponent is one. -/
theorem wellFormed_of_splitExponent? {cs : List Char} {e : Exponent} {rest : List Char}
    (h : splitExponent? cs = some (e, rest)) : e.WellFormed := by
  cases cs with
  | nil => cases h
  | cons c cs =>
    simp only [splitExponent?] at h
    split at h
    · rename_i hmark
      cases h
      refine ⟨hmark.1, ?_, isRow_takeWhile hmark.2⟩
      intro d hd
      fun_cases splitSignMark cs <;> simp_all [splitSignMark]
    · cases h

/-- What is taken off a text as a hexadecimal numeral is one. -/
theorem wellFormed_of_splitHexadecimal? {cs : List Char} {n : Numeral} {rest : List Char}
    (h : splitHexadecimal? cs = some (n, rest)) : n.WellFormed := by
  unfold splitHexadecimal? at h
  split at h
  · rw [Option.ite_none_right_eq_some] at h
    obtain ⟨⟨hmark, hds⟩, h⟩ := h
    cases h
    exact .hexadecimal hmark (isRow_takeWhile hds)
  · cases h

/-- Digits and what goes on them are a numeral: it has a fraction or an exponent, or it is whole. -/
theorem wellFormed_splitDecimal {ds : List Char} (hds : IsRow isDigit ds) (cs : List Char) :
    (splitDecimal ds cs).1.WellFormed := by
  cases cs with
  | nil => exact .whole hds
  | cons c cs =>
    simp only [splitDecimal]
    split
    · rename_i hpoint
      -- a point is taken along only with digits behind it, and then an exponent need not follow
      have hfraction := isRow_takeWhile hpoint.2
      split
      · rename_i e rest he
        refine .decimal hds hfraction.2 (Or.inl hfraction.1) ?_
        rintro x ⟨⟩
        exact wellFormed_of_splitExponent? he
      · exact .decimal hds hfraction.2 (Or.inl hfraction.1) (by simp)
    · split
      · rename_i e rest he
        refine .decimal hds (by simp) (Or.inr (by simp)) ?_
        rintro x ⟨⟩
        exact wellFormed_of_splitExponent? he
      · exact .whole hds

/-- Every numeral that is taken off a text is written as numerals are written. -/
theorem wellFormed_of_split? {cs : List Char} {n : Numeral} {rest : List Char}
    (h : split? cs = some (n, rest)) : n.WellFormed := by
  unfold split? at h
  split at h
  · rename_i r hr
    exact wellFormed_of_splitHexadecimal? (hr.trans h)
  · split at h
    · cases h
    · rename_i hds
      have := wellFormed_splitDecimal (isRow_takeWhile hds) (cs.dropWhile isDigit)
      rwa [Option.some.inj h] at this

end Numeral

/-! ## Tokens

Each kind of token is read back to what it was spelled with.  Marks and literals end by themselves;
a number or a word ends where it is delimited, and if it was delimited by what followed it, then it
is by whatever delimits at all.
-/

/-- A word or a number is read exactly if something has been read there and what is left delimits
    it. -/
theorem Reading.closed_eq_token_iff {r : Reading} {t : Token} {w rest : List Char} :
    r.closed = .token t w rest ↔ r = .token t w rest ∧ Delimits rest := by
  constructor
  · intro h
    unfold closed at h
    split at h
    · split at h
      · cases h
      · rename_i hc
        cases h
        exact ⟨rfl, delimits_cons (by simpa using hc)⟩
    · rename_i r hr
      subst h
      refine ⟨rfl, ?_⟩
      cases rest with
      | nil => exact delimits_nil
      | cons c rest => exact absurd rfl (hr t w c rest)
  · -- the other way round, nothing is left that could spoil the word
    rintro ⟨rfl, hrest⟩
    exact closed_token hrest

/-- A literal is read in front of anything as it was read once: nothing behind the closing mark is
    looked at. -/
theorem readDelimited_append {d : Delimiter} {u : SyntaxError.Cause}
    {token : List Char → Except SyntaxError.Cause Token} {cs : List Char} {t : Token}
    {w rest : List Char} (h : readDelimited d u token cs = .token t w rest) :
    ∃ ws, w = d.mark :: ws ∧ ∀ rest', readDelimited d u token (ws ++ rest') = .token t w rest' := by
  unfold readDelimited at h
  split at h
  · cases h
  · rename_i r hr
    split at h
    · rename_i t' ht
      cases h
      refine ⟨r.spelling, rfl, fun rest' => ?_⟩
      simp only [readDelimited, Delimiter.close?_spelling_append hr, ht]
    · cases h

/-- What was read as a number is a numeral, perhaps behind a minus sign, and the token is what that
    stands for. -/
theorem exists_numeral_of_readNumber {c : Char} {cs : List Char} {t : Token} {w rest : List Char}
    (h : readNumber (c :: cs) = .token t w rest) : ∃ (negative : Bool) (n : Numeral),
      w = (if negative then ['-'] else []) ++ n.spelling ∧ n.WellFormed ∧
      n.token negative = .ok t := by
  simp only [readNumber] at h
  split at h
  · cases h
  · rename_i n rest' hn
    split at h
    · rename_i t' ht
      cases h
      exact ⟨_, n, rfl, Numeral.wellFormed_of_split? hn, ht⟩
    · cases h

/-- What was read as a word is a reference or a name, and the token is spelled as it is. -/
theorem isWord_of_readWord {c : Char} {cs : List Char} {t : Token} {w rest : List Char}
    (h : readWord c cs = .token t w rest) :
    WordKind.reference.IsWord w ∧ t = .reference (String.ofList w) ∨
    WordKind.name.IsWord w ∧ t = .name (String.ofList w) := by
  unfold readWord at h
  split at h
  · rename_i w' rest' hw
    cases h
    exact Or.inl ⟨WordKind.isWord_of_split? WordKind.lawful_reference hw, rfl⟩
  · split at h
    · rename_i w' rest' hw
      cases h
      exact Or.inr ⟨WordKind.isWord_of_split? WordKind.lawful_name hw, rfl⟩
    · cases h

/-- What spells a token is read as it behind its first character. -/
theorem Spells.readToken_append [PatternLanguage] {c : Char} {cs rest : List Char} {t : Token}
    {w : List Char}
    (h : Spells w t) (hw : w ++ rest = c :: cs) {rest' : List Char} (hrest' : Delimits rest') :
    ∃ ws, w = c :: ws ∧ readToken c (ws ++ rest') = .token t w rest' := by
  obtain ⟨d, ws, rfl, -, -, hread⟩ := h
  cases hw
  exact ⟨ws, rfl, hread rest' hrest'⟩

/-- **Context**: a token is read the same in front of anything else, as long as that delimits it if
    what followed it did. -/
theorem readToken_of_delimits [PatternLanguage] {c : Char} {cs : List Char} {t : Token}
    {w rest rest' : List Char}
    (h : readToken c cs = .token t w rest) (hrest' : Delimits rest → Delimits rest') :
    ∃ ws, w = c :: ws ∧ readToken c (ws ++ rest') = .token t w rest' := by
  have hsplit : w ++ rest = c :: cs := by
    have := splits_readToken c cs
    rw [h] at this
    exact this.1
  refine readToken_cases (P := fun c cs r => r = .token t w rest → w ++ rest = c :: cs →
    ∃ ws, w = c :: ws ∧ readToken c (ws ++ rest') = .token t w rest') ?_ ?_ ?_ ?_ c cs h hsplit
  · rintro c t cs hmark ⟨⟩ -
    exact ⟨[], rfl, hmark.readToken_eq rest'⟩
  · -- a literal closes where it closed
    intro d u token cs hopens h _
    obtain ⟨ws, rfl, hread⟩ := readDelimited_append h
    exact ⟨ws, rfl, (hopens.readToken_eq _).trans (hread rest')⟩
  -- numbers and words have to be delimited, so they were, and still are
  · intro c cs h hsplit
    obtain ⟨h, hrest⟩ := Reading.closed_eq_token_iff.1 h
    obtain ⟨negative, n, rfl, hn, ht⟩ := exists_numeral_of_readNumber h
    exact (Numeral.spells_spelling hn ht).readToken_append hsplit (hrest' hrest)
  · intro c cs h hsplit
    obtain ⟨h, hrest⟩ := Reading.closed_eq_token_iff.1 h
    rcases isWord_of_readWord h with ⟨hw, rfl⟩ | ⟨hw, rfl⟩
    · exact (spells_reference hw).readToken_append hsplit (hrest' hrest)
    · exact (spells_name hw).readToken_append hsplit (hrest' hrest)

/-- The tokens that can be read: marks, literals, integers, finite doubles, and words. -/
inductive Token.Lexical : Token → Prop where
  | openBracket : Lexical .openBracket
  | closeBracket : Lexical .closeBracket
  | comma : Lexical .comma
  | string (s : String) : Lexical (.string s)
  | regex (p : String) : Lexical (.regex p)
  | integer (n : Int64) : Lexical (.integer n)
  | float {x : Double} : x.isFinite = true → Lexical (.float x)
  | reference {w : List Char} : WordKind.reference.IsWord w → Lexical (.reference (String.ofList w))
  | name {w : List Char} : WordKind.name.IsWord w → Lexical (.name (String.ofList w))

theorem Token.Lexical.isWord_reference {s : String} (h : (Token.reference s).Lexical) :
    WordKind.reference.IsWord s.toList := by
  cases h with
  | reference hword => rwa [String.toList_ofList]

theorem Token.Lexical.isWord_name {s : String} (h : (Token.name s).Lexical) :
    WordKind.name.IsWord s.toList := by
  cases h with
  | name hword => rwa [String.toList_ofList]

/-- What a numeral can stand for, and how it can be refused. -/
theorem Numeral.token_cases (negative : Bool) (n : Numeral) :
    (∃ i, n.token negative = .ok (.integer i)) ∨
    (∃ x : Double, x.isFinite = true ∧ n.token negative = .ok (.float x)) ∨
    ∃ spelled, spelled = String.ofList ((if negative then ['-'] else []) ++ n.spelling) ∧
      (n.token negative = .error (.invalidInteger spelled) ∨
        n.token negative = .error (.invalidFloat spelled)) := by
  cases n with
  | hexadecimal mark ds =>
    simp only [token]
    -- of an integer only the range of 64 bits can refuse the digits
    split
    · exact Or.inl ⟨_, rfl⟩
    · exact Or.inr (Or.inr ⟨_, rfl, Or.inl rfl⟩)
  | whole ds =>
    simp only [token]
    split
    · exact Or.inl ⟨_, rfl⟩
    · exact Or.inr (Or.inr ⟨_, rfl, Or.inl rfl⟩)
  | decimal ds fs e =>
    simp only [token]
    split
    · rename_i hfinite
      exact Or.inr (Or.inl ⟨_, hfinite, rfl⟩)
    · exact Or.inr (Or.inr ⟨_, rfl, Or.inr rfl⟩)

/-- A numeral stands for an integer or a double, and one that is beyond the doubles is refused. -/
theorem Numeral.cases_of_token {negative : Bool} {n : Numeral} {t : Token}
    (h : n.token negative = .ok t) :
    (∃ i, t = .integer i) ∨ ∃ x : Double, x.isFinite = true ∧ t = .float x := by
  rcases n.token_cases negative with ⟨i, hi⟩ | ⟨x, hfinite, hx⟩ | ⟨spelled, -, herror | herror⟩
  · cases hi.symm.trans h
    exact Or.inl ⟨i, rfl⟩
  · cases hx.symm.trans h
    exact Or.inr ⟨x, hfinite, rfl⟩
  · cases herror.symm.trans h
  · cases herror.symm.trans h

/-- A literal stands for a string or a pattern. -/
theorem Delimiter.Opens.cases_of_token [PatternLanguage] {d : Delimiter} {u : SyntaxError.Cause}
    {token : List Char → Except SyntaxError.Cause Token} {v : List Char} {t : Token}
    (hopens : d.Opens u token) (h : token v = .ok t) :
    (∃ s, t = .string s) ∨ ∃ p, t = .regex p := by
  cases hopens with
  | apostrophe | doubleQuote =>
    cases h
    exact Or.inl ⟨_, rfl⟩
  | slash =>
    unfold regexToken at h
    split at h
    · cases h
      exact Or.inr ⟨_, rfl⟩
    · cases h

/-- What was read between two marks was a token for what stood between them. -/
theorem exists_of_readDelimited {d : Delimiter} {u : SyntaxError.Cause}
    {token : List Char → Except SyntaxError.Cause Token} {cs : List Char} {t : Token}
    {w rest : List Char} (h : readDelimited d u token cs = .token t w rest) :
    ∃ v, token v = .ok t := by
  unfold readDelimited at h
  split at h
  · cases h
  · rename_i r _
    split at h
    · rename_i t' ht
      cases h
      exact ⟨r.value, ht⟩
    · cases h

/-- What was read is one of the tokens that can be read. -/
theorem lexical_of_readToken [PatternLanguage] {c : Char} {cs : List Char} {t : Token}
    {w rest : List Char} (h : readToken c cs = .token t w rest) : t.Lexical := by
  -- one case for each of the four ways to read: marks, literals, numbers, words
  refine readToken_cases (P := fun _ _ r => r = .token t w rest → t.Lexical) ?_ ?_ ?_ ?_ c cs h
  · rintro c t cs hmark ⟨⟩
    cases hmark with
    | openBracket => exact .openBracket
    | closeBracket => exact .closeBracket
    | comma => exact .comma
  · intro d u token cs hopens h
    obtain ⟨v, hv⟩ := exists_of_readDelimited h
    rcases hopens.cases_of_token hv with ⟨s, rfl⟩ | ⟨p, rfl⟩
    · exact .string s
    · exact .regex p
  · intro c cs h
    obtain ⟨negative, n, -, -, ht⟩ :=
      exists_numeral_of_readNumber (Reading.closed_eq_token_iff.1 h).1
    rcases Numeral.cases_of_token ht with ⟨i, rfl⟩ | ⟨x, hfinite, rfl⟩
    · exact .integer i
    · exact .float hfinite
  · intro c cs h
    rcases isWord_of_readWord (Reading.closed_eq_token_iff.1 h).1 with ⟨hw, rfl⟩ | ⟨hw, rfl⟩
    · exact .reference hw
    · exact .name hw

/-! ## Blanks and comments

A gap ends at the first character that belongs to none, and in front of that character it is the
same.
-/

/-- What stands before a token stands so before anything that begins like it. -/
theorem splitTrivia_append_cons {inComment : Bool} {cs xs : List Char} {x : Char}
    (h : (splitTrivia inComment cs).2 = x :: xs) (ys : List Char) :
    splitTrivia inComment ((splitTrivia inComment cs).1 ++ x :: ys) =
      ((splitTrivia inComment cs).1, x :: ys) := by
  fun_induction splitTrivia inComment cs with
  | case1 => cases h
  | case2 c cs ih => simp [splitTrivia, ih h]
  | case3 inComment c cs hcomment hblank ih => simp [splitTrivia, hcomment, hblank, ih h]
  | case4 inComment cs hcomment hblank ih => simp [splitTrivia, hcomment, hblank, ih h]
  | case5 => simp_all [splitTrivia]

/-- Nothing but blanks and comments is left of them when the text behind them is cut off. -/
theorem splitTrivia_gap (inComment : Bool) (cs : List Char) :
    splitTrivia inComment (splitTrivia inComment cs).1 = ((splitTrivia inComment cs).1, []) := by
  fun_induction splitTrivia inComment cs with
  | case1 => rfl
  | case2 c cs ih => simp [splitTrivia, ih]
  | case3 inComment c cs hcomment hblank ih => simp [splitTrivia, hcomment, hblank, ih]
  | case4 inComment cs hcomment hblank ih => simp [splitTrivia, hcomment, hblank, ih]
  | case5 => simp [splitTrivia]

/-- Behind a gap there is no gap. -/
theorem splitTrivia_rest (inComment : Bool) (cs : List Char) :
    splitTrivia false (splitTrivia inComment cs).2 =
      ([], (splitTrivia inComment cs).2) := by
  fun_induction splitTrivia inComment cs with
  | case1 => rfl
  | case2 c cs ih => exact ih
  | case3 inComment c cs hcomment hblank ih => exact ih
  | case4 inComment cs hcomment hblank ih => exact ih
  | case5 inComment c cs hcomment hblank hhash => simp [splitTrivia, hblank, hhash]

/-! ## Pieces

The definitions, and how pieces behave when the text around them changes.  The induction is on the
pieces throughout.
-/

/-- A token of a text with its characters, and the blanks and comments before it. -/
structure Piece where
  gap : List Char
  word : List Char
  token : Token

namespace Piece

/-- The characters of a piece. -/
def text (p : Piece) : List Char := p.gap ++ p.word

/-- The characters of pieces. -/
def texts (ps : List Piece) : List Char := ps.flatMap text

/-- The lexemes of pieces, the first of which begins at the offset. -/
def lexemes (offset : Nat) : List Piece → List Lexeme
  | [] => []
  | p :: ps => ⟨p.token, ⟨offset + byteLength p.gap, offset + byteLength p.text⟩⟩ ::
      lexemes (offset + byteLength p.text) ps

/-- The lexemes of pieces have the tokens of the pieces. -/
theorem exists_of_mem_lexemes {offset : Nat} {ps : List Piece} {l : Lexeme}
    (h : l ∈ lexemes offset ps) : ∃ p ∈ ps, l.token = p.token := by
  induction ps generalizing offset with
  | nil => cases h
  | cons p ps ih =>
    rcases List.mem_cons.1 h with rfl | h
    · exact ⟨p, List.mem_cons_self, rfl⟩
    · obtain ⟨q, hq, htoken⟩ := ih h
      exact ⟨q, List.mem_cons_of_mem p hq, htoken⟩

@[simp] theorem texts_nil : texts [] = [] := rfl

@[simp] theorem texts_cons (p : Piece) (ps : List Piece) :
    texts (p :: ps) = p.gap ++ p.word ++ texts ps := rfl

@[simp] theorem texts_append (ps qs : List Piece) : texts (ps ++ qs) = texts ps ++ texts qs := by
  simp [texts]

end Piece

/-- `Cuts cs ps rest`: the text begins with the pieces, read one after another, and `rest` is left
    of it. -/
inductive Cuts [PatternLanguage] : List Char → List Piece → List Char → Prop where
  | nil (cs : List Char) : Cuts cs [] cs
  | cons {cs gap xs w left ps rest} {x : Char} {t : Token} :
      splitTrivia false cs = (gap, x :: xs) → readToken x xs = .token t w left →
      Cuts left ps rest → Cuts cs (⟨gap, w, t⟩ :: ps) rest

/-- No token is left, and nothing is wrong. -/
def Exhausted (cs : List Char) : Prop := (splitTrivia false cs).2 = []

/-- Behind the gap no token can be read, and some characters are blamed. -/
def Fails [PatternLanguage] (cs gap blamed : List Char) (cause : SyntaxError.Cause) : Prop :=
  ∃ x xs taken left, splitTrivia false cs = (gap, x :: xs) ∧
    readToken x xs = .failure cause blamed taken left

/-- A token was spelled with the first characters of the text, and with one of them at least. -/
theorem eq_append_of_readToken [PatternLanguage] {x : Char} {xs w rest : List Char} {t : Token}
    (h : readToken x xs = .token t w rest) : x :: xs = w ++ rest ∧ w ≠ [] := by
  have hsplit := splits_readToken x xs
  rw [h] at hsplit
  exact ⟨hsplit.1.symm, hsplit.2⟩

/-- Blanks and comments that are split off are the first characters of the text. -/
theorem eq_append_of_splitTrivia {cs gap rest : List Char}
    (h : splitTrivia false cs = (gap, rest)) : cs = gap ++ rest := by
  have := splitTrivia_append false cs
  rw [h] at this
  exact this.symm

/-- If no token is left, all that is left are blanks and comments. -/
theorem splitTrivia_of_exhausted {cs : List Char} (h : Exhausted cs) :
    splitTrivia false cs = (cs, []) := by
  have hcs : splitTrivia false cs = ((splitTrivia false cs).1, []) := Prod.ext rfl h
  have := eq_append_of_splitTrivia hcs
  rw [List.append_nil] at this
  rwa [← this] at hcs

/-- What begins with some characters goes on delimiting a word if the rest is exchanged; only if
    there are none, the rest has to delimit it. -/
theorem Delimits.exchange {cs rest rest' : List Char} (h : Delimits (cs ++ rest))
    (hrest : Delimits rest → Delimits rest') : Delimits (cs ++ rest') := by
  cases cs with
  | nil => exact hrest h
  | cons c cs => exact delimits_cons h.of_cons

/-- The beginning of what delimits a word delimits it. -/
theorem Delimits.of_append {cs rest : List Char} (h : Delimits (cs ++ rest)) : Delimits cs := by
  rw [← List.append_nil cs]
  exact h.exchange fun _ => delimits_nil

theorem Delimits.append {cs rest : List Char} (h : Delimits cs) (hrest : Delimits rest) :
    Delimits (cs ++ rest) := by
  rw [← List.append_nil cs] at h
  exact h.exchange fun _ => hrest

namespace Cuts

variable {cs rest : List Char} {ps : List Piece}

variable [PatternLanguage]

/-- Pieces and what is left make up the text. -/
theorem eq_append (h : Cuts cs ps rest) : cs = Piece.texts ps ++ rest := by
  induction h with
  | nil => rfl
  | cons hgap hread _ ih =>
    rw [eq_append_of_splitTrivia hgap, (eq_append_of_readToken hread).1, ih]
    simp

/-- All pieces have tokens that can be read. -/
theorem lexical (h : Cuts cs ps rest) : ∀ p ∈ ps, p.token.Lexical := by
  induction h with
  | nil => simp
  | cons _ hread _ ih => exact List.forall_mem_cons.2 ⟨lexical_of_readToken hread, ih⟩

/-- Pieces fall into those of the beginning and those of the rest, and somewhere in between the one
    ends and the other begins. -/
theorem split {qs : List Piece} (h : Cuts cs (ps ++ qs) rest) :
    ∃ mid, Cuts cs ps mid ∧ Cuts mid qs rest := by
  induction ps generalizing cs with
  | nil => exact ⟨cs, .nil cs, h⟩
  | cons p ps ih =>
    cases h with
    | cons hgap hread h =>
      obtain ⟨mid, hp, hq⟩ := ih h
      exact ⟨mid, .cons hgap hread hp, hq⟩

/-- **Context**: what is left of a text may be exchanged, as long as that delimits the last word if
    what was left did. -/
theorem exchange (h : Cuts cs ps rest) {rest' : List Char}
    (hrest : Delimits rest → Delimits rest') : Cuts (Piece.texts ps ++ rest') ps rest' := by
  induction h with
  | nil => exact .nil rest'
  | @cons cs gap xs w left ps rest x t hgap hread hps ih =>
    -- what follows the first piece begins as before, unless there are no other pieces
    have hleft : Delimits left → Delimits (Piece.texts ps ++ rest') := by
      rw [hps.eq_append]
      intro hd
      exact hd.exchange hrest
    obtain ⟨ws, rfl, hread'⟩ := readToken_of_delimits hread hleft
    have hgap' := splitTrivia_append_cons (congrArg Prod.snd hgap)
      (ws ++ (Piece.texts ps ++ rest'))
    rw [hgap] at hgap'
    have htext : Piece.texts (⟨gap, x :: ws, t⟩ :: ps) ++ rest' =
        gap ++ x :: (ws ++ (Piece.texts ps ++ rest')) := by simp
    rw [htext]
    exact .cons hgap' hread' (ih hrest)

/-- The pieces of a text are its pieces in front of anything that delimits the last word. -/
theorem append (h : Cuts cs ps rest) {more : List Char} (hmore : Delimits more) :
    Cuts (cs ++ more) ps (rest ++ more) := by
  have hcuts := h.exchange fun hrest => hrest.append hmore
  rwa [← List.append_assoc, ← h.eq_append] at hcuts

end Cuts

/-- **Progress**: a text can be cut into pieces up to where no token is left or none can be read. -/
theorem exists_cuts [PatternLanguage] (cs : List Char) : ∃ ps rest, Cuts cs ps rest ∧
    (Exhausted rest ∨ ∃ gap blamed cause, Fails rest gap blamed cause) := by
  -- on the length, since a token takes at least one character
  induction hn : cs.length using Nat.strongRecOn generalizing cs with
  | _ n ih =>
    rcases hgap : splitTrivia false cs with ⟨gap, _ | ⟨x, xs⟩⟩
    · exact ⟨[], cs, .nil cs, Or.inl (by rw [Exhausted, hgap])⟩
    · cases hread : readToken x xs with
      | failure cause blamed taken left =>
        exact ⟨[], cs, .nil cs, Or.inr ⟨gap, blamed, cause, x, xs, taken, left, hgap, hread⟩⟩
      | token t w left =>
        have htext := eq_append_of_splitTrivia hgap
        obtain ⟨hword, hne⟩ := eq_append_of_readToken hread
        have hshorter : left.length < n := by
          have := List.length_pos_iff.2 hne
          rw [← hn, htext, hword]
          simp only [List.length_append]
          omega
        obtain ⟨ps, rest, hcuts, hstop⟩ := ih left.length hshorter left rfl
        exact ⟨⟨gap, w, t⟩ :: ps, rest, .cons hgap hread hcuts, hstop⟩

/-! ## Where the lexemes are

The lexemes of a text are those of its pieces, counted on from the offset at which the text begins.
So what is said of pieces in the other modules is said of lexemes and their spans as well.
-/

namespace Cursor

variable {cs gap xs rest : List Char} {x : Char}

/-- Blanks and comments are skipped up to the first character that is none. -/
theorem skipTrivia_eq (hgap : splitTrivia false cs = (gap, rest)) (offset : Nat) :
    (Cursor.mk offset cs).skipTrivia = ⟨offset + byteLength gap, rest⟩ := by
  simp [skipTrivia, advance, hgap]

variable [PatternLanguage]

/-- At the end of a text there is no next token, and the cursor goes behind the last blank. -/
theorem next_of_exhausted (h : Exhausted cs) (offset : Nat) :
    (Cursor.mk offset cs).next =
      (.ok none, ⟨offset + byteLength (splitTrivia false cs).1, []⟩) := by
  rw [next, skipTrivia_eq rfl, h]
  rfl

/-- The next token is the one behind the gap, with the span of its spelling, and the cursor goes
    behind it. -/
theorem next_of_readToken {t : Token} {w left : List Char}
    (hgap : splitTrivia false cs = (gap, x :: xs)) (hread : readToken x xs = .token t w left)
    (offset : Nat) : (Cursor.mk offset cs).next =
      (.ok (some ⟨t, ⟨offset + byteLength gap, offset + byteLength (gap ++ w)⟩⟩),
        ⟨offset + byteLength (gap ++ w), left⟩) := by
  rw [next, skipTrivia_eq hgap]
  simp [read, hread, advance, Nat.add_assoc]

/-- Where nothing can be read, the next answer is the cause, with the span of the characters blamed.
    -/
theorem next_of_fails {blamed : List Char} {cause : SyntaxError.Cause}
    (h : Fails cs gap blamed cause) (offset : Nat) : (Cursor.mk offset cs).next.1 =
      .error ⟨cause, ⟨offset + byteLength gap, offset + byteLength (gap ++ blamed)⟩⟩ := by
  obtain ⟨x, xs, taken, left, hgap, hread⟩ := h
  rw [next, skipTrivia_eq hgap]
  simp [read, hread, Nat.add_assoc]

/-- Every token that is read covers the characters that it was read from. -/
theorem exists_readToken_of_next {c : Cursor} {l : Lexeme} (h : c.next.1 = .ok (some l)) :
    ∃ gap x xs w rest, c.rest = gap ++ w ++ rest ∧ readToken x xs = .token l.token w rest ∧
      l.span = ⟨c.offset + byteLength gap, c.offset + byteLength (gap ++ w)⟩ := by
  obtain ⟨offset, cs⟩ := c
  -- of the three things that can be next only a token gives a lexeme
  rcases hgap : splitTrivia false cs with ⟨gap, _ | ⟨x, xs⟩⟩
  · rw [next_of_exhausted (by rw [Exhausted, hgap])] at h
    cases h
  · cases hread : readToken x xs with
    | token t w rest =>
      rw [next_of_readToken hgap hread] at h
      cases h
      refine ⟨gap, x, xs, w, rest, ?_, hread, rfl⟩
      rw [eq_append_of_splitTrivia hgap, (eq_append_of_readToken hread).1, List.append_assoc]
    | failure cause blamed taken rest =>
      rw [next_of_fails ⟨x, xs, taken, rest, hgap, hread⟩] at h
      cases h

/-- The lexemes of a text are those of its pieces, and those of what is left of it. -/
theorem lexemes_of_cuts {ps : List Piece} (h : Cuts cs ps rest) (offset : Nat) :
    lexemes ⟨offset, cs⟩ = (lexemes ⟨offset + byteLength (Piece.texts ps), rest⟩).map
      (Piece.lexemes offset ps ++ ·) := by
  induction h generalizing offset with
  | nil cs => cases hls : lexemes ⟨offset, cs⟩ <;> simp [hls, Piece.lexemes, Except.map]
  | @cons cs gap xs w left ps rest x t hgap hread _ ih =>
    rw [lexemes_of_next_token (next_of_readToken hgap hread offset), ih]
    have hoffset : offset + byteLength (gap ++ w) + byteLength (Piece.texts ps) =
        offset + byteLength (Piece.texts (⟨gap, w, t⟩ :: ps)) := by
      simp [Nat.add_assoc]
    rw [hoffset]
    cases lexemes ⟨offset + byteLength (Piece.texts (⟨gap, w, t⟩ :: ps)), rest⟩ <;>
      simp [Except.map, Piece.lexemes, Piece.text]

/-- A text that has been cut up to its end has the lexemes of its pieces. -/
theorem lexemes_of_exhausted {ps : List Piece} (h : Cuts cs ps rest) (hrest : Exhausted rest)
    (offset : Nat) : lexemes ⟨offset, cs⟩ = .ok (Piece.lexemes offset ps) := by
  rw [lexemes_of_cuts h, lexemes_of_next_end (next_of_exhausted hrest _)]
  simp [Except.map]

/-- **Cut off**: a text that ends in a gap behind pieces has the lexemes of these pieces. -/
theorem lexemes_cut_off {ps : List Piece} {more : List Char} (h : Cuts cs ps (gap ++ more))
    (hgap : Exhausted gap) (offset : Nat) :
    lexemes ⟨offset, Piece.texts ps ++ gap⟩ = .ok (Piece.lexemes offset ps) :=
  lexemes_of_exhausted (h.exchange Delimits.of_append) hgap offset

/-- A text that has been cut up to where nothing can be read fails with the cause found there,
    blamed on the characters found there; what was read before does not matter. -/
theorem lexemes_of_fails {ps : List Piece} {blamed : List Char} {cause : SyntaxError.Cause}
    (h : Cuts cs ps rest) (hfails : Fails rest gap blamed cause) (offset : Nat) :
    lexemes ⟨offset, cs⟩ = .error ⟨cause, ⟨offset + byteLength (Piece.texts ps ++ gap),
      offset + byteLength (Piece.texts ps ++ gap ++ blamed)⟩⟩ := by
  rw [lexemes_of_cuts h, lexemes_of_next_error (Prod.ext (next_of_fails hfails _) rfl)]
  simp [Except.map, Nat.add_assoc]

/-- **Success**: the lexemes of a text are those of the pieces that it is cut into. -/
theorem lexemes_eq_ok_iff {offset : Nat} {ls : List Lexeme} : lexemes ⟨offset, cs⟩ = .ok ls ↔
    ∃ ps rest, Cuts cs ps rest ∧ Exhausted rest ∧ ls = Piece.lexemes offset ps := by
  constructor
  · intro h
    obtain ⟨ps, rest, hcuts, hrest | ⟨gap, blamed, cause, hfails⟩⟩ := exists_cuts cs
    · rw [lexemes_of_exhausted hcuts hrest] at h
      cases h
      exact ⟨ps, rest, hcuts, hrest, rfl⟩
    · rw [lexemes_of_fails hcuts hfails] at h
      cases h
  · rintro ⟨ps, rest, hcuts, hrest, rfl⟩
    exact lexemes_of_exhausted hcuts hrest offset

/-- The lexemes of a text are tokens that can be read. -/
theorem lexical_of_lexemes {offset : Nat} {ls : List Lexeme}
    (h : lexemes ⟨offset, cs⟩ = .ok ls) : ∀ l ∈ ls, l.token.Lexical := by
  obtain ⟨ps, rest, hcuts, -, rfl⟩ := lexemes_eq_ok_iff.1 h
  intro l hl
  obtain ⟨p, hp, htoken⟩ := Piece.exists_of_mem_lexemes hl
  exact htoken ▸ hcuts.lexical p hp

/-- **Failure**: the error of a text stands behind the pieces that could be read. -/
theorem exists_fails_of_lexemes_eq_error {offset : Nat} {e : SyntaxError}
    (h : lexemes ⟨offset, cs⟩ = .error e) : ∃ ps rest gap blamed,
      Cuts cs ps rest ∧ Fails rest gap blamed e.cause ∧
      e.span = ⟨offset + byteLength (Piece.texts ps ++ gap),
        offset + byteLength (Piece.texts ps ++ gap ++ blamed)⟩ := by
  obtain ⟨ps, rest, hcuts, hrest | ⟨gap, blamed, cause, hfails⟩⟩ := exists_cuts cs
  · rw [lexemes_of_exhausted hcuts hrest] at h
    cases h
  · rw [lexemes_of_fails hcuts hfails] at h
    cases h
    exact ⟨ps, rest, gap, blamed, hcuts, hfails, rfl⟩

end Cursor

end TypeExpr
