import TypeExpr.Proofs.Pieces

/-!
# Tokens and gaps tile a text

A text that can be read is laid out without overlap and without a hole: between the spellings of its
tokens, before the first and behind the last stands nothing but blanks and comments.  `Tiles` says
so without a lexer, and `tokenize_tiles` says that the lexemes of a text tile it.

If a text cannot be read, the error is blamed on a part of it; the text before that part can be
read, and its tokens are those that were read before the error.  That is so since nothing in a text
is read otherwise when what follows is cut off (`Cuts.exchange`).

Of a gap it is not enough to know that it was skipped.  What is skipped is said character by
character and says of each only whether a comment is open there; `Gap` says what comments are, and a
gap in front of a word cannot end in the middle of one.  Only behind the last word a comment may run
to the end of the text.

The tiles are found from the pieces (`Cuts.tiles`).  For the error it is not asked which token is
wrong: each kind of reading blames characters that come next (`readToken_cases`,
`blames_readToken`), and that is enough to know where the span lies.
-/

namespace TypeExpr

namespace Text

/-! ## What may stand between tokens

A gap is blanks and comments, and a comment in it is over unless nothing comes behind it.
-/

/-- Blanks and comments.  A comment runs to a line feed; if nothing comes behind them, the last one
    may run to the end of the text. -/
inductive Gap (isLast : Bool) : List Char → Prop where
  | nil : Gap isLast []
  | blank {c cs} : isBlank c = true → Gap isLast cs → Gap isLast (c :: cs)
  | comment {body cs} : '\n' ∉ body → Gap isLast cs → Gap isLast ('#' :: body ++ '\n' :: cs)
  | lastComment {body} : isLast = true → '\n' ∉ body → Gap isLast ('#' :: body)

/-- What is left of a gap inside a comment. -/
def CommentTail (isLast : Bool) (cs : List Char) : Prop :=
  ∃ body, '\n' ∉ body ∧
    ((∃ rest, cs = body ++ '\n' :: rest ∧ Gap isLast rest) ∨ (isLast = true ∧ cs = body))

/-- Behind its first character a comment is a gap with what follows it. -/
theorem CommentTail.gap {isLast : Bool} {cs : List Char} (h : CommentTail isLast cs) :
    Gap isLast ('#' :: cs) := by
  rcases h with ⟨body, hbody, ⟨rest, rfl, hrest⟩ | ⟨hlast, rfl⟩⟩
  · exact .comment hbody hrest
  · exact .lastComment hlast hbody

/-- A comment goes on with every character but a line feed. -/
theorem CommentTail.cons {isLast : Bool} {c : Char} {cs : List Char} (hc : c ≠ '\n')
    (h : CommentTail isLast cs) : CommentTail isLast (c :: cs) := by
  have hnot {body : List Char} (hbody : '\n' ∉ body) : '\n' ∉ c :: body := by
    simp [hbody, hc.symm]
  rcases h with ⟨body, hbody, ⟨rest, rfl, hrest⟩ | ⟨hlast, rfl⟩⟩
  · exact ⟨c :: body, hnot hbody, Or.inl ⟨rest, rfl, hrest⟩⟩
  · exact ⟨c :: cs, hnot hbody, Or.inr ⟨hlast, rfl⟩⟩

/-- What is passed over before a token is a gap, and so is what is passed over at the end. -/
theorem gap_splitTrivia (inComment : Bool) (cs : List Char) :
    (inComment = true → CommentTail (splitTrivia inComment cs).2.isEmpty
      (splitTrivia inComment cs).1) ∧
    (inComment = false → Gap (splitTrivia inComment cs).2.isEmpty
      (splitTrivia inComment cs).1) := by
  fun_induction splitTrivia inComment cs with
  | case1 => exact ⟨fun _ => ⟨[], by simp, Or.inr ⟨rfl, rfl⟩⟩, fun _ => .nil⟩
  | case2 c cs ih =>
    refine ⟨fun _ => ?_, by simp⟩
    by_cases hc : c = '\n'
    · -- the comment ends here, and a gap goes on
      subst hc
      exact ⟨[], by simp, Or.inl ⟨_, rfl, ih.2 rfl⟩⟩
    · exact (ih.1 (by simp [hc])).cons hc
  | case3 inComment c cs hcomment hblank ih =>
    exact ⟨fun h => absurd h hcomment, fun _ => .blank hblank (ih.2 rfl)⟩
  | case4 inComment cs hcomment hblank ih =>
    exact ⟨fun h => absurd h hcomment, fun _ => (ih.1 rfl).gap⟩
  | case5 inComment c cs hcomment => exact ⟨fun h => absurd h hcomment, fun _ => .nil⟩

/-- What is split off in front of a word is a gap; if nothing follows, its last comment may be open.
    -/
theorem gap_of_splitTrivia {cs gap rest : List Char} (h : splitTrivia false cs = (gap, rest)) :
    Gap rest.isEmpty gap := by
  have := (gap_splitTrivia false cs).2 rfl
  rwa [h] at this

/-! ## Tiles

The spellings of the tokens and the gaps between them make up the text.  That spans are not empty,
do not overlap and do not cut characters follows from this alone.
-/

/-- A character of the text begins at the offset, or the text ends there. -/
def IsBoundary (text : List Char) (offset : Nat) : Prop :=
  ∃ before after, text = before ++ after ∧ byteLength before = offset

end Text

open Text (byteLength Gap IsBoundary)

/-- `Tiles k cs ls`: the text `cs`, which begins at offset `k`, is made of the spellings of the
    lexemes, in this order and none of them empty, with gaps before, between and behind them. -/
inductive Tiles : Nat → List Char → List Lexeme → Prop where
  | last {k cs} : Gap true cs → Tiles k cs []
  | lexeme {k gap word rest ls} {t : Token} : Gap false gap → word ≠ [] →
      Tiles (k + byteLength (gap ++ word)) rest ls →
      Tiles k (gap ++ word ++ rest)
        (⟨t, ⟨k + byteLength gap, k + byteLength (gap ++ word)⟩⟩ :: ls)

/-- The pieces of a text that can be read tile it. -/
theorem Cuts.tiles [PatternLanguage] {cs rest : List Char} {ps : List Piece} (h : Cuts cs ps rest)
    (hrest : Exhausted rest) (k : Nat) : Tiles k cs (Piece.lexemes k ps) := by
  induction h generalizing k with
  | nil cs => exact .last (Text.gap_of_splitTrivia (splitTrivia_of_exhausted hrest))
  | cons hgap hread _ ih =>
    obtain ⟨hword, hne⟩ := eq_append_of_readToken hread
    rw [eq_append_of_splitTrivia hgap, hword, ← List.append_assoc]
    exact .lexeme (Text.gap_of_splitTrivia hgap) hne (ih hrest _)

namespace Tiles

variable {k : Nat} {cs : List Char} {ls : List Lexeme}

/-- Every tile covers some characters of the text, and these only. -/
theorem exists_word (h : Tiles k cs ls) : ∀ l ∈ ls, ∃ before word after,
    cs = before ++ word ++ after ∧ word ≠ [] ∧
    l.span = ⟨k + byteLength before, k + byteLength (before ++ word)⟩ := by
  induction h with
  | last => simp
  | @lexeme k gap word rest ls t hgap hne htiles ih =>
    refine List.forall_mem_cons.2 ⟨⟨gap, word, rest, rfl, hne, rfl⟩, fun l hl => ?_⟩
    obtain ⟨before, word', after, rfl, hne', hspan⟩ := ih l hl
    refine ⟨gap ++ word ++ before, word', after, by simp, hne', ?_⟩
    rw [hspan]
    simp [Nat.add_assoc]

/-- No lexeme begins before the text does. -/
theorem le_start (h : Tiles k cs ls) : ∀ l ∈ ls, k ≤ l.span.start := by
  intro l hl
  obtain ⟨before, word, after, -, -, hspan⟩ := h.exists_word l hl
  rw [hspan]
  exact Nat.le_add_right ..

theorem pairwise (h : Tiles k cs ls) : ls.Pairwise fun l m => l.span.stop ≤ m.span.start := by
  induction h with
  | last => exact .nil
  | lexeme _ _ htiles ih => exact .cons htiles.le_start ih

end Tiles

theorem byteLength_pos {cs : List Char} (h : cs ≠ []) : 0 < byteLength cs :=
  Nat.lt_of_lt_of_le (List.length_pos_iff.2 h) (Text.length_le_byteLength cs)

/-- The tiles of a text are not empty and begin and end with characters of it. -/
theorem Tiles.bounds {cs : List Char} {ls : List Lexeme} (h : Tiles 0 cs ls) {l : Lexeme}
    (hl : l ∈ ls) :
    l.span.start < l.span.stop ∧ IsBoundary cs l.span.start ∧ IsBoundary cs l.span.stop := by
  obtain ⟨before, word, after, rfl, hne, hspan⟩ := h.exists_word l hl
  have hpos := byteLength_pos hne
  rw [hspan]
  refine ⟨?_, ⟨before, word ++ after, by simp, by simp⟩, ⟨before ++ word, after, rfl, by simp⟩⟩
  simp only [Text.byteLength_append]
  omega

/-! ## What an error is blamed on

Whatever kind of token has been begun, the characters that are blamed come next in the text.
-/

/-- An error is blamed on characters right at the place that reading has come to. -/
def Reading.Blames (text : List Char) : Reading → Prop
  | .token _ _ _ => True
  | .failure _ blamed _ _ => ∃ after, text = blamed ++ after

/-- A word that is spoilt is blamed with the character behind it, which is there. -/
theorem Reading.Blames.closed {text : List Char} {r : Reading} (h : r.Blames text)
    (hsplits : r.Splits text) : r.closed.Blames text := by
  unfold Reading.closed
  split
  · rename_i t taken c rest
    split
    · -- the character that spoils the word is blamed with it
      exact ⟨rest, by rw [← hsplits.1]; simp⟩
    · trivial
  · exact h

/-- A literal that is not closed is blamed with all that follows; one that is no pattern, as a
    whole. -/
theorem blames_readDelimited (d : Delimiter) (u : SyntaxError.Cause)
    (token : List Char → Except SyntaxError.Cause Token) (cs : List Char) :
    (readDelimited d u token cs).Blames (d.mark :: cs) := by
  unfold readDelimited
  split
  · exact ⟨[], by simp⟩
  · rename_i r hr
    split
    · trivial
    · exact ⟨r.rest, by rw [← Delimiter.close?_append hr]; rfl⟩

/-- A number is blamed as it is spelled, and a minus sign without one is blamed alone. -/
theorem blames_readNumber (c : Char) (cs : List Char) :
    (readNumber (c :: cs)).Blames (c :: cs) := by
  have hsplits := splits_readNumber c cs
  simp only [readNumber] at hsplits ⊢
  split
  · exact ⟨cs, rfl⟩
  · rename_i n rest hn
    rw [hn] at hsplits
    split
    · trivial
    · rename_i cause ht
      simp only [ht] at hsplits
      exact ⟨rest, Eq.symm hsplits⟩

/-- Where no word begins, the one character is blamed. -/
theorem blames_readWord (c : Char) (cs : List Char) : (readWord c cs).Blames (c :: cs) := by
  unfold readWord
  split
  · trivial
  · split
    · trivial
    · exact ⟨cs, rfl⟩

/-- So whatever is wrong, the blame lies on characters that come next. -/
theorem blames_readToken [PatternLanguage] (c : Char) (cs : List Char) :
    (readToken c cs).Blames (c :: cs) := by
  refine readToken_cases (P := fun c cs r => r.Blames (c :: cs)) ?_ ?_ ?_ ?_ c cs
  · exact fun c t cs _ => trivial
  · exact fun d u token cs _ => blames_readDelimited d u token cs
  · exact fun c cs => (blames_readNumber c cs).closed (splits_readNumber c cs)
  · exact fun c cs => (blames_readWord c cs).closed (splits_readWord c cs)

/-- The text where nothing can be read is the gap, what is blamed, and something behind it. -/
theorem Fails.exists_append [PatternLanguage] {cs gap blamed : List Char}
    {cause : SyntaxError.Cause}
    (h : Fails cs gap blamed cause) : ∃ after, cs = gap ++ blamed ++ after := by
  obtain ⟨x, xs, taken, left, hgap, hread⟩ := h
  have hblames := blames_readToken x xs
  rw [hread] at hblames
  obtain ⟨after, hafter⟩ := hblames
  exact ⟨after, by rw [eq_append_of_splitTrivia hgap, hafter, List.append_assoc]⟩

/-! ## What was read before an error

The text before an error is cut into the same pieces, so it is read as the tokens that came before
the error.
-/

/-- The first readings of a text are its pieces, one by one. -/
theorem Cuts.readings [PatternLanguage] {cs rest : List Char} {ps : List Piece}
    (h : Cuts cs ps rest) (k n : Nat) : Cursor.readings (ps.length + n) ⟨k, cs⟩ =
      (Piece.lexemes k ps).map (fun l => .ok (some l)) ++
        Cursor.readings n ⟨k + byteLength (Piece.texts ps), rest⟩ := by
  induction h generalizing k with
  | nil => simp [Piece.lexemes]
  | @cons cs gap xs w left ps rest x t hgap hread _ ih =>
    have hnext := Cursor.next_of_readToken hgap hread k
    have hlength : (⟨gap, w, t⟩ :: ps : List Piece).length + n = ps.length + n + 1 := by
      simp only [List.length_cons]
      omega
    rw [hlength, Cursor.readings, hnext, ih]
    simp [Piece.lexemes, Piece.text, Nat.add_assoc]

theorem length_lexemes (k : Nat) (ps : List Piece) : (Piece.lexemes k ps).length = ps.length := by
  induction ps generalizing k with
  | nil => rfl
  | cons p ps ih => simp [Piece.lexemes, ih]

variable [PatternLanguage]

/-- The text before an error has the tokens that were read before it. -/
theorem Cuts.lexemes_before {cs rest gap blamed : List Char} {ps : List Piece}
    {cause : SyntaxError.Cause} (h : Cuts cs ps rest) (hfails : Fails rest gap blamed cause)
    (k : Nat) : Cursor.lexemes ⟨k, Piece.texts ps ++ gap⟩ = .ok (Piece.lexemes k ps) := by
  obtain ⟨x, xs, taken, left, hgap, -⟩ := hfails
  have hexhausted : Exhausted gap := by
    have := splitTrivia_gap false rest
    rw [hgap] at this
    exact congrArg Prod.snd this
  rw [eq_append_of_splitTrivia hgap] at h
  exact Cursor.lexemes_cut_off h hexhausted k

/-- The lexemes of a text tile it. -/
theorem tiles_of_tokenize {text : String} {ls : List Lexeme} (h : tokenize text = .ok ls) :
    Tiles 0 text.toList ls := by
  obtain ⟨ps, rest, hcuts, hrest, rfl⟩ := Cursor.lexemes_eq_ok_iff.1 h
  exact hcuts.tiles hrest 0

/-- An error covers a part of the text, and the text before that part has the lexemes that were read
    before the error. -/
theorem exists_before_of_tokenize_eq_error {text : String} {e : SyntaxError}
    (h : tokenize text = .error e) : ∃ before blamed after ls,
      text.toList = before ++ blamed ++ after ∧
      e.span = ⟨byteLength before, byteLength (before ++ blamed)⟩ ∧
      tokenize (String.ofList before) = .ok ls ∧
      Cursor.readings (ls.length + 1) ⟨0, text.toList⟩ =
        ls.map (fun l => .ok (some l)) ++ [.error e] := by
  obtain ⟨ps, rest, gap, blamed, hcuts, hfails, hspan⟩ := Cursor.exists_fails_of_lexemes_eq_error h
  obtain ⟨after, hrest⟩ := hfails.exists_append
  refine ⟨Piece.texts ps ++ gap, blamed, after, Piece.lexemes 0 ps, ?_, ?_, ?_, ?_⟩
  · rw [hcuts.eq_append, hrest]
    simp
  · simpa using hspan
  · rw [tokenize, String.toList_ofList]
    exact hcuts.lexemes_before hfails 0
  · have hnext := Cursor.next_of_fails hfails (0 + byteLength (Piece.texts ps))
    have hlast : (Cursor.mk (0 + byteLength (Piece.texts ps)) rest).next.1 = .error e := by
      rw [hnext]
      cases e
      simp_all
    rw [length_lexemes, hcuts.readings 0 1]
    simp only [Cursor.readings, hlast]

/-- **Tiling**: the lexemes of a text are not empty, begin and end with characters of it, stand one
    behind another, and tile it with the gaps between them.  If the text cannot be read, the error
    covers a part of it, and the text before that part has the lexemes that were read before. -/
theorem tokenize_tiles (text : String) :
    match tokenize text with
    | .ok ls =>
      (∀ l ∈ ls, l.span.start < l.span.stop ∧ IsBoundary text.toList l.span.start ∧
        IsBoundary text.toList l.span.stop) ∧
      ls.Pairwise (fun l m => l.span.stop ≤ m.span.start) ∧
      Tiles 0 text.toList ls
    | .error e =>
      ∃ before blamed after ls, text.toList = before ++ blamed ++ after ∧
        e.span = ⟨byteLength before, byteLength (before ++ blamed)⟩ ∧
        tokenize (String.ofList before) = .ok ls ∧
        Cursor.readings (ls.length + 1) ⟨0, text.toList⟩ =
          ls.map (fun l => .ok (some l)) ++ [.error e] := by
  split
  · rename_i ls hls
    have htiles := tiles_of_tokenize hls
    exact ⟨fun l hl => htiles.bounds hl, htiles.pairwise, htiles⟩
  · rename_i e he
    exact exists_before_of_tokenize_eq_error he

end TypeExpr
