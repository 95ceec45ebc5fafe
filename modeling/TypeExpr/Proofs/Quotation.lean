import TypeExpr.Proofs.Lines
import TypeExpr.Regex.Check

/-!
# Quoted texts in front of others

A quoted text ends at its own closing mark.  Nothing that stands behind it is needed to see where
that is, and nothing can move it: the lexer reads the text back and goes on with exactly what comes
next (`Cursor.next_quote`, one step), so quoted texts written one right after the other are read as
the texts (`tokens?_quotes`, by induction).  That a quoted text ends at its own mark also makes the
quoted forms a prefix code (`quote_append_inj`), and a list of texts can be told from their quoted
forms run together (`join_quotes_injective`).
-/

namespace TypeExpr

open Text (byteLength escapeQuoted quote quoteChars)

/-! ## One quoted text

The closing mark ends the token, so nothing that follows has to be known.
-/

/-- **Step**: in front of any text, the next token is the quoted text, and reading goes on behind
    the closing mark. -/
theorem Cursor.next_quote [PatternLanguage] (offset : Nat) (s : String) (rest : List Char) :
    (Cursor.mk offset ((quote s).toList ++ rest)).next =
      (.ok (some ⟨.string s, ⟨offset, offset + byteLength (quote s).toList⟩⟩),
        ⟨offset + byteLength (quote s).toList, rest⟩) := by
  have htext : (quote s).toList = quoteChars s.toList := String.toList_ofList
  have happend : quoteChars s.toList ++ rest =
      '\'' :: (escapeQuoted s.toList ++ '\'' :: rest) := by simp [quoteChars]
  have hread := readToken_quoteChars s.toList rest
  rw [String.ofList_toList] at hread
  rw [htext, happend, Cursor.next_eq_read (by decide) (by decide)]
  simp only [Cursor.read, hread, Cursor.advance]

/-- A quoted text in front of anything is read as the one string, and reading goes on behind it. -/
theorem Cursor.lexemes_quote [PatternLanguage] (offset : Nat) (s : String) (rest : List Char) :
    lexemes ⟨offset, (quote s).toList ++ rest⟩ =
      (lexemes ⟨offset + byteLength (quote s).toList, rest⟩).map
        (⟨.string s, ⟨offset, offset + byteLength (quote s).toList⟩⟩ :: ·) :=
  lexemes_of_next_token (next_quote offset s rest)

/-- **Quoting is undone** in front of any text, wherever it stands: the first token of a quoted text
    followed by `r` is the text, over the whole of the quoted form, and reading goes on with `r`
    itself.  So the lexemes of the whole are that token and the lexemes of `r`, moved behind the
    quoted form, and what is wrong with the whole is what is wrong with `r`, moved in the same
    way. -/
theorem tokenize_quote_append [PatternLanguage] (s r : String) :
    (∀ offset, (Cursor.mk offset (quote s ++ r).toList).next =
      (.ok (some ⟨.string s, ⟨offset, offset + byteLength (quote s).toList⟩⟩),
        ⟨offset + byteLength (quote s).toList, r.toList⟩)) ∧
    (∀ ls, tokenize r = .ok ls → tokenize (quote s ++ r) =
      .ok (⟨.string s, ⟨0, byteLength (quote s).toList⟩⟩ ::
        ls.map (Lexeme.shift (byteLength (quote s).toList)))) ∧
    (∀ e, tokenize r = .error e →
      tokenize (quote s ++ r) = .error (e.shift (byteLength (quote s).toList))) := by
  -- the rest is read as it is in front, moved behind the quoted text
  have hwhole : tokenize (quote s ++ r) =
      (shiftResult (byteLength (quote s).toList) (tokenize r)).map
        (⟨.string s, ⟨0, byteLength (quote s).toList⟩⟩ :: ·) := by
    rw [tokenize, String.toList_append, Cursor.lexemes_quote, Nat.zero_add, Cursor.lexemes_toList]
  refine ⟨fun offset => ?_, fun ls hls => ?_, fun e he => ?_⟩
  · rw [String.toList_append]
    exact Cursor.next_quote offset s r.toList
  · rw [hwhole, hls]
    rfl
  · rw [hwhole, he]
    rfl

open scoped Program in
example : tokenize (quote "it's\\" ++ "'x") = .error ⟨.unterminatedString, ⟨9, 11⟩⟩ := by
  decide +kernel

/-! ## Several quoted texts

By induction on the texts, each of which is read in front of the others.
-/

/-- **Run**: quoted texts one right after the other are read as the texts, in front of anything. -/
theorem tokens?_quotes [PatternLanguage] (ss : List String) (offset : Nat) (rest : List Char) :
    Cursor.tokens? ⟨offset, (String.join (ss.map quote)).toList ++ rest⟩ =
      (Cursor.tokens? ⟨offset + byteLength (String.join (ss.map quote)).toList, rest⟩).map
        (ss.map Token.string ++ ·) := by
  induction ss generalizing offset with
  | nil => simp
  | cons s ss ih =>
    have hstep (rest : List Char) : Cursor.tokens? ⟨offset, (quote s).toList ++ rest⟩ =
        (Cursor.tokens? ⟨offset + byteLength (quote s).toList, rest⟩).map (.string s :: ·) := by
      rw [Cursor.tokens?, Cursor.tokens?, Cursor.lexemes_quote]
      cases Cursor.lexemes ⟨offset + byteLength (quote s).toList, rest⟩ <;>
        simp [Except.map, Except.toOption]
    rw [List.map_cons, String.join_cons, String.toList_append, List.append_assoc, hstep, ih,
      Text.byteLength_append, ← Nat.add_assoc, Option.map_map]
    rfl

/-! ## A prefix code

Here nothing is read but the quoted texts, and so it does not matter which patterns there are.
-/

/-- No quoted form is the beginning of another one: the closing mark is found in the same place,
    whatever stands behind it. -/
theorem quote_append_inj {s s' r r' : String} (h : quote s ++ r = quote s' ++ r') :
    s = s' ∧ r = r' := by
  have hchars (s r : String) : (quote s ++ r).toList =
      '\'' :: (escapeQuoted s.toList ++ '\'' :: r.toList) := by
    rw [String.toList_append, quote, String.toList_ofList]
    simp [quoteChars]
  have hclosed := congrArg (fun cs : List Char => Delimiter.apostrophe.close? cs.tail)
    (congrArg String.toList h)
  simp only [hchars, List.tail_cons, close?_escapeQuoted, Option.some.injEq,
    Delimiter.Closed.mk.injEq, String.toList_inj] at hclosed
  exact ⟨hclosed.1, hclosed.2.2⟩

/-- Texts can be told from their quoted forms run together. -/
theorem join_quotes_injective {ss ts : List String}
    (h : String.join (ss.map quote) = String.join (ts.map quote)) : ss = ts := by
  have hne (u : String) (us : List String) : String.join ((u :: us).map quote) ≠ "" := by
    intro hempty
    have hchars := congrArg String.toList hempty
    simp [String.join_cons, quote, quoteChars] at hchars
  -- By induction on the texts: the first quoted text ends where its closing mark is, so it is the
  -- same in both, and so is what follows it.
  induction ss generalizing ts with
  | nil =>
    cases ts with
    | nil => rfl
    | cons t ts => exact absurd h.symm (hne t ts)
  | cons s ss ih =>
    cases ts with
    | nil => exact absurd h (hne s ss)
    | cons t ts =>
      rw [List.map_cons, List.map_cons, String.join_cons, String.join_cons] at h
      obtain ⟨rfl, hrest⟩ := quote_append_inj h
      rw [ih hrest]

end TypeExpr
