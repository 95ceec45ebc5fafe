import TypeExpr.Proofs.Subterms
import TypeExpr.Regex.Check

/-!
# Texts line by line

A line feed takes a text apart.  A comment before it is over there, a word before it is delimited,
and strings and patterns are closed already if the text before it can be read at all.  So a text
that can be read, a line feed and more text are read as the tokens of the one and then those of the
other (`Cursor.lexemes_line`), and what is behind the line feed is read as it is by itself, moved by
what stands before it (`Cursor.lexemes_shift`).

Together these say that reading takes line feeds to concatenation of tokens
(`tokenize_append_line`).
-/

namespace TypeExpr

open Text (byteLength isBlank splitTrivia)

/-! ## Reading in another place

Reading knows the offset only to put it into spans.
-/

/-- The error of the same text behind `k` more bytes. -/
def SyntaxError.shift (k : Nat) (e : SyntaxError) : SyntaxError := ⟨e.cause, e.span.shift k⟩

/-- What reading the same text comes to behind `k` more bytes. -/
def shiftResult (k : Nat) : Except SyntaxError (List Lexeme) → Except SyntaxError (List Lexeme)
  | .ok ls => .ok (ls.map (Lexeme.shift k))
  | .error e => .error (e.shift k)

namespace Cursor

/-- **Place**: a text is read the same wherever it stands. -/
theorem lexemes_shift [PatternLanguage] (k offset : Nat) (cs : List Char) :
    lexemes ⟨k + offset, cs⟩ = shiftResult k (lexemes ⟨offset, cs⟩) := by
  obtain ⟨ps, rest, hcuts, hrest | ⟨gap, blamed, cause, hfails⟩⟩ := exists_cuts cs
  · rw [lexemes_of_exhausted hcuts hrest, lexemes_of_exhausted hcuts hrest, shiftResult,
      Piece.lexemes_shift]
  · rw [lexemes_of_fails hcuts hfails, lexemes_of_fails hcuts hfails]
    simp only [shiftResult, SyntaxError.shift, Span.shift, Nat.add_assoc]

/-- Behind `k` bytes a text is read as it is by itself. -/
theorem lexemes_toList [PatternLanguage] (k : Nat) (text : String) :
    lexemes ⟨k, text.toList⟩ = shiftResult k (tokenize text) :=
  lexemes_shift k 0 text.toList

end Cursor

/-! ## A line

A line feed ends a comment, and it delimits a word; so nothing of the first line is open behind it.
-/

/-- A line feed ends the blanks and comments at the end of a text, and is one of them. -/
theorem splitTrivia_line {inComment : Bool} {cs : List Char} (h : (splitTrivia inComment cs).2 = [])
    (more : List Char) : splitTrivia inComment (cs ++ '\n' :: more) =
      (cs ++ '\n' :: (splitTrivia false more).1, (splitTrivia false more).2) := by
  fun_induction splitTrivia inComment cs with
  | case1 inComment =>
    have hblank : isBlank '\n' = true := by decide
    have hstep : splitTrivia inComment ('\n' :: more) =
        (splitTrivia false more).map ('\n' :: ·) id := by
      cases inComment <;> simp [splitTrivia, hblank]
    exact hstep
  | case2 c cs ih => simp [splitTrivia, ih h]
  | case3 inComment c cs hcomment hblank ih => simp [splitTrivia, hcomment, hblank, ih h]
  | case4 inComment cs hcomment hblank ih => simp [splitTrivia, hcomment, hblank, ih h]
  | case5 => cases h

theorem utf8Size_lineFeed : '\n'.utf8Size = 1 := by decide

/-- If no token is left on a line, what comes next comes behind it. -/
theorem Exhausted.next_line [PatternLanguage] {cs : List Char} (h : Exhausted cs) (offset : Nat)
    (more : List Char) : (Cursor.mk offset (cs ++ '\n' :: more)).next =
      (Cursor.mk (offset + byteLength cs + 1) more).next := by
  unfold Cursor.next
  congr 1
  rw [Cursor.skipTrivia_eq (splitTrivia_line h more), Cursor.skipTrivia_eq rfl]
  simp [utf8Size_lineFeed, Nat.add_assoc]

/-- **Line**: a line that can be read is read before what stands on the next ones. -/
theorem Cursor.lexemes_line [PatternLanguage] {offset : Nat} {cs : List Char} {ls : List Lexeme}
    (h : lexemes ⟨offset, cs⟩ = .ok ls) (more : List Char) :
    lexemes ⟨offset, cs ++ '\n' :: more⟩ =
      (lexemes ⟨offset + byteLength cs + 1, more⟩).map (ls ++ ·) := by
  obtain ⟨ps, rest, hcuts, hrest, rfl⟩ := lexemes_eq_ok_iff.1 h
  have hoffset : offset + byteLength (Piece.texts ps) + byteLength rest + 1 =
      offset + byteLength cs + 1 := by
    rw [hcuts.eq_append, Text.byteLength_append]
    omega
  rw [lexemes_of_cuts (hcuts.append (delimits_mark (by simp))),
    lexemes_congr (hrest.next_line _ more), hoffset]

/-! ## Whole texts

The two together: the second text is read behind the first as it is by itself, further on.
-/

/-- **Line by line**: if a text can be read, then with a line feed and a second text behind it it
    can be read exactly if the second text can.  Its lexemes are then those of the first text and
    those of the second one, moved behind the line feed; and if the second text cannot be read, the
    error is that of the second text, moved in the same way. -/
theorem tokenize_append_line [PatternLanguage] (a b : String) (ls : List Lexeme)
    (h : tokenize a = .ok ls) :
    ((∃ ms, tokenize (a ++ "\n" ++ b) = .ok ms) ↔ ∃ ms, tokenize b = .ok ms) ∧
    (∀ ms, tokenize b = .ok ms → tokenize (a ++ "\n" ++ b) =
      .ok (ls ++ ms.map (Lexeme.shift (byteLength a.toList + 1)))) ∧
    (∀ e, tokenize b = .error e → ∃ e', tokenize (a ++ "\n" ++ b) = .error e' ∧
      e'.message = e.message ∧ e'.span = e.span.shift (byteLength a.toList + 1)) := by
  have htext : (a ++ "\n" ++ b).toList = a.toList ++ '\n' :: b.toList := by simp
  -- the whole is read as the first text, and then as the second one, behind the line feed
  have hwhole : tokenize (a ++ "\n" ++ b) =
      (shiftResult (byteLength a.toList + 1) (tokenize b)).map (ls ++ ·) := by
    rw [tokenize, htext, Cursor.lexemes_line h, Nat.zero_add, Cursor.lexemes_toList]
  cases hb : tokenize b with
  | ok ms =>
    rw [hb] at hwhole
    refine ⟨⟨fun _ => ⟨ms, rfl⟩, fun _ => ⟨_, hwhole⟩⟩, ?_, by simp⟩
    rintro _ ⟨⟩
    exact hwhole
  | error e =>
    rw [hb] at hwhole
    refine ⟨⟨?_, by simp⟩, by simp, ?_⟩
    · rintro ⟨ms, hms⟩
      rw [hms] at hwhole
      cases hwhole
    · rintro _ ⟨⟩
      exact ⟨_, hwhole, rfl, rfl⟩

open scoped Program in
/-- The comment at the end of the first line is over on the second one, which begins at offset 7. -/
theorem tokenize_append_line_of_comment :
    tokenize "A # é" = .ok [⟨.reference "A", ⟨0, 1⟩⟩] ∧
    tokenize ("A # é" ++ "\n" ++ "b") = .ok [⟨.reference "A", ⟨0, 1⟩⟩, ⟨.name "b", ⟨7, 8⟩⟩] ∧
    ∃ e, tokenize ("A # é" ++ "\n" ++ "b 'x") = .error e ∧ e.message = "unterminated string" ∧
      e.span = ⟨9, 11⟩ := by
  have h : tokenize "A # é" = .ok [⟨.reference "A", ⟨0, 1⟩⟩] := by decide +kernel
  have hb : tokenize "b" = .ok [⟨.name "b", ⟨0, 1⟩⟩] := by decide +kernel
  have hx : tokenize "b 'x" = .error ⟨.unterminatedString, ⟨2, 4⟩⟩ := by decide +kernel
  obtain ⟨-, hok, -⟩ := tokenize_append_line "A # é" "b" _ h
  obtain ⟨-, -, herror⟩ := tokenize_append_line "A # é" "b 'x" _ h
  exact ⟨h, hok _ hb, herror _ hx⟩

end TypeExpr
