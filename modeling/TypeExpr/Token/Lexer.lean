import TypeExpr.Text.Alphanumeric
import TypeExpr.Text.Bytes
import TypeExpr.Text.Trivia
import TypeExpr.Token.Basic
import TypeExpr.Token.Delimited
import TypeExpr.Token.Numeral
import TypeExpr.Token.Word

/-!
# From text to tokens

A cursor is a place in a text: the bytes before it and the characters after it.  `Cursor.next`
reads the token at a cursor, or says what is wrong there, and gives the cursor at which reading can
go on in either case.  `tokenize` reads a whole text.

Between tokens stand blanks and comments, which run from `#` to the end of the line.  A word or a
number has to end where something else can begin: a letter, a digit, an underscore, a hyphen, a
point or a colon right after it spoils it.

What is read at a place depends on the characters from there on and on nothing before it.  Each kind
of token has a reader that says what it takes and what it leaves (`Reading`), whether or not what it
takes is a token; the cursor is moved by what was taken, in one place.  A token takes something in
any case (`splits_readToken`), and that is why reading a text comes to an end.
-/

namespace TypeExpr

open Text (byteLength isAlphanumeric splitTrivia splitTrivia_append)

/-- A place in a text: how many bytes come before it, and the characters after it. -/
structure Cursor where
  offset : Nat
  rest : List Char
  deriving DecidableEq

/-- The cursor behind characters that have been read. -/
def Cursor.advance (c : Cursor) (taken rest : List Char) : Cursor :=
  ⟨c.offset + byteLength taken, rest⟩

/-! ## Blanks and comments -/

/-- The cursor behind blanks and comments. -/
def Cursor.skipTrivia (c : Cursor) : Cursor :=
  c.advance (splitTrivia false c.rest).1 (splitTrivia false c.rest).2

/-! ## One token -/

/-- What reading at the front of a text gives: a token or a cause, with the characters the cause is
    blamed on, and in either case the characters taken and those left. -/
inductive Reading where
  | token (value : Token) (taken rest : List Char)
  | failure (cause : SyntaxError.Cause) (blamed taken rest : List Char)

/-- A character that cannot follow a word or a number. -/
def runsOn (c : Char) : Bool := isAlphanumeric c || c == '_' || c == '-' || c == '.' || c == ':'

/-- A word or a number, provided that it ends where something else can begin. -/
def Reading.closed : Reading → Reading
  | .token t taken (c :: rest) =>
    if runsOn c then .failure .malformedWord (taken ++ [c]) taken (c :: rest)
    else .token t taken (c :: rest)
  | r => r

/-- The literal that the mark of `d` opens in front of `cs`.  An unterminated one is blamed on all
    that follows; then only the mark is taken. -/
def readDelimited (d : Delimiter) (unterminated : SyntaxError.Cause)
    (token : List Char → Except SyntaxError.Cause Token) (cs : List Char) : Reading :=
  match d.close? cs with
  | none => .failure unterminated (d.mark :: cs) [d.mark] cs
  | some r => match token r.value with
    | .ok t => .token t (d.mark :: r.spelling) r.rest
    | .error cause =>
      .failure cause (d.mark :: r.spelling) (d.mark :: r.spelling) r.rest

section

variable [PatternLanguage]

/-- A pattern, if it is one. -/
def regexToken (pattern : List Char) : Except SyntaxError.Cause Token :=
  if PatternLanguage.compiles pattern then .ok (.regex (String.ofList pattern))
  else .error (.invalidRegex (String.ofList pattern))

/-- The number at the front of a text that begins with a digit or a minus sign. -/
def readNumber (cs : List Char) : Reading :=
  let negative := cs.head? == some '-'
  let sign := if negative then ['-'] else []
  match Numeral.split? (if negative then cs.tail else cs) with
  | none => .failure .numberExpected (cs.take 1) [] cs
  | some (n, rest) => match n.token negative with
    | .ok t => .token t (sign ++ n.spelling) rest
    | .error cause => .failure cause (sign ++ n.spelling) (sign ++ n.spelling) rest

/-- The word at the front of the text `c :: cs`. -/
def readWord (c : Char) (cs : List Char) : Reading :=
  match WordKind.reference.split? (c :: cs) with
  | some (w, rest) => .token (.reference (String.ofList w)) w rest
  | none => match WordKind.name.split? (c :: cs) with
    | some (w, rest) => .token (.name (String.ofList w)) w rest
    | none => .failure (.unexpectedCharacter c) [c] [] (c :: cs)

/-- The token at the front of the text `c :: cs`. -/
def readToken (c : Char) (cs : List Char) : Reading :=
  if c = '[' then .token .openBracket [c] cs
  else if c = ']' then .token .closeBracket [c] cs
  else if c = ',' then .token .comma [c] cs
  else if c = '\'' then
    readDelimited .apostrophe .unterminatedString (fun v => .ok (.string (String.ofList v))) cs
  else if c = '"' then
    readDelimited .doubleQuote .unterminatedString (fun v => .ok (.string (String.ofList v))) cs
  else if c = '/' then readDelimited .slash .unterminatedRegex regexToken cs
  else if isDigit c || c == '-' then (readNumber (c :: cs)).closed
  else (readWord c cs).closed

/-! ## The kinds of tokens -/

/-- The characters that are tokens by themselves. -/
inductive IsMark : Char → Token → Prop where
  | openBracket : IsMark '[' .openBracket
  | closeBracket : IsMark ']' .closeBracket
  | comma : IsMark ',' .comma

/-- A closed string is a token, whatever is in it. -/
def stringToken (value : List Char) : Except SyntaxError.Cause Token :=
  .ok (.string (String.ofList value))

/-- The kinds of literals: what is wrong with one that is not closed, and the token that one is. -/
inductive Delimiter.Opens : Delimiter → SyntaxError.Cause →
    (List Char → Except SyntaxError.Cause Token) → Prop where
  | apostrophe : Opens .apostrophe .unterminatedString stringToken
  | doubleQuote : Opens .doubleQuote .unterminatedString stringToken
  | slash : Opens .slash .unterminatedRegex regexToken

/-- A mark is read as its token, whatever follows. -/
theorem IsMark.readToken_eq {c : Char} {t : Token} (h : IsMark c t) (cs : List Char) :
    readToken c cs = .token t [c] cs := by
  cases h <;> rfl

/-- Each kind of literal is read in the same way, up to what is wrong with one that is not closed
    and the token it becomes. -/
theorem Delimiter.Opens.readToken_eq {d : Delimiter} {u : SyntaxError.Cause}
    {token : List Char → Except SyntaxError.Cause Token} (h : d.Opens u token) (cs : List Char) :
    readToken d.mark cs = readDelimited d u token cs := by
  cases h <;> rfl

/-- What holds of marks, of literals, of numbers and of words, holds of whatever is read. -/
theorem readToken_cases {P : Char → List Char → Reading → Prop}
    (mark : ∀ c t cs, IsMark c t → P c cs (.token t [c] cs))
    (literal : ∀ d u token cs, Delimiter.Opens d u token → P d.mark cs (readDelimited d u token cs))
    (number : ∀ c cs, P c cs (readNumber (c :: cs)).closed)
    (word : ∀ c cs, P c cs (readWord c cs).closed) (c : Char) (cs : List Char) :
    P c cs (readToken c cs) := by
  -- The branches of the definition: three marks, three kinds of literals, and then numbers and
  -- words.
  unfold readToken
  split
  · rename_i h
    exact h ▸ mark '[' _ cs .openBracket
  split
  · rename_i h
    exact h ▸ mark ']' _ cs .closeBracket
  split
  · rename_i h
    exact h ▸ mark ',' _ cs .comma
  split
  · rename_i h
    exact h ▸ literal .apostrophe _ _ cs .apostrophe
  split
  · rename_i h
    exact h ▸ literal .doubleQuote _ _ cs .doubleQuote
  split
  · rename_i h
    exact h ▸ literal .slash _ _ cs .slash
  split
  · exact number c cs
  · exact word c cs

/-- The token right at a cursor, and the cursor to go on from. -/
def Cursor.read (c : Cursor) : Except SyntaxError (Option Lexeme) × Cursor :=
  match c.rest with
  | [] => (.ok none, c)
  | x :: xs => match readToken x xs with
    | .token t taken rest =>
      (.ok (some ⟨t, ⟨c.offset, c.offset + byteLength taken⟩⟩), c.advance taken rest)
    | .failure cause blamed taken rest =>
      (.error ⟨cause, ⟨c.offset, c.offset + byteLength blamed⟩⟩, c.advance taken rest)

/-- Reads one token: nothing at the end of the text, a lexeme, or an error; and the cursor at which
    the next one is read. -/
def Cursor.next (c : Cursor) : Except SyntaxError (Option Lexeme) × Cursor := c.skipTrivia.read

end

/-! ## Reading makes progress -/

/-- What a reading takes and what it leaves make up the text, and a token takes something. -/
def Reading.Splits (text : List Char) : Reading → Prop
  | .token _ taken rest => taken ++ rest = text ∧ taken ≠ []
  | .failure _ _ taken rest => taken ++ rest = text

/-- A word that is spoiled by what follows it is taken all the same, so the parts still make up the
    text. -/
theorem Reading.Splits.closed {text : List Char} {r : Reading} (h : r.Splits text) :
    r.closed.Splits text := by
  unfold Reading.closed
  split
  · split
    · exact h.1
    · exact h
  · exact h

/-- A literal: if it is not closed, only its mark is taken, and the rest is left. -/
theorem splits_readDelimited (d : Delimiter) (u : SyntaxError.Cause)
    (token : List Char → Except SyntaxError.Cause Token) (cs : List Char) :
    (readDelimited d u token cs).Splits (d.mark :: cs) := by
  unfold readDelimited
  split
  · rfl
  · rename_i r hr
    have happ := Delimiter.close?_append hr
    split
    · exact ⟨by simp [happ], by simp⟩
    · show d.mark :: r.spelling ++ r.rest = d.mark :: cs
      simp [happ]

/-- A number: nothing is taken if no digit follows the sign. -/
theorem splits_readNumber (c : Char) (cs : List Char) :
    (readNumber (c :: cs)).Splits (c :: cs) := by
  unfold readNumber
  -- The numeral begins behind the sign if there is one.  A failure over the numeral takes it
  -- together with the sign; without a numeral nothing is taken.
  by_cases hc : c = '-'
  · simp only [hc, List.head?_cons, beq_self_eq_true, if_true, List.tail_cons]
    split
    · rfl
    · rename_i n rest hn
      have happ := Numeral.split?_append hn
      split
      · exact ⟨by simp [happ.1], by simp⟩
      · show ['-'] ++ n.spelling ++ rest = '-' :: cs
        simp [happ.1]
  · have hne : (List.head? (c :: cs) == some '-') = false := by simp [hc]
    simp only [hne, Bool.false_eq_true, if_false, List.nil_append]
    split
    · rfl
    · rename_i n rest hn
      have happ := Numeral.split?_append hn
      split
      · exact happ
      · exact happ.1

/-- A word: nothing is taken if none begins here. -/
theorem splits_readWord (c : Char) (cs : List Char) : (readWord c cs).Splits (c :: cs) := by
  unfold readWord
  split
  · rename_i w rest hw
    exact WordKind.split?_append hw
  · split
    · rename_i w rest hw
      exact WordKind.split?_append hw
    · rfl

variable [PatternLanguage]

/-- Whatever is read, what is taken and what is left make up the text. -/
theorem splits_readToken (c : Char) (cs : List Char) : (readToken c cs).Splits (c :: cs) := by
  refine readToken_cases (P := fun c cs r => r.Splits (c :: cs)) ?_ ?_ ?_ ?_ c cs
  · exact fun c t cs _ => ⟨rfl, by simp⟩
  · exact fun d u token cs _ => splits_readDelimited d u token cs
  · exact fun c cs => (splits_readNumber c cs).closed
  · exact fun c cs => (splits_readWord c cs).closed

/-- Reading a token leaves less than there was. -/
theorem Cursor.read_length {c c' : Cursor} {t : Lexeme} (h : c.read = (.ok (some t), c')) :
    c'.rest.length < c.rest.length := by
  unfold Cursor.read at h
  split at h
  · simp at h
  · rename_i x xs hx
    have hsplit := splits_readToken x xs
    split at h
    · rename_i t' taken rest hr
      rw [hr] at hsplit
      have hlen := congrArg List.length hsplit.1
      have hne := List.length_pos_iff.2 hsplit.2
      simp only [Prod.mk.injEq] at h
      have hrest : c'.rest = rest := by rw [← h.2]; rfl
      rw [hrest, hx]
      simp only [List.length_append] at hlen
      omega
    · simp at h

/-- After a token there is less to read. -/
theorem Cursor.next_length {c c' : Cursor} {t : Lexeme} (h : c.next = (.ok (some t), c')) :
    c'.rest.length < c.rest.length := by
  have hskip := congrArg List.length (splitTrivia_append false c.rest)
  have hread : c'.rest.length < (splitTrivia false c.rest).2.length := Cursor.read_length h
  simp only [List.length_append] at hskip
  omega

/-! ## A whole text -/

/-- The tokens from a cursor to the end of the text. -/
def Cursor.lexemes (c : Cursor) : Except SyntaxError (List Lexeme) :=
  match _h : c.next with
  | (.error e, _) => .error e
  | (.ok none, _) => .ok []
  | (.ok (some t), c') => c'.lexemes.map (t :: ·)
termination_by c.rest.length
decreasing_by exact Cursor.next_length ‹_›

/-- The tokens of a text. -/
def tokenize (text : String) : Except SyntaxError (List Lexeme) :=
  Cursor.lexemes ⟨0, text.toList⟩

/-- What the first `n` readings from a cursor give, each one going on where the last one left off,
    whether that was a token or not. -/
def Cursor.readings : Nat → Cursor → List (Except SyntaxError (Option Lexeme))
  | 0, _ => []
  | n + 1, c => c.next.1 :: Cursor.readings n c.next.2

end TypeExpr
