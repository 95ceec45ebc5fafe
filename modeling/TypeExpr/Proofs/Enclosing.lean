import TypeExpr.Proofs.Composition

/-!
# Texts in brackets

A text that is read as an expression and does not end inside a comment can be closed off on its last
line: with a bracket right behind it its lexemes are what they were, and then there is the bracket
(`lexemes_closed`).  If it does end inside a comment, the bracket is not read at all
(`EndsInComment.tokenize_append`).

What stands before the text matters in one way only, by the state that reading has come to there
(`Enters`): behind an open bracket the expression becomes the last argument of what the bracket
makes, moved behind what stands before it (`Node.ofText_enclosed`).

Why a text is closed off by a bracket needs a word.  The bracket delimits the last word of the text,
and does not go on with it; it can neither end nor begin a comment; and no token of the text can
have been changed by it, since a token that is not the last one does not see what stands behind the
text.  What remains is the gap at the end, and that is where the condition comes from.
-/

namespace TypeExpr

open Text (byteLength isBlank splitTrivia Gap)

/-! ## Gaps before other text

Behind the last token of a text stands a gap.  Either no comment is open at its end, and then
anything may follow; or a comment is, and then nothing that follows on the same line is seen.
-/

/-- The text ends inside a comment: a line that is not over has a comment on it, and what stands
    before the comment can be read. -/
def EndsInComment [PatternLanguage] (text : String) : Prop :=
  ∃ before comment, text.toList = before ++ '#' :: comment ∧ '\n' ∉ comment ∧
    ∃ ls, tokenize (String.ofList before) = .ok ls

namespace Text

/-- A comment that is not over takes all that follows it. -/
theorem splitTrivia_comment {body : List Char} (h : '\n' ∉ body) :
    (splitTrivia true body).2 = [] := by
  induction body with
  | nil => rfl
  | cons c cs ih =>
    rw [List.mem_cons, not_or] at h
    have hc : (c != '\n') = true := bne_iff_ne.2 (Ne.symm h.1)
    simpa [splitTrivia, hc] using ih h.2

/-- A comment goes on with all that is put behind it on its line. -/
theorem splitTrivia_append_comment {inComment : Bool} {cs : List Char}
    (h : (splitTrivia inComment cs).2 = []) {body : List Char} (hbody : '\n' ∉ body) :
    (splitTrivia inComment (cs ++ '#' :: body)).2 = [] := by
  have hmark : isBlank '#' = false := by decide
  fun_induction splitTrivia inComment cs with
  | case1 inComment => cases inComment <;> simp [splitTrivia, hmark, splitTrivia_comment hbody]
  | case2 c cs ih => simpa [splitTrivia] using ih h
  | case3 inComment c cs hcomment hblank ih => simpa [splitTrivia, hcomment, hblank] using ih h
  | case4 inComment cs hcomment hblank ih => simpa [splitTrivia, hcomment, hblank] using ih h
  | case5 => cases h

/-- A gap in which no comment is left open is passed over in front of anything. -/
theorem Gap.splitTrivia_append {gap : List Char} (h : Gap false gap) (more : List Char) :
    splitTrivia false (gap ++ more) =
      (gap ++ (splitTrivia false more).1, (splitTrivia false more).2) := by
  induction h with
  | nil => rfl
  | blank hblank _ ih => simp [splitTrivia, hblank, ih]
  | @comment body cs hbody _ ih =>
    have hmark : isBlank '#' = false := by decide
    -- the line feed of the comment is in the gap, so nothing behind the gap belongs to the comment
    have hcomment : (splitTrivia false ('#' :: body)).2 = [] := by
      simpa [splitTrivia, hmark] using splitTrivia_comment hbody
    have hassoc : '#' :: body ++ '\n' :: cs ++ more = ('#' :: body) ++ '\n' :: (cs ++ more) := by
      simp
    rw [hassoc, splitTrivia_line hcomment, ih]
    simp
  | lastComment hlast _ => cases hlast

/-- A gap at the end of a text leaves no comment open, or it is one that does not and a comment. -/
theorem Gap.closed_or_comment {gap : List Char} (h : Gap true gap) :
    Gap false gap ∨ ∃ before comment, gap = before ++ '#' :: comment ∧ '\n' ∉ comment ∧
      Gap false before := by
  induction h with
  | nil => exact .inl .nil
  | @blank c cs hblank _ ih =>
    rcases ih with ih | ⟨before, comment, rfl, hcomment, hbefore⟩
    · exact .inl (.blank hblank ih)
    · exact .inr ⟨c :: before, comment, rfl, hcomment, .blank hblank hbefore⟩
  | @comment body cs hbody _ ih =>
    rcases ih with ih | ⟨before, comment, rfl, hcomment, hbefore⟩
    · exact .inl (.comment hbody ih)
    · exact .inr ⟨'#' :: body ++ '\n' :: before, comment, by simp, hcomment,
        .comment hbody hbefore⟩
  | @lastComment body _ hbody => exact .inr ⟨[], body, rfl, hbody, .nil⟩

end Text

/-- What stands behind a text that ends inside a comment, on the same line, is not read. -/
theorem EndsInComment.tokenize_append [PatternLanguage] {text : String} (h : EndsInComment text)
    {more : String} (hmore : '\n' ∉ more.toList) : tokenize (text ++ more) = tokenize text := by
  obtain ⟨before, comment, htext, hcomment, ls, hls⟩ := h
  rw [tokenize, String.toList_ofList] at hls
  obtain ⟨ps, rest, hcuts, hrest, rfl⟩ := Cursor.lexemes_eq_ok_iff.1 hls
  have hdelimits : runsOn '#' = false := by decide +kernel
  have hread {body : List Char} (hbody : '\n' ∉ body) :
      Cursor.lexemes ⟨0, before ++ '#' :: body⟩ = .ok (Piece.lexemes 0 ps) :=
    Cursor.lexemes_of_exhausted (hcuts.append (delimits_cons hdelimits))
      (Text.splitTrivia_append_comment hrest hbody) 0
  have hwhole : (text ++ more).toList = before ++ '#' :: (comment ++ more.toList) := by
    simp [htext]
  rw [tokenize, tokenize, hwhole, htext, hread hcomment, hread (by simp [hcomment, hmore])]

/-- Behind the pieces of a text that does not end inside a comment, no comment is left open. -/
theorem gap_of_not_endsInComment [PatternLanguage] {text : String} {ps : List Piece}
    {rest : List Char}
    (hcuts : Cuts text.toList ps rest) (hrest : Exhausted rest) (hend : ¬EndsInComment text) :
    Gap false rest := by
  have hgap : Gap true rest := Text.gap_of_splitTrivia (splitTrivia_of_exhausted hrest)
  refine hgap.closed_or_comment.resolve_right ?_
  rintro ⟨before, comment, rfl, hcomment, hbefore⟩
  -- up to the comment the text can be read
  have hexhausted : Exhausted before := by
    have := hbefore.splitTrivia_append []
    rw [List.append_nil] at this
    exact congrArg Prod.snd this
  refine hend ⟨Piece.texts ps ++ before, comment, ?_, hcomment, Piece.lexemes 0 ps, ?_⟩
  · rw [hcuts.eq_append, List.append_assoc]
  · rw [tokenize, String.toList_ofList]
    exact Cursor.lexemes_cut_off hcuts hexhausted 0

/-- **Closing**: with a bracket right behind it a text is read as it was, and then the bracket. -/
theorem lexemes_closed [PatternLanguage] {text : String} {ls : List Lexeme}
    (h : tokenize text = .ok ls) (hend : ¬EndsInComment text) (offset : Nat) :
    ∃ closing, Cursor.lexemes ⟨offset, text.toList ++ [']']⟩ =
      .ok (ls.map (Lexeme.shift offset) ++ [⟨.closeBracket, closing⟩]) := by
  obtain ⟨ps, rest, hcuts, hrest, rfl⟩ := Cursor.lexemes_eq_ok_iff.1 h
  have hgap := gap_of_not_endsInComment hcuts hrest hend
  have hbracket : Cuts (rest ++ [']']) [⟨rest, [']'], .closeBracket⟩] [] := by
    refine .cons ?_ (rfl : readToken ']' [] = .token .closeBracket [']'] []) (.nil _)
    rw [hgap.splitTrivia_append]
    simp [splitTrivia, (by decide : isBlank ']' = false)]
  rw [Cursor.lexemes_of_cuts (hcuts.append (delimits_mark (by simp))),
    Cursor.lexemes_of_exhausted hbracket rfl, Piece.lexemes_shift]
  exact ⟨_, rfl⟩

/-! ## What stands before

The characters in front lead to a state whatever comes behind them, so the text in brackets is read
from that state.
-/

open Node (State Frame)

/-- However a text goes on that begins with the characters, reading them comes to the state. -/
def Enters [PatternLanguage] (front : List Char) (s : State) : Prop :=
  ∃ ls, (∀ more, Cursor.lexemes ⟨0, front ++ more⟩ =
      (Cursor.lexemes ⟨byteLength front, more⟩).map (ls ++ ·)) ∧
    (State.wanting []).run ls = .ok s

theorem enters_nil [PatternLanguage] : Enters [] (.wanting []) := by
  refine ⟨[], fun more => ?_, rfl⟩
  cases h : Cursor.lexemes ⟨0, more⟩ <;> simp [h, Except.map]

section Enters

variable {front w : List Char} {s : State} {t : Token}

variable [PatternLanguage]

/-- A blank makes no difference to the state. -/
theorem Enters.space (h : Enters front s) : Enters (front ++ [' ']) s := by
  obtain ⟨ls, hls, hrun⟩ := h
  refine ⟨ls, fun more => ?_, hrun⟩
  have hsize : ' '.utf8Size = 1 := by decide
  rw [List.append_assoc, hls, List.singleton_append, Cursor.lexemes_space]
  simp [hsize]

/-- A word with a mark behind it is read in front of anything. -/
theorem lexemes_marked {c : Char} {m : Token} (hw : Spells w t) (hc : c = '[' ∨ c = ',')
    (hm : ∀ cs, readToken c cs = .token m [c] cs) (offset : Nat) :
    ∃ a b, ∀ more, Cursor.lexemes ⟨offset, w ++ c :: more⟩ =
      (Cursor.lexemes ⟨offset + byteLength (w ++ [c]), more⟩).map ([⟨t, a⟩, ⟨m, b⟩] ++ ·) := by
  have hmark : isBlank c = false ∧ c ≠ '#' := by
    rcases hc with rfl | rfl <;> decide
  refine ⟨⟨offset, offset + byteLength w⟩,
    ⟨offset + byteLength w, offset + byteLength w + byteLength [c]⟩, fun more => ?_⟩
  have hdelimits : Delimits (c :: more) := delimits_mark (by tauto)
  rw [hw.lexemes_append offset hdelimits,
    Cursor.lexemes_of_readToken hmark.1 hmark.2 (hm more), Text.byteLength_append, Nat.add_assoc]
  cases Cursor.lexemes ⟨offset + (byteLength w + byteLength [c]), more⟩ <;> simp [Except.map]

/-- A word and a mark lead to where their tokens lead. -/
theorem Enters.marked {c : Char} {m : Token} (h : Enters front s) (hw : Spells w t)
    (hc : c = '[' ∨ c = ',') (hm : ∀ cs, readToken c cs = .token m [c] cs) :
    ∃ a b, ∀ s', s.run [⟨t, a⟩, ⟨m, b⟩] = .ok s' → Enters (front ++ w ++ [c]) s' := by
  obtain ⟨ls, hls, hrun⟩ := h
  obtain ⟨a, b, hread⟩ := lexemes_marked hw hc hm (byteLength front)
  refine ⟨a, b, fun s' hs' => ⟨ls ++ [⟨t, a⟩, ⟨m, b⟩], fun more => ?_, ?_⟩⟩
  · have htext : front ++ w ++ [c] ++ more = front ++ (w ++ c :: more) := by simp
    rw [htext, hls, hread, List.append_assoc front, Text.byteLength_append front]
    cases Cursor.lexemes ⟨byteLength front + byteLength (w ++ [c]), more⟩ <;> simp [Except.map]
  · rw [State.run_append_of_run hrun]
    exact hs'

/-- A word and a bracket at the beginning open the bracket behind the word. -/
theorem enters_bracket {l : Leaf} (hw : Spells w t) (ht : t.Means l) :
    ∃ a opened, Enters (w ++ ['[']) (.wanting [⟨some (.leaf l a), opened, []⟩]) := by
  obtain ⟨a, b, henters⟩ := enters_nil.marked hw (.inl rfl) (m := .openBracket) fun _ => rfl
  refine ⟨a, b, henters _ ?_⟩
  rw [State.run_cons_of_feed (State.feed_eq_ok_iff.2 (.value ht))]
  exact State.run_cons_of_feed (State.feed_eq_ok_iff.2 (.access (by decide))) []

/-- A word and a comma in a bracket put the word into it. -/
theorem Enters.listed {f : Frame} {fs : List Frame} {l : Leaf}
    (h : Enters front (.wanting (f :: fs))) (hw : Spells w t) (ht : t.Means l) :
    ∃ a, Enters (front ++ w ++ [',']) (.wanting (f.push (.leaf l a) :: fs)) := by
  obtain ⟨a, b, henters⟩ := h.marked hw (.inr rfl) (m := .comma) fun _ => rfl
  refine ⟨a, henters _ ?_⟩
  rw [State.run_cons_of_feed (State.feed_eq_ok_iff.2 (.value ht))]
  exact State.run_cons_of_feed (State.feed_eq_ok_iff.2 .comma) []

end Enters

/-! ## What stands in a bracket

Inside a bracket an expression is read as it is at the beginning, if one more bracket may be open,
and moved by the bytes in front of it.
-/

namespace Node

open Grammar (bracketDepth mostOpen)

/-- An expression that was read leads, inside one more bracket, to the state that holds it. -/
theorem run_of_ofText [PatternLanguage] {text : String} {root : Node Span}
    (h : ofText text = .ok (some root))
    (hdepth : OpensAtMost 255 text) : ∃ ls, tokenize text = .ok ls ∧ ∀ (k : Nat) (f : Frame),
      (State.wanting [f]).run (ls.map (Lexeme.shift k)) = .ok (.holding (root.shift k) [f]) := by
  obtain ⟨ls, hls, hread⟩ := ofText_eq_ok_iff.1 h
  have hderives := (ofLexemes_eq_ok_iff_derives.1 hread).1
  have hopens := (specification_of_ofLexemes hread).1.opens
  refine ⟨ls, hls, fun k f => (hderives.shift k).run [f] ?_⟩
  have hmost : mostOpen 1 (ls.map (·.token)) = 1 + bracketDepth (ls.map (·.token)) :=
    (hopens _ rfl).2 1
  have hle := (opensAtMost_iff (tokens?_eq_some_iff.2 ⟨ls, hls, rfl⟩)).1 hdepth
  show mostOpen 1 ((ls.map (Lexeme.shift k)).map (·.token)) ≤ 256
  rw [map_token_shift]
  omega

/-- **Enclosing**: behind an open bracket and in front of a closing one a text is read as the last
    argument of what stands before the bracket. -/
theorem ofText_enclosed [PatternLanguage] {front text : String} {target root : Node Span}
    {opened : Span} {items : List (Node Span)}
    (hfront : Enters front.toList (.wanting [⟨some target, opened, items⟩]))
    (h : ofText text = .ok (some root)) (hend : ¬EndsInComment text)
    (hdepth : OpensAtMost 255 text) : ∃ a, ofText (front ++ text ++ "]") =
      .ok (some (.access target (items.reverse ++ [root.shift (byteLength front.toList)]) a)) := by
  obtain ⟨fronts, hfronts, henter⟩ := hfront
  obtain ⟨ls, hls, hrun⟩ := run_of_ofText h hdepth
  obtain ⟨closing, hclosed⟩ := lexemes_closed hls hend (byteLength front.toList)
  have htext : (front ++ text ++ "]").toList = front.toList ++ (text.toList ++ [']']) := by simp
  have htokenize := hfronts (text.toList ++ [']'])
  rw [hclosed, ← htext] at htokenize
  refine ⟨target.note.merge closing, ofText_eq_ok_iff.2 ⟨_, htokenize, ofLexemes_eq_ok_iff.2 ?_⟩⟩
  rw [State.run_append_of_run henter, State.run_append_of_run (hrun _ _)]
  refine (State.run_cons_of_feed (State.feed_eq_ok_iff.2 .closingBehind) []).trans ?_
  simp [State.run, Frame.push, Frame.close, pure, Except.pure]

end Node

end TypeExpr
