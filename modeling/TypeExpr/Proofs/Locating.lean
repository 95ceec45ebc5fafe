import TypeExpr.Proofs.Tiling
import TypeExpr.Text.Source

/-!
# Lines and columns

An offset is shown as the number of a line and of a column.  One character further the position is
in the next column, or, behind a line feed, at the beginning of the next line
(`endPosition_append_singleton`); so positions come in the order of their offsets
(`position_isBefore`), and no two offsets have the same one.

On the other side stand the lines that a text is taken apart into.  `IsLine` says what a line is and
takes nothing apart: behind which characters it begins, and what it ends with.  Of the line that
begins behind `n` line feeds the number is `n + 1` (`line?_eq_some_iff`), and a character that does
not end its line stands in it, as many characters from the beginning as its column says
(`IsLine.exists_eq_append`).

A carriage return belongs to the end of a line only if a line feed follows it.  By itself it is a
character like any other, with a column of its own (`position_locates_lone_return`); together with a
line feed it ends the line, and neither of the two can be found in the line as it is shown.  These
are the characters that the statement leaves out, and there are no others.

That the lines are those which the program shows is a statement about a list made by recursion
(`line?_eq_some_iff`), and it is the only one in which that recursion is looked at.
-/

namespace TypeExpr.Text

/-! ## Positions come in the order of offsets

One more character leads to a later position, and so do more of them.  This says nothing yet of
lines as they are shown.
-/

/-- The first position is on an earlier line, or in an earlier column of the same line. -/
def Position.IsBefore (p q : Position) : Prop :=
  p.line < q.line ∨ p.line = q.line ∧ p.column < q.column

theorem Position.IsBefore.trans {p q r : Position} (h : p.IsBefore q) (h' : q.IsBefore r) :
    p.IsBefore r := by
  unfold IsBefore at *
  omega

theorem Position.IsBefore.ne {p q : Position} (h : p.IsBefore q) : p ≠ q := by
  rintro rfl
  unfold IsBefore at h
  omega

/-- **Step**: behind one more character. -/
theorem endPosition_append_singleton (cs : List Char) (c : Char) : endPosition (cs ++ [c]) =
    if c = '\n' then ⟨(endPosition cs).line + 1, 1⟩
    else ⟨(endPosition cs).line, (endPosition cs).column + 1⟩ := by
  by_cases hc : c = '\n'
  · subst hc
    simp [endPosition]
  · simp [endPosition, hc]

/-- One character further is a later position, whether it is on the same line or on the next. -/
theorem endPosition_isBefore_singleton (cs : List Char) (c : Char) :
    (endPosition cs).IsBefore (endPosition (cs ++ [c])) := by
  rw [endPosition_append_singleton]
  by_cases hc : c = '\n'
  · rw [if_pos hc]
    exact Or.inl (Nat.lt_succ_self _)
  · rw [if_neg hc]
    exact Or.inr ⟨rfl, Nat.lt_succ_self _⟩

/-- **Run**: behind more characters the position is a later one. -/
theorem endPosition_isBefore_append (cs : List Char) {part : List Char} (h : part ≠ []) :
    (endPosition cs).IsBefore (endPosition (cs ++ part)) := by
  induction part generalizing cs with
  | nil => exact absurd rfl h
  | cons c part ih =>
    have hstep := endPosition_isBefore_singleton cs c
    by_cases hpart : part = []
    · rw [hpart]
      exact hstep
    · have hrest := ih (cs ++ [c]) hpart
      rw [List.append_assoc, List.singleton_append] at hrest
      exact hstep.trans hrest

/-- The text before the offset at which some characters end is these characters. -/
theorem before_append (cs after : List Char) : before (cs ++ after) (byteLength cs) = cs := by
  have hmin : min (byteLength cs) (byteLength (cs ++ after)) = byteLength cs := by
    rw [byteLength_append]
    omega
  simp only [before, hmin, splitBytes_append]

theorem position_append (cs after : List Char) :
    position (cs ++ after) (byteLength cs) = endPosition cs := by
  rw [position, before_append]

/-- **Order**: the position of an earlier offset is an earlier position. -/
theorem position_isBefore {text : List Char} {i j : Nat} (hi : IsBoundary text i)
    (hj : IsBoundary text j) (h : i < j) : (position text i).IsBefore (position text j) := by
  obtain ⟨cs, after, rfl, rfl⟩ := hi
  obtain ⟨ds, after', htext, rfl⟩ := hj
  rcases List.append_eq_append_iff.1 htext with ⟨part, rfl, rfl⟩ | ⟨part, rfl, rfl⟩
  · have hpart : part ≠ [] := by
      rintro rfl
      simp at h
    rw [position_append, htext, position_append]
    exact endPosition_isBefore_append cs hpart
  · rw [byteLength_append] at h
    omega

/-! ## What a line is

A line is said by where it begins and where it ends.  Every place in a text is on just one line,
except the place between a carriage return and its line feed, which are both part of one end of
line.
-/

/-- A line begins behind the characters. -/
def StartsLine (start : List Char) : Prop := start = [] ∨ start.getLast? = some '\n'

/-- What can stand behind a line: a line feed, a carriage return and a line feed, or nothing if the
    line is not empty. -/
inductive EndsLine (line : List Char) : List Char → Prop where
  | text : line ≠ [] → EndsLine line []
  | lineFeed (more : List Char) : line.getLast? ≠ some '\r' → EndsLine line ('\n' :: more)
  | returnFeed (more : List Char) : EndsLine line ('\r' :: '\n' :: more)

/-- The line stands in the text behind the characters `start`. -/
structure IsLine (text start line : List Char) : Prop where
  starts : StartsLine start
  single : '\n' ∉ line
  ends : ∃ rest, text = start ++ (line ++ rest) ∧ EndsLine line rest

/-- Every place in a text is on a line: behind the last line feed before it. -/
theorem exists_startsLine (cs : List Char) :
    ∃ start left, cs = start ++ left ∧ StartsLine start ∧ '\n' ∉ left := by
  by_cases h : '\n' ∈ cs.reverse
  · obtain ⟨as, bs, hcs, has⟩ := List.eq_append_cons_of_mem h
    rw [List.reverse_eq_iff] at hcs
    refine ⟨bs.reverse ++ ['\n'], as.reverse, ?_, Or.inr ?_, ?_⟩
    · rw [hcs]
      simp
    · simp
    · simpa using has
  · exact ⟨[], cs, rfl, Or.inl rfl, by simpa using h⟩

/-- What is left of a text behind the beginning of a line begins with one. -/
theorem StartsLine.exists_isLine {start rest : List Char} (h : StartsLine start) (hne : rest ≠ []) :
    ∃ line, IsLine (start ++ rest) start line := by
  by_cases hfeed : '\n' ∈ rest
  · obtain ⟨body, more, rfl, hbody⟩ := List.eq_append_cons_of_mem hfeed
    by_cases hreturn : body.getLast? = some '\r'
    · obtain ⟨line, rfl⟩ := List.getLast?_eq_some_iff.1 hreturn
      refine ⟨line, h, fun hmem => hbody (List.mem_append_left _ hmem), ?_⟩
      exact ⟨'\r' :: '\n' :: more, by simp, .returnFeed more⟩
    · exact ⟨body, h, hbody, _, rfl, .lineFeed more hreturn⟩
  · exact ⟨rest, h, hfeed, [], by simp, .text hne⟩

/-- The number of the line that a place is on, and the column it is in. -/
theorem endPosition_of_startsLine {start left : List Char} (h : StartsLine start)
    (hleft : '\n' ∉ left) :
    endPosition (start ++ left) = ⟨start.count '\n' + 1, left.length + 1⟩ := by
  have hall : ∀ c ∈ left.reverse, (c != '\n') = true := by
    intro c hc
    rw [List.mem_reverse] at hc
    exact bne_iff_ne.2 (fun heq => hleft (heq ▸ hc))
  -- looking back, the column is counted to the line feed before the line
  have hstop : start.reverse.takeWhile (· != '\n') = [] := by
    rcases h with rfl | h
    · rfl
    · obtain ⟨cs, rfl⟩ := List.getLast?_eq_some_iff.1 h
      simp
  rw [endPosition, List.count_append, List.count_eq_zero.2 hleft, List.reverse_append,
    List.takeWhile_append_of_pos hall, hstop]
  simp

/-- A line reaches to every place on it, other than between a carriage return and the line feed that
    it stands before. -/
theorem IsLine.exists_right {start left rest line : List Char}
    (h : IsLine (start ++ (left ++ rest)) start line) (hleft : '\n' ∉ left)
    (hreturn : left.getLast? = some '\r' → rest.head? ≠ some '\n') :
    ∃ right more, line = left ++ right ∧ rest = right ++ more ∧ EndsLine line more := by
  obtain ⟨more, htext, hends⟩ := h.ends
  rcases List.append_eq_append_iff.1 (List.append_cancel_left htext) with
    ⟨right, hline, hrest⟩ | ⟨part, hpart, hmore⟩
  · exact ⟨right, more, hline, hrest, hends⟩
  · -- then the line ends with what is left of the place, or before
    rcases part with _ | ⟨d, part⟩
    · rw [List.append_nil] at hpart
      exact ⟨[], more, by rw [List.append_nil, hpart], hmore.symm, hends⟩
    · have hd : d ≠ '\n' := fun heq => hleft (by simp [hpart, heq])
      cases hends with
      | text => cases hmore
      | lineFeed more =>
        cases hmore
        exact absurd rfl hd
      | returnFeed more =>
        rcases part with _ | ⟨e, part⟩
        · cases hmore
          exact absurd rfl (hreturn (by rw [hpart, List.getLast?_append]; rfl))
        · cases hmore
          exact absurd (by simp [hpart]) hleft

/-- A character that does not end the line it is on stands in that line. -/
theorem IsLine.exists_eq_append {start left after line : List Char} {c : Char}
    (h : IsLine (start ++ (left ++ c :: after)) start line) (hleft : '\n' ∉ left)
    (hc : c ≠ '\n') (hreturn : ¬(c = '\r' ∧ after.head? = some '\n')) :
    ∃ right, line = left ++ c :: right := by
  obtain ⟨_ | ⟨d, right⟩, more, hline, hrest, hends⟩ :=
    h.exists_right hleft (fun _ heq => hc (Option.some.inj heq))
  · cases hrest
    cases hends with
    | lineFeed => exact absurd rfl hc
    | returnFeed => exact absurd ⟨rfl, rfl⟩ hreturn
  · cases hrest
    exact ⟨right, hline⟩

/-! ## The lines of a text by their numbers

The list of lines is made by going through the characters with the line that has been begun, last
character first.  Up to the beginning of a line it has as many elements as there are line feeds.
-/

/-- Behind a line feed the lines are those of what stands there. -/
theorem linesAfter_append_lineFeed (line cs more : List Char) :
    linesAfter line (cs ++ '\n' :: more) = linesAfter line (cs ++ ['\n']) ++ lines more := by
  induction cs generalizing line with
  | nil => simp [linesAfter, lines]
  | cons c cs ih =>
    by_cases hc : c = '\n'
    · simp [linesAfter, hc, ih]
    · simp [linesAfter, hc, ih]

/-- Every line feed ends a line. -/
theorem length_linesAfter_lineFeed (line cs : List Char) :
    (linesAfter line (cs ++ ['\n'])).length = cs.count '\n' + 1 := by
  induction cs generalizing line with
  | nil => simp [linesAfter]
  | cons c cs ih =>
    by_cases hc : c = '\n'
    · simp [linesAfter, hc, ih]
    · simp [linesAfter, hc, ih]

/-- Up to the beginning of a line there are as many lines as line feeds, and behind it those of what
    stands there. -/
theorem StartsLine.lines_append {start : List Char} (h : StartsLine start) (more : List Char) :
    ∃ before, lines (start ++ more) = before ++ lines more ∧ before.length = start.count '\n' := by
  rcases h with rfl | h
  · exact ⟨[], rfl, rfl⟩
  · obtain ⟨cs, rfl⟩ := List.getLast?_eq_some_iff.1 h
    refine ⟨linesAfter [] (cs ++ ['\n']), ?_, ?_⟩
    · rw [List.append_assoc, List.singleton_append]
      exact linesAfter_append_lineFeed [] cs more
    · rw [length_linesAfter_lineFeed]
      simp

/-- Characters without a line feed all go to the line that has been begun. -/
theorem linesAfter_of_not_mem (line : List Char) {cs : List Char} (h : '\n' ∉ cs)
    (more : List Char) : linesAfter line (cs ++ more) = linesAfter (cs.reverse ++ line) more := by
  induction cs generalizing line with
  | nil => rfl
  | cons c cs ih =>
    rw [List.mem_cons, not_or] at h
    have hc : c ≠ '\n' := Ne.symm h.1
    simp [linesAfter, hc, ih _ h.2]

/-- A line that does not end with a carriage return keeps its last character. -/
theorem dropReturn_reverse {line : List Char} (h : line.getLast? ≠ some '\r') :
    dropReturn line.reverse = line.reverse := by
  unfold dropReturn
  split
  · rename_i cs hcs
    rw [List.reverse_eq_cons_iff] at hcs
    simp [hcs] at h
  · rfl

/-- What ends a line ends the first of the lines; the others are those of what stands behind the
    line feed, if there is one. -/
theorem EndsLine.exists_lines_eq {line rest : List Char} (h : EndsLine line rest)
    (hsingle : '\n' ∉ line) : ∃ more, lines (line ++ rest) = line :: lines more ∧
      (more = [] ∨ ∃ between, rest = between ++ '\n' :: more ∧ '\n' ∉ between) := by
  rw [lines, linesAfter_of_not_mem [] hsingle, List.append_nil]
  cases h with
  | text hne => exact ⟨[], by simp [linesAfter, lines, hne], Or.inl rfl⟩
  | lineFeed more hreturn =>
    have hline : linesAfter line.reverse ('\n' :: more) = line :: lines more := by
      simp [linesAfter, lines, dropReturn_reverse hreturn]
    exact ⟨more, hline, Or.inr ⟨[], rfl, by simp⟩⟩
  | returnFeed more =>
    have hline : linesAfter line.reverse ('\r' :: '\n' :: more) = line :: lines more := by
      simp [linesAfter, lines, dropReturn]
    exact ⟨more, hline, Or.inr ⟨['\r'], rfl, by simp⟩⟩

/-- A line is the one whose number is that of its beginning. -/
theorem line?_of_isLine {text start line : List Char} (h : IsLine text start line) :
    line? text (start.count '\n' + 1) = some line := by
  obtain ⟨rest, rfl, hends⟩ := h.ends
  obtain ⟨before, hlines, hlength⟩ := h.starts.lines_append (line ++ rest)
  obtain ⟨more, hfirst, -⟩ := hends.exists_lines_eq h.single
  rw [line?, hlines, hfirst, ← hlength, List.getElem?_append_right (Nat.le_refl _)]
  simp

/-- A line behind a line feed is a line of the whole. -/
theorem IsLine.append_lineFeed {more start line : List Char} (h : IsLine more start line)
    (front : List Char) : IsLine (front ++ '\n' :: more) (front ++ '\n' :: start) line := by
  obtain ⟨rest, rfl, hends⟩ := h.ends
  refine ⟨Or.inr ?_, h.single, rest, by simp, hends⟩
  rcases h.starts with rfl | hstart
  · simp
  · rw [List.getLast?_append, List.getLast?_cons, hstart]
    rfl

/-- The first line of a text, and what stands behind it and its line feed. -/
theorem exists_first_line {text : List Char} (h : text ≠ []) : ∃ first more,
    IsLine text [] first ∧ lines text = first :: lines more ∧
      (more = [] ∨ ∃ front, text = front ++ '\n' :: more ∧ front.count '\n' = 0) := by
  obtain ⟨first, hfirst⟩ := StartsLine.exists_isLine (Or.inl rfl) h
  obtain ⟨rest, htext, hends⟩ := hfirst.ends
  obtain ⟨more, hlines, hmore⟩ := hends.exists_lines_eq hfirst.single
  rw [List.nil_append, List.nil_append] at htext
  rw [← htext] at hlines
  refine ⟨first, more, hfirst, hlines, ?_⟩
  rcases hmore with hmore | ⟨between, rfl, hbetween⟩
  · exact Or.inl hmore
  · refine Or.inr ⟨first ++ between, by rw [htext, List.append_assoc], ?_⟩
    rw [List.count_append, List.count_eq_zero.2 hfirst.single, List.count_eq_zero.2 hbetween]

/-- **Numbers**: the lines by their numbers are the lines that there are. -/
theorem line?_eq_some_iff {text line : List Char} {n : Nat} : line? text n = some line ↔
    ∃ start, IsLine text start line ∧ n = start.count '\n' + 1 := by
  constructor
  · intro h
    obtain _ | n := n
    · cases h
    -- the first line is cut off, and of what stands behind it the number is one less
    induction n generalizing text with
    | zero =>
      by_cases htext : text = []
      · subst htext
        cases h
      · obtain ⟨first, more, hfirst, hlines, -⟩ := exists_first_line htext
        rw [line?, hlines] at h
        cases h
        exact ⟨[], hfirst, rfl⟩
    | succ n ih =>
      by_cases htext : text = []
      · subst htext
        cases h
      · obtain ⟨first, more, -, hlines, hmore⟩ := exists_first_line htext
        rw [line?, hlines, List.getElem?_cons_succ] at h
        rcases hmore with rfl | ⟨front, rfl, hfront⟩
        · cases h
        · obtain ⟨start, hline, hn⟩ := ih h
          refine ⟨_, hline.append_lineFeed front, ?_⟩
          rw [List.count_append, hfront, List.count_cons_self]
          omega
  · rintro ⟨start, hline, rfl⟩
    exact line?_of_isLine hline

/-! ## What a position locates -/

/-- **Locating**: positions of characters come in the order of the characters, so that no two have
    the same one; and the line of the position of a character that does not end its line has the
    character in the column of the position. -/
theorem position_locates (text : List Char) :
    (∀ i j, IsBoundary text i → IsBoundary text j → i < j →
      (position text i).IsBefore (position text j)) ∧
    (∀ i j, IsBoundary text i → IsBoundary text j → position text i = position text j → i = j) ∧
    ∀ before c after, text = before ++ c :: after → c ≠ '\n' →
      ¬(c = '\r' ∧ after.head? = some '\n') →
      ∃ chars column, line? text (position text (byteLength before)).line = some chars ∧
        (position text (byteLength before)).column = column + 1 ∧ chars[column]? = some c := by
  refine ⟨fun i j hi hj => position_isBefore hi hj, ?_, ?_⟩
  · intro i j hi hj heq
    rcases Nat.lt_trichotomy i j with h | h | h
    · exact absurd heq (position_isBefore hi hj h).ne
    · exact h
    · exact absurd heq.symm (position_isBefore hj hi h).ne
  · -- the character is on the line that begins behind the last line feed, and as far from there as
    -- its column says
    rintro before c after rfl hc hreturn
    obtain ⟨start, left, rfl, hstart, hleft⟩ := exists_startsLine before
    rw [position_append, endPosition_of_startsLine hstart hleft, List.append_assoc]
    have hrest : left ++ c :: after ≠ [] := by simp
    obtain ⟨line, hline⟩ := hstart.exists_isLine hrest
    obtain ⟨right, rfl⟩ := hline.exists_eq_append hleft hc hreturn
    exact ⟨_, left.length, line?_of_isLine hline, rfl, by simp⟩

/-- A carriage return that ends no line has a column, on the line behind one that it ends. -/
theorem position_locates_lone_return :
    IsBoundary "é\r\na\rb".toList 2 ∧ IsBoundary "é\r\na\rb".toList 5 ∧
    (position "é\r\na\rb".toList 2).IsBefore (position "é\r\na\rb".toList 5) ∧
    ∃ chars column, line? "é\r\na\rb".toList (position "é\r\na\rb".toList 5).line = some chars ∧
      (position "é\r\na\rb".toList 5).column = column + 1 ∧ chars[column]? = some '\r' := by
  have hfront : IsBoundary "é\r\na\rb".toList 2 := ⟨['é'], "\r\na\rb".toList, rfl, rfl⟩
  have hreturn : IsBoundary "é\r\na\rb".toList 5 := ⟨"é\r\na".toList, "\rb".toList, rfl, rfl⟩
  obtain ⟨horder, -, hlocates⟩ := position_locates "é\r\na\rb".toList
  exact ⟨hfront, hreturn, horder 2 5 hfront hreturn (by decide),
    hlocates "é\r\na".toList '\r' ['b'] rfl (by decide) (by decide)⟩

end TypeExpr.Text
