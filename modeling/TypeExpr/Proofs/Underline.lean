import TypeExpr.Proofs.Locating
import TypeExpr.Proofs.Quoting
import TypeExpr.Regex.Check
import TypeExpr.Report

/-!
# What a report underlines

A report ends with three lines: an empty one, the line of the text on which the failure begins with
its number, and a row of carets, all with the same room on their left.  `report_underlines` says
which carets there are: one under each character of the line that the span of the failure covers,
and if it covers none, a single one where the span begins.

Carets are counted in characters and spans in bytes; what both are about is prefixes of the text,
and of two prefixes the one with fewer bytes is the one with fewer characters
(`Text.byteLength_le_iff_of_prefix`).  A failure that is not about the whole text begins with the
first word of an expression, hence neither at a line feed nor between a carriage return and a line
feed (`exists_blamed`); so the place where it begins is on the line that is shown.

A report need not exist.  What stands on the left of the carets is padded to a width, and there is a
largest width (`widest`).  So the statement says when there is a report: if the column in which the
failure begins, and the number of digits of its line, can be padded to.  Both conditions are on the
text, and a text that keeps short of that length has a report for each failure.

The lines of the report are said by what they have to be, and not by how they are made: what
`Underlines` asks of carets does not mention how many there are, and leaves just one row of them.

The other half of the module is about a text whose failure stands as far to the right as one likes.
Its tokens, its position and its report are found for any number of blanks at once, so that the case
beyond the limit is an instance in which nothing is computed.
-/

namespace TypeExpr

open Text (byteLength isBlank splitTrivia IsLine StartsLine IsPart)

/-! ## Columns

A column of the line is covered if the character in it is.  For a part of the text these are as many
columns in a row as the part has characters on the line.
-/

/-- The span covers the character in a column, counted from zero, of the line that stands behind the
    characters `start`. -/
def Span.CoversColumn (span : Span) (start line : List Char) (i : Nat) : Prop :=
  i < line.length ∧ span.start ≤ byteLength (start ++ line.take i) ∧
    byteLength (start ++ line.take (i + 1)) ≤ span.stop

/-- Blanks and carets under a line: the carets stand in the columns that the span covers, or, if it
    covers none, in the column given. -/
structure Underlines (span : Span) (start line : List Char) (column : Nat) (carets : List Char) :
    Prop where
  chars : ∀ c ∈ carets, c = ' ' ∨ c = '^'
  column_iff : ∀ i, carets[i]? = some '^' ↔ span.CoversColumn start line i ∨
    (i = column ∧ ∀ j, ¬span.CoversColumn start line j)
  last : carets.getLast? = some '^'

namespace Text

/-- Of two prefixes of a text the one with fewer bytes is the one with fewer characters. -/
theorem byteLength_le_iff_of_prefix {text a b : List Char} (ha : a <+: text) (hb : b <+: text) :
    byteLength a ≤ byteLength b ↔ a.length ≤ b.length := by
  -- The longer of two prefixes goes on with characters behind the shorter one, and each of them has
  -- a byte at least.
  constructor
  · intro h
    by_contra hlength
    obtain ⟨part, rfl⟩ := List.prefix_of_prefix_length_le hb ha (by omega)
    have hpart : part ≠ [] := by
      rintro rfl
      simp at hlength
    have := byteLength_pos hpart
    rw [byteLength_append] at h
    omega
  · intro h
    obtain ⟨part, rfl⟩ := List.prefix_of_prefix_length_le ha hb h
    rw [byteLength_append]
    omega

end Text

/-- The columns that the span of a part of a text covers are as many as the part has characters,
    from the one where the part begins, up to the end of the line. -/
theorem coversColumn_iff {start left right part after more : List Char}
    (h : part ++ after = right ++ more) (i : Nat) :
    Span.CoversColumn ⟨byteLength (start ++ left), byteLength (start ++ left ++ part)⟩ start
      (left ++ right) i ↔ left.length ≤ i ∧ i < left.length + min part.length right.length := by
  -- all the bounds are those of prefixes of one text
  have hfront : start ++ left <+: start ++ (left ++ right ++ more) := by
    rw [List.append_assoc left, ← List.append_assoc]
    exact List.prefix_append ..
  have hpart : start ++ left ++ part <+: start ++ (left ++ right ++ more) := by
    rw [List.append_assoc left, ← h, ← List.append_assoc, ← List.append_assoc]
    exact List.prefix_append ..
  have hline (n : Nat) : start ++ (left ++ right).take n <+: start ++ (left ++ right ++ more) :=
    (List.prefix_append_right_inj start).2
      ((List.take_prefix n _).trans (List.prefix_append ..))
  unfold Span.CoversColumn
  rw [Text.byteLength_le_iff_of_prefix hfront (hline i),
    Text.byteLength_le_iff_of_prefix (hline (i + 1)) hpart]
  simp only [List.length_append, List.length_take]
  omega

/-- **Carets**: as many as the part has characters on the line, and one at least. -/
theorem underlines_carets (start left : List Char) {right part after more : List Char}
    (h : part ++ after = right ++ more) :
    Underlines ⟨byteLength (start ++ left), byteLength (start ++ left ++ part)⟩ start
      (left ++ right) left.length
      (List.replicate left.length ' ' ++
        List.replicate (max 1 (min part.length right.length)) '^') where
  chars := by
    intro c hc
    rcases List.mem_append.1 hc with hc | hc
    · exact Or.inl (List.eq_of_mem_replicate hc)
    · exact Or.inr (List.eq_of_mem_replicate hc)
  column_iff := by
    intro i
    have hcaret : (List.replicate left.length ' ' ++
        List.replicate (max 1 (min part.length right.length)) '^')[i]? = some '^' ↔
        left.length ≤ i ∧ i < left.length + max 1 (min part.length right.length) := by
      generalize max 1 (min part.length right.length) = n
      rw [List.getElem?_append, List.length_replicate, List.getElem?_replicate,
        List.getElem?_replicate]
      by_cases hi : i < left.length
      · simp [hi]
      · by_cases hn : i - left.length < n
        · simp only [hi, hn, if_false, if_true, true_iff]
          omega
        · simp only [hi, hn, if_false, false_iff, reduceCtorEq]
          omega
    rw [hcaret]
    simp only [coversColumn_iff h]
    by_cases hnone : min part.length right.length = 0
    · have hall : ∀ j, ¬(left.length ≤ j ∧ j < left.length + min part.length right.length) := by
        omega
      rw [and_iff_left hall]
      omega
    · -- the first column is covered
      have hfirst : ¬∀ j, ¬(left.length ≤ j ∧ j < left.length + min part.length right.length) :=
        fun hall => hall left.length ⟨Nat.le_refl _, by omega⟩
      rw [or_iff_left (fun hcolumn => hfirst hcolumn.2)]
      omega
  last := by
    obtain ⟨n, hn⟩ : ∃ n, max 1 (min part.length right.length) = n + 1 :=
      ⟨max 1 (min part.length right.length) - 1, by omega⟩
    rw [hn, List.replicate_succ', ← List.append_assoc, List.getLast?_concat]

/-! ## Where a failure begins

A failure that does not blame the whole text blames a node, and a node begins with a word or a
bracket.  So the place where it begins is neither a line feed nor between the two characters of an
end of line, and is on a line that is shown.
-/

/-- A node that reaches to the front of the text begins with the first character, which is no
    blank. -/
theorem Node.exists_cons_of_ofText [PatternLanguage] {text : String} {root : Node Span}
    (h : ofText text = .ok (some root)) (hstart : root.note.start = 0) :
    ∃ c cs, text.toList = c :: cs ∧ isBlank c = false := by
  obtain ⟨ls, hls, hderives, -⟩ := derives_of_ofText h
  have hcovers := hderives.covers (.of_tiles (tiles_of_tokenize hls))
  obtain ⟨ps, rest, hcuts, -, rfl⟩ := Cursor.lexemes_eq_ok_iff.1 hls
  cases hcuts with
  | nil =>
    obtain ⟨_, _, hnone, -⟩ := hcovers
    cases hnone
  | @cons _ gap xs w left ps _ x t hgap hread hps =>
    -- nothing stands before the first word
    rw [Piece.eq_of_covers_lexemes hcovers, Nat.zero_add] at hstart
    have hgap' : gap = [] := Text.byteLength_eq_zero hstart
    subst hgap'
    refine ⟨x, xs, eq_append_of_splitTrivia hgap, ?_⟩
    by_contra hblank
    have hnone := congrArg Prod.fst (splitTrivia_rest false text.toList)
    rw [Bool.not_eq_false] at hblank
    simp [hgap, splitTrivia, hblank] at hnone

/-- **Beginning**: what a failure is blamed on is a part of the text that is not empty; it begins
    with no blank, unless it is the whole text. -/
theorem exists_blamed [PatternLanguage] {text : String} {f : Failure} (hne : text ≠ "")
    (h : parse text = .error f) : ∃ before part after, text.toList = before ++ part ++ after ∧
      f.span = ⟨byteLength before, byteLength (before ++ part)⟩ ∧ part ≠ [] ∧
      (before = [] ∨ ∃ c cs, part = c :: cs ∧ isBlank c = false) := by
  rcases parse_eq_error_cases h with ⟨-, detail, rfl⟩ | ⟨root, fault, hroot, hfault, rfl⟩
  · refine ⟨[], text.toList, [], by simp, rfl, ?_, Or.inl rfl⟩
    rwa [ne_eq, String.toList_eq_nil_iff]
  · obtain ⟨steps, m, hway, hnote⟩ := Node.exists_way_of_denote hfault
    obtain ⟨part, m', k, ⟨before, after, htext, hspan⟩, hread, hfront, -⟩ :=
      Node.exists_isPart_of_way hroot hway
    obtain ⟨c, cs, hpart, hblank⟩ := Node.exists_cons_of_ofText hread (by rw [hfront])
    rw [String.toList_ofList] at hpart
    refine ⟨before, part, after, htext, hnote.trans hspan, ?_, Or.inr ⟨c, cs, hpart, hblank⟩⟩
    simp [hpart]

/-- The line on which a failure begins, and what is left of it from there. -/
theorem exists_isLine_of_blamed {before part : List Char} (hne : part ≠ [])
    (hfirst : before = [] ∨ ∃ c cs, part = c :: cs ∧ isBlank c = false) (after : List Char) :
    ∃ start left right more, before = start ++ left ∧ '\n' ∉ left ∧ part ++ after = right ++ more ∧
      IsLine (before ++ part ++ after) start (left ++ right) := by
  obtain ⟨start, left, rfl, hstart, hleft⟩ := Text.exists_startsLine before
  have hrest : left ++ (part ++ after) ≠ [] := by simp [hne]
  obtain ⟨line, hline⟩ := hstart.exists_isLine hrest
  have hreturn : left.getLast? = some '\r' → (part ++ after).head? ≠ some '\n' := by
    rcases hfirst with hnil | ⟨c, cs, rfl, hblank⟩
    · rw [(List.append_eq_nil_iff.1 hnil).2]
      rintro ⟨⟩
    · rintro - ⟨⟩
      exact absurd Text.isBlank_newline (by rw [hblank]; decide)
  obtain ⟨right, more, rfl, hmore, -⟩ := hline.exists_right hleft hreturn
  exact ⟨start, left, right, more, rfl, hleft, hmore, by simpa using hline⟩

/-! ## The report

The report as a text, in the order in which it is written.  On a text of one line the number of the
line has one digit, so only the room on the left of the carets can be too wide.
-/

/-- The characters of a row. -/
theorem toList_row (n : Nat) (c : Char) : (row n c).toList = List.replicate n c := by
  induction n with
  | zero => rfl
  | succ n ih =>
    have hstep : row (n + 1) c = (row n c).push c := rfl
    rw [hstep, String.toList_push, ih, List.replicate_succ']

theorem row_append_row (n m : Nat) (c d : Char) :
    row n c ++ row m d = String.ofList (List.replicate n c ++ List.replicate m d) := by
  apply String.toList_injective
  rw [String.toList_append, toList_row, toList_row, String.toList_ofList]

/-- The report of a failure that begins on a line of the text.  There is one if there is room on the
    left of the failure, and room for the number of the line. -/
theorem report?_of_isLine {text : String} {f : Failure} {start left right part after : List Char}
    (htext : text.toList = start ++ left ++ part ++ after)
    (hspan : f.span = ⟨byteLength (start ++ left), byteLength (start ++ left ++ part)⟩)
    (hne : part ≠ []) (hleft : '\n' ∉ left) (hline : IsLine text.toList start (left ++ right))
    (color : Bool) : f.report? text color =
      if left.length ≤ widest ∧ (toString (start.count '\n' + 1)).length ≤ widest then
        some (f.heading ⟨start.count '\n' + 1, left.length + 1⟩ color ++
          row (toString (start.count '\n' + 1)).length ' ' ++ " |\n" ++
          toString (start.count '\n' + 1) ++ " | " ++ String.ofList (left ++ right) ++ "\n" ++
          row (toString (start.count '\n' + 1)).length ' ' ++ " | " ++ row left.length ' ' ++
          paint color (row (max 1 (min part.length right.length)) '^') ++ "\n")
      else none := by
  have hposition : Text.position text.toList f.span.start =
      ⟨start.count '\n' + 1, left.length + 1⟩ := by
    rw [hspan, htext, List.append_assoc _ part, Text.position_append,
      Text.endPosition_of_startsLine hline.starts hleft]
  have hnonempty : f.span.isEmpty = false := by
    have := byteLength_pos hne
    simp only [hspan, Span.isEmpty, Text.byteLength_append, decide_eq_false_iff_not]
    omega
  have hslice : Text.slice text.toList f.span = part := by
    rw [hspan, htext]
    exact Text.slice_append _ part after
  have hcount : f.underlined text.toList (left ++ right) (left.length + 1) =
      max 1 (min part.length right.length) := by
    simp [Failure.underlined, hnonempty, hslice]
  simp only [Failure.report?, hposition, Text.line?_of_isLine hline, hcount, Nat.add_sub_cancel]
  -- the number is padded first, then the failure
  rcases Nat.lt_or_ge widest (toString (start.count '\n' + 1)).length with hnumber | hnumber
  · rw [padding?_of_lt hnumber, if_neg fun h => Nat.not_le.2 hnumber h.2]
    rfl
  · rcases Nat.lt_or_ge widest left.length with hroom | hroom
    · rw [padding?_of_le hnumber, padding?_of_lt hroom, if_neg fun h => Nat.not_le.2 hroom h.1]
      rfl
    · rw [padding?_of_le hnumber, padding?_of_le hroom, if_pos ⟨hroom, hnumber⟩]
      rfl

/-- The report on a text of one line.  The number of the line takes no more than one character, and
    only the room on the left of the failure can be too wide. -/
theorem exists_report?_eq_of_single [PatternLanguage] {text : String} {f : Failure}
    (hne : text ≠ "") (hsingle : '\n' ∉ text.toList) (h : parse text = .error f) (color : Bool) :
    ∃ rest, f.report? text color =
      if (Text.position text.toList f.span.start).column ≤ widest + 1 then
        some (f.heading (Text.position text.toList f.span.start) color ++ rest)
      else none := by
  obtain ⟨before, part, after, htext, hspan, hpart, -⟩ := exists_blamed hne h
  have hsplit : text.toList = before ++ (part ++ after) := by rw [htext, List.append_assoc]
  have hbefore : '\n' ∉ before := fun hmem => hsingle (hsplit ▸ List.mem_append_left _ hmem)
  have hline : IsLine text.toList [] (before ++ (part ++ after)) := by
    refine ⟨Or.inl rfl, hsplit ▸ hsingle, [], by simp [hsplit], .text ?_⟩
    simp [hpart]
  have hposition : Text.position text.toList f.span.start = ⟨1, before.length + 1⟩ := by
    rw [hspan, hsplit, Text.position_append]
    exact Text.endPosition_of_startsLine (Or.inl rfl) hbefore
  have hnumber : (toString (([] : List Char).count '\n' + 1)).length ≤ widest := by decide
  have htext' : text.toList = [] ++ before ++ part ++ after := by simpa using htext
  have hspan' : f.span = ⟨byteLength ([] ++ before), byteLength ([] ++ before ++ part)⟩ := hspan
  have hreport := report?_of_isLine htext' hspan' hpart hbefore hline color
  rw [hreport, hposition]
  by_cases hroom : before.length ≤ widest
  · have hnear : (Text.Position.mk 1 (before.length + 1)).column ≤ widest + 1 :=
      Nat.add_le_add_right hroom 1
    -- the rest is what stands behind the heading
    exact ⟨_, by
      rw [if_pos ⟨hroom, hnumber⟩, if_pos hnear]
      simp only [String.append_assoc]
      rfl⟩
  · exact ⟨"", by rw [if_neg fun h => hroom h.1, if_neg fun h => hroom (Nat.le_of_succ_le_succ h)]⟩

/-- **Underlining**: behind what is wrong and where, the report of a failure has three lines with
    the same room on their left: an empty one; the line of the text on which the failure begins,
    with its number; and one with a caret in each column of it that the failure covers, or, if it
    covers none, with one caret in the column where it begins.

    There is a report exactly if the failure begins no further to the right than can be padded, and
    the number of its line is no wider than that either. -/
theorem report_underlines [PatternLanguage] (text : String) (f : Failure) (hne : text ≠ "")
    (h : parse text = .error f) :
    ∃ start left right carets number gutter,
      IsLine text.toList start (left ++ right) ∧ f.span.start = byteLength (start ++ left) ∧
      number = toString (start.count '\n' + 1) ∧
      gutter.toList = List.replicate number.length ' ' ∧
      Underlines f.span start (left ++ right) left.length carets ∧
      f.report? text false =
        if left.length ≤ widest ∧ number.length ≤ widest then
          some ("error[" ++ f.cause.kindName ++ "]" ++ ": " ++ f.message ++ "\n" ++
            " --> " ++ number ++ ":" ++ toString (left.length + 1) ++ "\n" ++
            (gutter ++ " |" ++ "\n") ++
            (number ++ " | " ++ String.ofList (left ++ right) ++ "\n") ++
            (gutter ++ " | " ++ String.ofList carets ++ "\n"))
        else none := by
  obtain ⟨before, part, after, htext, hspan, hpart, hfirst⟩ := exists_blamed hne h
  obtain ⟨start, left, right, more, rfl, hleft, hmore, hline⟩ :=
    exists_isLine_of_blamed hpart hfirst after
  rw [← htext] at hline
  have hcarets := underlines_carets start left hmore
  rw [← hspan] at hcarets
  refine ⟨start, left, right, _, _, _, hline, by rw [hspan], rfl, toList_row _ _, hcarets, ?_⟩
  have hgutter : " |\n" = " |" ++ "\n" := rfl
  have hpaint (s : String) : paint false s = s := rfl
  rw [report?_of_isLine htext hspan hpart hleft hline, ← row_append_row, hgutter]
  simp only [Failure.heading, hpaint, String.append_assoc]

open scoped Program in
/-- The failure goes on behind the end of the second line; the carets do not. -/
theorem report_underlines_clipped : ∃ f : Failure,
    parse "# é\nArray[ Boolean[1,\n2] ]" = .error f ∧ f.span = ⟨12, 25⟩ ∧
    ∃ start left right carets number gutter,
      IsLine "# é\nArray[ Boolean[1,\n2] ]".toList start (left ++ right) ∧
      f.span.start = byteLength (start ++ left) ∧
      number = toString (start.count '\n' + 1) ∧
      gutter.toList = List.replicate number.length ' ' ∧
      Underlines f.span start (left ++ right) left.length carets ∧
      f.report? "# é\nArray[ Boolean[1,\n2] ]" false =
        if left.length ≤ widest ∧ number.length ≤ widest then
          some ("error[" ++ f.cause.kindName ++ "]" ++ ": " ++ f.message ++ "\n" ++
            " --> " ++ number ++ ":" ++ toString (left.length + 1) ++ "\n" ++
            (gutter ++ " |" ++ "\n") ++
            (number ++ " | " ++ String.ofList (left ++ right) ++ "\n") ++
            (gutter ++ " | " ++ String.ofList carets ++ "\n"))
        else none := by
  have htokens : tokenize "# é\nArray[ Boolean[1,\n2] ]" = .ok [⟨.reference "Array", ⟨5, 10⟩⟩,
      ⟨.openBracket, ⟨10, 11⟩⟩, ⟨.reference "Boolean", ⟨12, 19⟩⟩, ⟨.openBracket, ⟨19, 20⟩⟩,
      ⟨.integer 1, ⟨20, 21⟩⟩, ⟨.comma, ⟨21, 22⟩⟩, ⟨.integer 2, ⟨23, 24⟩⟩,
      ⟨.closeBracket, ⟨24, 25⟩⟩, ⟨.closeBracket, ⟨26, 27⟩⟩] := by
    decide +kernel
  have h : parse "# é\nArray[ Boolean[1,\n2] ]" =
      .error ⟨.unparameterizedType, "Boolean[1,\n2]", ⟨12, 25⟩⟩ := by
    rw [parse, Node.ofText, htokens]
    rfl
  exact ⟨_, h, rfl, report_underlines _ _ (by decide) h⟩

/-! ## A failure too far to the right

Texts with any number of blanks before the failure.  Everything is said of them for an arbitrary
number, so that none of them has to be written out.
-/

/-- A list whose only part stands that many blanks behind the bracket, and denotes no type. -/
def farAway (n : Nat) : String := "Array[" ++ row n ' ' ++ "Type]"

/-- The characters of the text, in three parts: those before the failure, those blamed, and the
    bracket behind. -/
theorem toList_farAway (n : Nat) : (farAway n).toList =
    ("Array[".toList ++ List.replicate n ' ') ++ "Type".toList ++ [']'] := by
  simp [farAway, toList_row]

/-- The failure begins behind as many bytes as there are blanks, and six. -/
theorem byteLength_farAway (n : Nat) :
    byteLength ("Array[".toList ++ List.replicate n ' ') = 6 + n := by
  have hblank : ' '.utf8Size = 1 := by decide
  rw [Text.byteLength_append, Text.byteLength_replicate, hblank, Nat.mul_one]
  rfl

theorem single_farAway (n : Nat) : '\n' ∉ (farAway n).toList := by
  rw [toList_farAway]
  simp [List.mem_replicate]

/-- As many columns stand before the part as there are blanks and characters before them. -/
theorem position_farAway (n : Nat) : Text.position (farAway n).toList (6 + n) = ⟨1, 6 + n + 1⟩ := by
  have hfront : '\n' ∉ "Array[".toList ++ List.replicate n ' ' := by simp [List.mem_replicate]
  have hposition := Text.position_append ("Array[".toList ++ List.replicate n ' ')
    ("Type".toList ++ [']'])
  rw [byteLength_farAway, ← List.append_assoc, ← toList_farAway] at hposition
  have hend := Text.endPosition_of_startsLine (Or.inl rfl : Text.StartsLine []) hfront
  rw [hposition, ← List.nil_append (_ ++ _), hend]
  simp [Nat.add_comm 6]

section FarAway

variable [PatternLanguage]

/-- The blanks are no tokens, but they are counted. -/
theorem tokenize_farAway (n : Nat) : tokenize (farAway n) =
    .ok [⟨.reference "Array", ⟨0, 5⟩⟩, ⟨.openBracket, ⟨5, 6⟩⟩,
      ⟨.reference "Type", ⟨6 + n, 6 + n + 4⟩⟩, ⟨.closeBracket, ⟨6 + n + 4, 6 + n + 4 + 1⟩⟩] := by
  have harray : Spells "Array".toList (.reference "Array") :=
    spells_reference_toList (WordKind.isWord_of_isPlain WordKind.lawful_reference (by decide))
  have hpart : Spells "Type".toList (.reference "Type") :=
    spells_reference_toList (WordKind.isWord_of_isPlain WordKind.lawful_reference (by decide))
  have hmark {c : Char} (hc : c = '[' ∨ c = ']') (cs : List Char) : Delimits (c :: cs) :=
    delimits_mark (by tauto)
  -- One token after the other is read off the front; between the bracket and the name the blanks
  -- move the cursor on.
  have htext : (farAway n).toList =
      "Array".toList ++ '[' :: (List.replicate n ' ' ++ ("Type".toList ++ [']'])) := by
    simp [toList_farAway]
  rw [tokenize, htext, harray.lexemes_append 0 (hmark (.inl rfl) _),
    Cursor.lexemes_of_readToken (by decide) (by decide) (IsMark.openBracket.readToken_eq _),
    Cursor.lexemes_spaces, hpart.lexemes_append _ (hmark (.inr rfl) _),
    Cursor.lexemes_of_readToken (by decide) (by decide) (IsMark.closeBracket.readToken_eq _),
    Cursor.lexemes_of_next_end rfl]
  rfl

/-- The part is what the failure is blamed on. -/
theorem parse_farAway (n : Nat) :
    parse (farAway n) = .error ⟨.unknownType, "Type", ⟨6 + n, 6 + n + 4⟩⟩ := by
  have hread : ∃ a, Node.ofText (farAway n) = .ok (some (.access (.leaf (.reference "array") ⟨0, 5⟩)
      [.leaf (.reference "type") ⟨6 + n, 6 + n + 4⟩] a)) := by
    rw [Node.ofText, tokenize_farAway]
    exact ⟨_, rfl⟩
  -- The argument denotes nothing, so it is the argument that is blamed, and its span covers its
  -- name.
  obtain ⟨a, hread⟩ := hread
  have hslice : Text.slice (farAway n).toList ⟨6 + n, 6 + n + 4⟩ = "Type".toList := by
    have hstop : 6 + n + 4 =
        byteLength ("Array[".toList ++ List.replicate n ' ' ++ "Type".toList) := by
      rw [Text.byteLength_append _ "Type".toList, byteLength_farAway]
      rfl
    rw [toList_farAway, hstop, ← byteLength_farAway, Text.slice_append]
  rw [parse, hread]
  show Except.error (Failure.ofSpan (farAway n) .unknownType ⟨6 + n, 6 + n + 4⟩) = _
  rw [Failure.ofSpan, hslice]
  rfl

/-- What is said of the part, if there is room on its left. -/
theorem exists_report?_farAway_eq (n : Nat) (color : Bool) :
    ∃ rest, Failure.report? ⟨.unknownType, "Type", ⟨6 + n, 6 + n + 4⟩⟩ (farAway n) color =
      if 6 + n ≤ widest then some rest else none := by
  have hne : farAway n ≠ "" := by
    intro h
    simpa [toList_farAway] using congrArg String.toList h
  obtain ⟨rest, hreport⟩ :=
    exists_report?_eq_of_single hne (single_farAway n) (parse_farAway n) color
  simp only [hreport, position_farAway, Nat.add_le_add_iff_right]
  exact ⟨_, rfl⟩

end FarAway

open scoped Program in
/-- One column behind the last one that can be padded to, a failure is not reported. -/
theorem exists_report?_eq_none : ∃ f, parse (farAway 65530) = .error f ∧
    f.report? (farAway 65530) false = none := by
  obtain ⟨rest, hreport⟩ := exists_report?_farAway_eq 65530 false
  exact ⟨_, parse_farAway 65530, hreport.trans (if_neg (by decide))⟩

end TypeExpr
