import TypeExpr.Proofs.Faults
import TypeExpr.Proofs.Naturality
import TypeExpr.Proofs.Subterms
import TypeExpr.Regex.Check

/-!
# What failures quote

A failure quotes the part of the text that its span covers, no more and no less
(`parse_error_quotes`).  That takes more than cutting the text at the ends of the span, since a cut
inside a character is answered with the whole text: the span has to be one of a part of the text
(`Text.IsPart`), as those of the nodes of an expression are.

If the failure is about a name, what is quoted says it all: read by itself, the part fails with the
same failure (`parse_quoted`).  For the node that is blamed is read from that part again, it raises
its fault by itself, and to evaluate it in another place moves the note of the fault and nothing
else.

A failure about the whole text is the case in which the span says nothing: the text may be no
expression at all, or be one that denotes a string.  It quotes everything, blanks and comments
included.
-/

namespace TypeExpr

open Text (byteLength IsBoundary)

/-! ## Parts of a text

A part of a text is said by what stands before it and behind it.  From this follows what a span has
to be like that covers it.
-/

namespace Text

/-- The span covers the part where it stands in the text. -/
def IsPart (text part : List Char) (span : Span) : Prop :=
  ∃ before after, text = before ++ part ++ after ∧
    span = ⟨byteLength before, byteLength (before ++ part)⟩

variable {text part : List Char} {span : Span}

theorem isPart_whole (text : List Char) : IsPart text text ⟨0, byteLength text⟩ :=
  ⟨[], [], by simp, rfl⟩

/-- The text is cut at both ends of a part to give the part. -/
theorem IsPart.slice_eq (h : IsPart text part span) : slice text span = part := by
  obtain ⟨before, after, rfl, rfl⟩ := h
  exact slice_append before part after

/-- The span of a part does not go backwards. -/
theorem IsPart.start_le (h : IsPart text part span) : span.start ≤ span.stop := by
  obtain ⟨before, after, -, rfl⟩ := h
  show byteLength before ≤ byteLength (before ++ part)
  rw [byteLength_append]
  omega

/-- It ends no later than the text. -/
theorem IsPart.stop_le (h : IsPart text part span) : span.stop ≤ byteLength text := by
  obtain ⟨before, after, rfl, rfl⟩ := h
  show byteLength (before ++ part) ≤ byteLength (before ++ part ++ after)
  rw [byteLength_append _ after]
  omega

theorem IsPart.isBoundary_start (h : IsPart text part span) : IsBoundary text span.start := by
  obtain ⟨before, after, rfl, rfl⟩ := h
  exact ⟨before, part ++ after, by simp, rfl⟩

theorem IsPart.isBoundary_stop (h : IsPart text part span) : IsBoundary text span.stop := by
  obtain ⟨before, after, rfl, rfl⟩ := h
  exact ⟨before ++ part, after, rfl, rfl⟩

theorem toList_infix_append_right (s t : String) : s.toList <:+: (s ++ t).toList := by
  rw [String.toList_append]
  exact (List.prefix_append ..).isInfix

theorem toList_infix_append_left (s t : String) : t.toList <:+: (s ++ t).toList := by
  rw [String.toList_append]
  exact (List.suffix_append ..).isInfix

end Text

open Text (IsPart isPart_whole toList_infix_append_left toList_infix_append_right)

namespace Span

/-- Spans that have been moved by the same distance to the same place were the same. -/
theorem shift_inj {k : Nat} {a b : Span} (h : a.shift k = b.shift k) : a = b := by
  obtain ⟨i, j⟩ := a
  obtain ⟨i', j'⟩ := b
  simp only [shift, Span.mk.injEq] at h ⊢
  omega

/-- A part that is moved behind others stood in front. -/
theorem eq_of_shift_eq {before part : List Char} {a : Span}
    (h : a.shift (byteLength before) = ⟨byteLength before, byteLength (before ++ part)⟩) :
    a = ⟨0, byteLength part⟩ := by
  refine shift_inj (h.trans ?_)
  rw [Text.byteLength_append]
  rfl

end Span

namespace Node

/-- A node inside an expression that was read covers a part of the text, and from that part alone it
    is read again, in front. -/
theorem exists_isPart_of_way [PatternLanguage] {text : String} {root m : Node Span}
    {steps : List (Step Span)} (h : ofText text = .ok (some root)) (hway : Way root steps m) :
    ∃ part m' k, IsPart text.toList part m.note ∧ ofText (String.ofList part) = .ok (some m') ∧
      m'.note = ⟨0, byteLength part⟩ ∧ m'.shift k = m := by
  obtain ⟨ls, hls, hderives, hdepth⟩ := derives_of_ofText h
  have horder := Grammar.InOrder.of_tiles (tiles_of_tokenize hls)
  obtain ⟨ps, rest, hcuts, -, rfl⟩ := Cursor.lexemes_eq_ok_iff.1 hls
  -- the node has lexemes in a row, these a part of the text, and there they derive it again
  obtain ⟨ms, hinfix, hm⟩ := hderives.exists_infix_of_way hway
  have hcovers := hm.covers (horder.of_infix hinfix)
  obtain ⟨before, part, after, inner, htext, hspan, hread, rfl⟩ := hcuts.exists_part hinfix hcovers
  obtain ⟨m', hm', hdepth', rfl⟩ :=
    hm.exists_of_shift (Nat.le_trans (Grammar.bracketDepth_le_of_infix hinfix) hdepth)
  refine ⟨part, m', _, ⟨before, after, htext, hspan⟩, ?_, ?_, rfl⟩
  · exact ofText_eq_ok_iff.2 ⟨inner, hread, ofLexemes_eq_ok_iff_derives.2 ⟨hm', hdepth'⟩⟩
  · rw [note_shift] at hspan
    exact Span.eq_of_shift_eq hspan

mutual

/-- To move a node is to map its spans. -/
theorem shift_eq_map (k : Nat) : ∀ n : Node Span, n.shift k = n.map (Span.shift k) id
  | leaf l s => by rw [shift, map, Leaf.mapBounds_id]
  | array items s => by rw [shift, map, shiftAll_eq_mapAll k items]
  | access target arguments s => by
    rw [shift, map, shift_eq_map k target, shiftAll_eq_mapAll k arguments]

theorem shiftAll_eq_mapAll (k : Nat) : ∀ ns : List (Node Span),
    shiftAll k ns = mapAll (Span.shift k) id ns
  | [] => rfl
  | n :: ns => by rw [shiftAll, mapAll, shift_eq_map k n, shiftAll_eq_mapAll k ns]

end

/-- What fails in one place fails in front, for the same cause and at the same node. -/
theorem exists_fault_of_denote_shift {k : Nat} {n : Node Span} {depth : Nat} {fault : Fault Span}
    (h : (n.shift k).denote depth = .error fault) :
    ∃ fault', n.denote depth = .error fault' ∧ fault'.cause = fault.cause ∧
      fault'.note.shift k = fault.note := by
  rw [shift_eq_map, denote_map fun _ => id_eq _] at h
  cases hn : n.denote depth with
  | ok v =>
    rw [hn] at h
    cases h
  | error fault' =>
    rw [hn] at h
    cases h
    exact ⟨fault', rfl, rfl, rfl⟩

end Node

/-! ## Failures quote what they are blamed on

The text that a failure quotes is the one its span covers, and each cause puts it into the message.
-/

namespace Failure

/-- Whatever the cause, the message has the quoted text in it. -/
theorem text_infix_message (f : Failure) : f.text.toList <:+: f.message.toList := by
  obtain ⟨cause, text, span⟩ := f
  have hquoted : text.toList <:+: ("<" ++ text ++ ">").toList :=
    (toList_infix_append_left "<" text).trans (toList_infix_append_right _ ">")
  refine hquoted.trans ?_
  cases cause with
  | invalidSpecification detail =>
    -- more words follow
    refine (toList_infix_append_left "The expression " _).trans ?_
    exact (toList_infix_append_right _ _).trans (toList_infix_append_right _ _)
  | _ => exact toList_infix_append_left _ _

/-- A failure that is about a part of the text quotes that part. -/
theorem text_ofSpan {text : String} {part : List Char} {span : Span}
    (h : IsPart text.toList part span) (cause : Cause) :
    (ofSpan text cause span).text = String.ofList part := by
  rw [ofSpan, h.slice_eq]

end Failure

open Node (Way)

/-- **Quoting**: a failure quotes the text exactly.  Its span begins and ends with characters of the
    text, the quoted text is what lies in between, and the message shows it; and what is blamed is
    the whole text or a node of the expression. -/
theorem parse_error_quotes [PatternLanguage] (text : String) (f : Failure)
    (h : parse text = .error f) :
    f.span.start ≤ f.span.stop ∧ f.span.stop ≤ byteLength text.toList ∧
    IsBoundary text.toList f.span.start ∧ IsBoundary text.toList f.span.stop ∧
    IsPart text.toList f.text.toList f.span ∧
    f.text.toList = Text.slice text.toList f.span ∧
    f.text.toList <:+: f.message.toList ∧
    ((DenotesNoType text ∧ f.span = ⟨0, byteLength text.toList⟩) ∨
      ∃ root steps m, Node.ofText text = .ok (some root) ∧ Way root steps m ∧ f.span = m.note) := by
  -- that the span covers the quoted text where it stands says all there is to say of the span
  suffices IsPart text.toList f.text.toList f.span ∧
      ((DenotesNoType text ∧ f.span = ⟨0, byteLength text.toList⟩) ∨
        ∃ root steps m, Node.ofText text = .ok (some root) ∧ Way root steps m ∧
          f.span = m.note) from
    ⟨this.1.start_le, this.1.stop_le, this.1.isBoundary_start, this.1.isBoundary_stop, this.1,
      this.1.slice_eq.symm, f.text_infix_message, this.2⟩
  rcases parse_eq_error_cases h with ⟨hno, detail, rfl⟩ | ⟨root, fault, hroot, hfault, rfl⟩
  · exact ⟨isPart_whole _, Or.inl ⟨hno, rfl⟩⟩
  · obtain ⟨steps, m, hway, hnote⟩ := Node.exists_way_of_denote hfault
    obtain ⟨part, -, -, hpart, -, -, -⟩ := Node.exists_isPart_of_way hroot hway
    rw [← hnote] at hpart
    refine ⟨?_, Or.inr ⟨root, steps, m, hroot, hway, hnote⟩⟩
    rw [Failure.text_ofSpan hpart, String.toList_ofList]
    exact hpart

open scoped Program in
/-- The second argument is blamed; it stands behind a character of two bytes. -/
theorem parse_error_quotes_argument : ∃ f : Failure, parse "Enum['é', Boolean[1]]" = .error f ∧
    f.text = "Boolean[1]" ∧ f.span = ⟨11, 21⟩ ∧
    f.span.start ≤ f.span.stop ∧ f.span.stop ≤ byteLength "Enum['é', Boolean[1]]".toList ∧
    IsBoundary "Enum['é', Boolean[1]]".toList f.span.start ∧
    IsBoundary "Enum['é', Boolean[1]]".toList f.span.stop ∧
    IsPart "Enum['é', Boolean[1]]".toList f.text.toList f.span ∧
    f.text.toList = Text.slice "Enum['é', Boolean[1]]".toList f.span ∧
    f.text.toList <:+: f.message.toList ∧
    ((DenotesNoType "Enum['é', Boolean[1]]" ∧
        f.span = ⟨0, byteLength "Enum['é', Boolean[1]]".toList⟩) ∨
      ∃ root steps m, Node.ofText "Enum['é', Boolean[1]]" = .ok (some root) ∧
        Way root steps m ∧ f.span = m.note) := by
  have htokens : tokenize "Enum['é', Boolean[1]]" = .ok [⟨.reference "Enum", ⟨0, 4⟩⟩,
      ⟨.openBracket, ⟨4, 5⟩⟩, ⟨.string "é", ⟨5, 9⟩⟩, ⟨.comma, ⟨9, 10⟩⟩,
      ⟨.reference "Boolean", ⟨11, 18⟩⟩, ⟨.openBracket, ⟨18, 19⟩⟩, ⟨.integer 1, ⟨19, 20⟩⟩,
      ⟨.closeBracket, ⟨20, 21⟩⟩, ⟨.closeBracket, ⟨21, 22⟩⟩] := by
    decide +kernel
  have h : parse "Enum['é', Boolean[1]]" =
      .error ⟨.unparameterizedType, "Boolean[1]", ⟨11, 21⟩⟩ := by
    rw [parse, Node.ofText, htokens]
    rfl
  exact ⟨_, h, rfl, rfl, parse_error_quotes _ _ h⟩

/-! ## What is quoted fails again

A node is read again from the part that it covers.  A fault about a name is raised by the node
alone, so it comes out of the part as well.
-/

/-- The node that a fault about a name is blamed on is read again from the part that it covers, and
    there it fails for the same cause, as a whole. -/
theorem Node.exists_isPart_of_denote [PatternLanguage] {text : String} {root : Node Span}
    {fault : Fault Span}
    (hroot : ofText text = .ok (some root)) (hfault : root.denote 0 = .error fault)
    (hcause : ∀ detail, fault.cause ≠ .invalidSpecification detail) :
    ∃ part m, IsPart text.toList part fault.note ∧ ofText (String.ofList part) = .ok (some m) ∧
      m.denote 0 = .error ⟨fault.cause, ⟨0, byteLength part⟩⟩ := by
  -- the node that raises the fault is the one that is blamed
  obtain ⟨steps, n, -, hway, -, hnote, hzero⟩ := exists_raises_way_of_denote hfault hcause
  obtain ⟨part, m, k, hpart, hread, hfront, rfl⟩ := exists_isPart_of_way hroot hway
  obtain ⟨⟨cause, note⟩, hfault', hcause', hnote'⟩ := exists_fault_of_denote_shift hzero
  -- its span was moved with it
  rw [hnote, note_shift] at hnote'
  have hspan : note = ⟨0, byteLength part⟩ := (Span.shift_inj hnote').trans hfront
  rw [← hnote] at hpart
  exact ⟨part, m, hpart, hread, by rw [hfault', hspan, ← hcause']⟩

/-- **Reproduction**: if a failure is about a name, then what it quotes fails in the same way, as a
    whole. -/
theorem parse_quoted [PatternLanguage] (text : String) (f : Failure) (h : parse text = .error f)
    (hcause : f.cause = .unknownType ∨ f.cause = .unparameterizedType ∨
      ∃ typeName required given, f.cause = .invalidParameterCount typeName required given) :
    ∃ g, parse f.text = .error g ∧ g.cause = f.cause ∧ g.message = f.message ∧ g.text = f.text ∧
      g.span = ⟨0, byteLength f.text.toList⟩ := by
  have hname : ∀ detail, f.cause ≠ .invalidSpecification detail := by
    rintro detail hdetail
    simp [hdetail] at hcause
  rcases parse_eq_error_cases h with ⟨-, detail, rfl⟩ | ⟨root, fault, hroot, hfault, rfl⟩
  · exact absurd rfl (hname detail)
  · -- the part that is quoted is read as the node that was blamed, which fails again
    obtain ⟨part, m, hpart, hread, hden⟩ := Node.exists_isPart_of_denote hroot hfault hname
    have htext := Failure.text_ofSpan hpart fault.cause
    have hwhole : IsPart (String.ofList part).toList part ⟨0, byteLength part⟩ := by
      rw [String.toList_ofList]
      exact isPart_whole part
    have hagain := Failure.text_ofSpan hwhole fault.cause
    rw [htext]
    refine ⟨.ofSpan (String.ofList part) fault.cause ⟨0, byteLength part⟩, ?_, rfl, ?_, hagain, ?_⟩
    · simp only [parse_of_ofText hread, Node.interpret, hden]
    · rw [Failure.message, Failure.message, hagain, htext]
      rfl
    · rw [String.toList_ofList]
      rfl

open scoped Program in
/-- The inner access is quoted, and fails outside of the outer one as it did inside. -/
theorem parse_quoted_of_nested : ∃ f g : Failure,
    parse "Array[#é\n Array[Foo, Bar]]" = .error f ∧
    f.cause = .invalidParameterCount "Array" (.exactly 1) 2 ∧ f.span = ⟨11, 26⟩ ∧
    f.text = "Array[Foo, Bar]" ∧ parse f.text = .error g ∧ g.cause = f.cause ∧
    g.message = f.message ∧ g.text = f.text ∧ g.span = ⟨0, byteLength f.text.toList⟩ := by
  have htokens : tokenize "Array[#é\n Array[Foo, Bar]]" = .ok [⟨.reference "Array", ⟨0, 5⟩⟩,
      ⟨.openBracket, ⟨5, 6⟩⟩, ⟨.reference "Array", ⟨11, 16⟩⟩, ⟨.openBracket, ⟨16, 17⟩⟩,
      ⟨.reference "Foo", ⟨17, 20⟩⟩, ⟨.comma, ⟨20, 21⟩⟩, ⟨.reference "Bar", ⟨22, 25⟩⟩,
      ⟨.closeBracket, ⟨25, 26⟩⟩, ⟨.closeBracket, ⟨26, 27⟩⟩] := by
    decide +kernel
  have h : parse "Array[#é\n Array[Foo, Bar]]" =
      .error ⟨.invalidParameterCount "Array" (.exactly 1) 2, "Array[Foo, Bar]", ⟨11, 26⟩⟩ := by
    rw [parse, Node.ofText, htokens]
    rfl
  obtain ⟨g, hg⟩ := parse_quoted _ _ h (Or.inr (Or.inr ⟨_, _, _, rfl⟩))
  exact ⟨_, g, h, rfl, rfl, rfl, hg⟩

end TypeExpr
