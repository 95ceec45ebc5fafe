import TypeExpr.Proofs.Enclosing
import TypeExpr.Proofs.Quoting
import TypeExpr.Regex.Check

/-!
# Spellings of resources

A kind of resource can be written as a reference of its own, in the brackets of `Resource` as a
reference, or there as a string; and each of the three can be given a title.  The title is the last
argument in each of them, and what comes before it only says which kind is meant (`AwaitsTitle`).
So what becomes of the title is the same in all (`Node.titled`): the type, or a fault somewhere in
it, which quotes the same text wherever the title stands (`AwaitsTitle.verdict_eq`).

The text of the title is any text that is read as an expression, leaves no comment open and leaves
room for a bracket.  No more is asked of it: it may denote nothing, or something that is no title,
and then all three spellings fail for the same cause and quote the same part of it.  That they do
not blame the same span is the reason why a verdict leaves the span out.

Without a title there is nothing to compare but three short texts, and each of them is read as its
tokens and given its type by a rule.
-/

namespace TypeExpr

open Text (byteLength escapeQuoted quoteChars lower)
open Grammar (bracketDepth mostOpen opened_of_means)
open Rules

/-- What a text comes to, wherever in it that stands: the type that it denotes, or the cause of the
    failure and the text that the failure quotes. -/
def verdict [PatternLanguage] (text : String) : Except (Failure.Cause × String) DataType :=
  (parse text).mapError fun f => (f.cause, f.text)

/-! ## Titles

What stands before the title has been read to a state with one open bracket, and is evaluated to the
arguments before the title.  All that is left open is the last argument, and so the same can be said
of all three spellings at once.
-/

namespace Node

variable {α : Type}

/-- The resource of a kind that has an expression in brackets for its title. -/
def titled (kind : String) (title : Node α) : Except (Fault α) DataType := do
  let value ← title.denote 1
  return .resourceOf (some kind) (some (← (⟨value, title.note⟩ : Argument α).take Value.title?))

/-- A title means the same wherever it stands, and what is blamed moves with it. -/
theorem titled_shift (kind : String) (title : Node Span) (k : Nat) :
    (title.shift k).titled kind = mapResult (Span.shift k) id (title.titled kind) := by
  have hdenote : (title.shift k).denote 1 =
      mapResult (Span.shift k) (Value.mapBounds id) (title.denote 1) := by
    rw [shift_eq_map, denote_map fun _ => id_eq _]
  unfold titled
  refine mapResult_bind hdenote fun value => ?_
  rw [note_shift]
  exact Argument.one_map (a := ⟨value, title.note⟩) (fun v => Value.title?_mapBounds v)
    fun _ => rfl

/-- What a title is blamed for is a part of its text. -/
theorem exists_isPart_of_titled [PatternLanguage] {text kind : String} {title : Node Span}
    {fault : Fault Span}
    (h : ofText text = .ok (some title)) (hfault : title.titled kind = .error fault) :
    ∃ part, Text.IsPart text.toList part fault.note := by
  obtain ⟨steps, m, hway, hnote⟩ : ∃ steps m, Way title steps m ∧ fault.note = m.note := by
    rcases bind_eq_error_iff.1 hfault with hdenote | ⟨value, -, htitle⟩
    · exact exists_way_of_denote hdenote
    · rw [Argument.eq_of_one_eq_error htitle]
      exact ⟨[], title, .here title, rfl⟩
  obtain ⟨part, -, -, hpart, -⟩ := exists_isPart_of_way h hway
  exact ⟨part, hnote ▸ hpart⟩

/-- One more argument is evaluated behind the others. -/
theorem denoteAll_append_one {depth : Nat} {ns : List (Node α)} {args : List (Argument α)}
    (h : denoteAll depth ns = .ok args) (n : Node α) : denoteAll depth (ns ++ [n]) =
      (n.denote depth).map fun value => args ++ [⟨value, n.note⟩] := by
  induction ns generalizing args with
  | nil =>
    cases h
    rw [List.nil_append, denoteAll]
    cases n.denote depth <;> rfl
  | cons m ms ih =>
    rw [denoteAll] at h
    obtain ⟨value, hvalue, hrest⟩ := bind_eq_ok_iff.1 h
    obtain ⟨rest, hms, hargs⟩ := bind_eq_ok_iff.1 hrest
    cases hargs
    rw [List.cons_append, denoteAll, hvalue, ih hms]
    cases n.denote depth <;> rfl

end Node

/-- The characters open a bracket of which the last argument becomes the title of a resource of the
    kind. -/
def AwaitsTitle [PatternLanguage] (front kind : String) : Prop :=
  ∃ name a opened items args,
    Enters front.toList (.wanting [⟨some (.leaf (.reference name) a), opened, items⟩]) ∧
    Node.denoteAll 1 items.reverse = .ok args ∧
    ∀ (note : Span) (x : Argument Span), TypeName.apply note (.ofLower name) (args ++ [x]) =
      do return .resourceOf (some kind) (some (← x.take Value.title?))

/-- Behind an opening for a title, the text of a title denotes the resource that has it. -/
theorem AwaitsTitle.parse_eq [PatternLanguage] {front kind text : String} {title : Node Span}
    (hfront : AwaitsTitle front kind) (h : Node.ofText text = .ok (some title))
    (hend : ¬EndsInComment text) (hdepth : OpensAtMost 255 text) :
    parse (front ++ text ++ "]") =
      ((title.shift (byteLength front.toList)).titled kind).mapError fun fault =>
        .ofSpan (front ++ text ++ "]") fault.cause fault.note := by
  obtain ⟨name, a, opened, items, args, henters, hargs, happly⟩ := hfront
  obtain ⟨note, hroot⟩ := Node.ofText_enclosed henters h hend hdepth
  have hroom : ¬maxDepth ≤ 0 := by decide
  rw [parse_of_ofText hroot, Node.interpret, Node.denote]
  simp only [Node.reference?, if_neg hroom, Node.denoteAll_append_one hargs]
  unfold Node.titled
  cases (title.shift (byteLength front.toList)).denote 1 with
  | error fault => rfl
  | ok value =>
    simp only [Except.map, bind, Except.bind, happly]
    cases Argument.take Value.title? (⟨value, _⟩ : Argument Span) <;> rfl

/-- A part of a text is a part of every text that this one stands in. -/
theorem Text.IsPart.enclosed {text part : List Char} {span : Span} (h : IsPart text part span)
    (before after : List Char) :
    IsPart (before ++ text ++ after) part (span.shift (byteLength before)) := by
  obtain ⟨left, right, rfl, rfl⟩ := h
  refine ⟨before ++ left, right ++ after, by simp, ?_⟩
  simp [Span.shift]

/-- **Titles**: whatever opens the bracket, the text in it comes to the same. -/
theorem AwaitsTitle.verdict_eq [PatternLanguage] {front kind text : String} {title : Node Span}
    (hfront : AwaitsTitle front kind) (h : Node.ofText text = .ok (some title))
    (hend : ¬EndsInComment text) (hdepth : OpensAtMost 255 text) :
    verdict (front ++ text ++ "]") = (title.titled kind).mapError fun fault =>
      (fault.cause, String.ofList (Text.slice text.toList fault.note)) := by
  rw [verdict, hfront.parse_eq h hend hdepth, Node.titled_shift]
  cases hfault : title.titled kind with
  | ok t => rfl
  | error fault =>
    -- what is blamed is a part of the title's text, and so of the whole, in the place to which it
    -- has moved
    obtain ⟨part, hpart⟩ := Node.exists_isPart_of_titled h hfault
    have hwhole := hpart.enclosed front.toList [']']
    have htext : front.toList ++ text.toList ++ [']'] = (front ++ text ++ "]").toList := by simp
    rw [htext] at hwhole
    have hquoted := Failure.text_ofSpan hwhole fault.cause
    show Except.error (fault.cause, (Failure.ofSpan (front ++ text ++ "]") fault.cause
      (fault.note.shift (byteLength front.toList))).text) = Except.error (fault.cause, _)
    rw [hquoted, hpart.slice_eq]

/-! ## Kinds

A kind is named in three ways, and each of them stands for it in the brackets of `Resource`.  As a
reference of its own it opens a bracket too.
-/

/-- As an argument of `Resource` the word stands for the kind. -/
def NamesKind [PatternLanguage] (word kind : String) : Prop :=
  ∃ t l v, Spells word.toList t ∧ t.Means l ∧ Denotes (.leaf l ()) v ∧ IsResourceKind v kind

section Kinds

variable {reference kind : String}

/-- The kind of a reference is in lower case already. -/
theorem lowerName_of_eq (h : kind = String.ofList (lower (dropRoot reference.toList))) :
    DataType.lowerName kind = kind := by
  rw [h, DataType.lowerName, String.toList_ofList, Text.lower_lower]

/-- The reference itself stands for the kind. -/
theorem namesKind_reference [PatternLanguage] (href : WordKind.reference.IsWord reference.toList)
    (h : kind = String.ofList (lower (dropRoot reference.toList))) (hfree : kind ∉ reservedNames) :
    NamesKind reference kind := by
  have hkind : IsResourceKind (.type (.resourceOf (some kind) none)) (DataType.lowerName kind) :=
    .resource _
  rw [lowerName_of_eq h] at hkind
  refine ⟨_, _, _, spells_reference_toList href, .reference reference, ?_, hkind⟩
  rw [← h]
  exact .reference () (.other hfree)

/-- Without apostrophes and backslashes there is nothing to escape. -/
theorem escapeQuoted_of_forall {cs : List Char} (h : ∀ c ∈ cs, c ≠ '\'' ∧ c ≠ '\\') :
    escapeQuoted cs = cs := by
  induction cs with
  | nil => rfl
  | cons c cs ih =>
    obtain ⟨hc, hcs⟩ := List.forall_mem_cons.1 h
    rw [escapeQuoted, if_neg (by tauto), ih hcs]

/-- In a kind of resource there is nothing to escape. -/
theorem escapeQuoted_of_isPlain {w : List Char}
    (h : WordKind.lowerReference.isPlain w = true) : escapeQuoted w = w := by
  have hword := WordKind.isWord_of_isPlain WordKind.lawful_lowerReference h
  refine escapeQuoted_of_forall fun c hc => ?_
  have hinside := hword.inside_or_colon WordKind.lawful_lowerReference c hc
  constructor <;> rintro rfl <;> revert hinside <;> decide

/-- In apostrophes the kind stands for itself. -/
theorem namesKind_quote [PatternLanguage] (href : WordKind.reference.IsWord reference.toList)
    (h : kind = String.ofList (lower (dropRoot reference.toList))) :
    NamesKind ("'" ++ kind ++ "'") kind := by
  have hspells := spells_quoteChars kind.toList
  have hescape : escapeQuoted kind.toList = kind.toList := by
    rw [h, String.toList_ofList]
    exact escapeQuoted_of_isPlain (Text.isPlain_lower href)
  have htext : ("'" ++ kind ++ "'").toList = quoteChars kind.toList := by
    rw [quoteChars, hescape]
    simp
  rw [String.ofList_toList] at hspells
  exact ⟨_, _, _, htext ▸ hspells, .string kind, .string kind (), .string kind⟩

end Kinds

theorem spells_resource [PatternLanguage] : Spells "Resource".toList (.reference "Resource") :=
  spells_reference_toList (WordKind.isWord_of_isPlain WordKind.lawful_reference (by decide))

theorem means_resource : (Token.reference "Resource").Means (.reference "resource") :=
  .reference "Resource"

section

variable [PatternLanguage]

/-- **Kinds**: in the brackets of `Resource` the kind denotes its resources. -/
theorem parse_resource {word kind : String} (h : NamesKind word kind) :
    parse ("Resource[" ++ word ++ "]") = .ok (.resourceOf (some kind) none) := by
  obtain ⟨t, l, v, hspells, hmeans, hdenotes, hkind⟩ := h
  have hread := (spells_resource.reads.bracketed hspells.reads).tokens?_eq 0
  have htext : "Resource".toList ++ '[' :: word.toList ++ [']'] =
      ("Resource[" ++ word ++ "]").toList := by simp
  rw [htext] at hread
  have hopened := opened_of_means hmeans
  have hdepth :
      bracketDepth [.reference "Resource", .openBracket, t, .closeBracket] ≤ maxDepth := by
    simp only [bracketDepth, mostOpen, hopened]
    decide
  -- the tokens have the derivation of an access with one argument, and a rule gives it its type
  exact parse_eq_ok_iff.2 ⟨_, _, hread,
    ⟨.access (.primary (.leaf means_resource)) (.listing (.one (.primary (.leaf hmeans)))), hdepth⟩,
    .access () () (.cons hdenotes .nil) (.resource hkind)⟩

/-- A reference opens a bracket for the title of a resource. -/
theorem awaitsTitle_reference {reference kind : String}
    (href : WordKind.reference.IsWord reference.toList)
    (h : kind = String.ofList (lower (dropRoot reference.toList))) (hfree : kind ∉ reservedNames) :
    AwaitsTitle (reference ++ "[") kind := by
  obtain ⟨a, opened, henters⟩ := enters_bracket (spells_reference_toList href) (.reference _)
  rw [← h] at henters
  refine ⟨kind, a, opened, [], [], by simpa using henters, rfl, fun note x => ?_⟩
  rw [TypeName.ofLower_eq_other_iff.2 hfree]
  rfl

/-- `Resource` does so with a kind as its first argument. -/
theorem awaitsTitle_resource {word kind : String} (h : NamesKind word kind) :
    AwaitsTitle ("Resource[" ++ word ++ ", ") kind := by
  obtain ⟨t, l, v, hspells, hmeans, hdenotes, hkind⟩ := h
  obtain ⟨a, opened, henters⟩ := enters_bracket spells_resource means_resource
  obtain ⟨b, henters⟩ := henters.listed hspells hmeans
  have htext : "Resource".toList ++ ['['] ++ word.toList ++ [','] ++ [' '] =
      ("Resource[" ++ word ++ ", ").toList := by simp
  -- The word stands for one leaf, and that has the value which stands for the kind.
  have hvalue : l.denote b = .ok v :=
    Leaf.denote_eq_ok_iff.2 ((Node.denotes_shape_iff (.leaf l b) v).1 (by simpa using hdenotes))
  refine ⟨"resource", a, opened, [.leaf l b], [⟨v, b⟩], htext ▸ henters.space, ?_, fun note x => ?_⟩
  · simp [Node.denoteAll, Node.denote, hvalue, bind, Except.bind, pure, Except.pure, Node.note]
  · have htake : (⟨v, b⟩ : Argument Span).take Value.resourceKind? = .ok kind :=
      Argument.take_eq_ok_iff.2 (Value.resourceKind?_eq_some_iff.2 hkind)
    show (do
      let kind ← (⟨v, b⟩ : Argument Span).take Value.resourceKind?
      let title ← x.take Value.title?
      return DataType.resourceOf (some kind) (some title)) = _
    rw [htake]
    rfl

/-- **Spellings**: a kind of resource, as a reference and in the brackets of `Resource`, denotes the
    same type.  With a title in brackets all three denote the same type, or they fail for the same
    cause and quote the same text. -/
theorem resource_spellings (R r : String) (hR : WordKind.reference.IsWord R.toList)
    (hr : r = String.ofList (lower (dropRoot R.toList))) (hfree : r ∉ reservedNames) :
    (∃ t, parse R = .ok t ∧ parse ("Resource[" ++ R ++ "]") = .ok t ∧
      parse ("Resource['" ++ r ++ "']") = .ok t) ∧
    ∀ x title, Node.ofText x = .ok (some title) → ¬EndsInComment x → OpensAtMost 255 x →
      verdict (R ++ "[" ++ x ++ "]") = verdict ("Resource[" ++ R ++ ", " ++ x ++ "]") ∧
      verdict (R ++ "[" ++ x ++ "]") = verdict ("Resource['" ++ r ++ "', " ++ x ++ "]") := by
  have hreference := namesKind_reference hR hr hfree
  have hquote := namesKind_quote hR hr
  -- Each of the two spellings inside `Resource` names the kind.  So without a title both are one
  -- instance each of `parse_resource`; and with a title all three await one, and come to the same.
  refine ⟨⟨_, ?_, parse_resource hreference, ?_⟩, fun x title hx hend hdepth => ?_⟩
  · have hread := (spells_reference hR).reads.tokens?_eq 0
    exact (parse_of_reference _ hread (by rw [String.toList_ofList, hr]) (.other hfree)).1
  · have htext : "Resource['" ++ r ++ "']" = "Resource[" ++ ("'" ++ r ++ "'") ++ "]" := by
      rw [← String.toList_inj]
      simp
    rw [htext]
    exact parse_resource hquote
  · have htext : "Resource['" ++ r ++ "', " = "Resource[" ++ ("'" ++ r ++ "'") ++ ", " := by
      rw [← String.toList_inj]
      simp
    have hbare := (awaitsTitle_reference hR hr hfree).verdict_eq hx hend hdepth
    have hlisted := (awaitsTitle_resource hreference).verdict_eq hx hend hdepth
    have hquoted := (awaitsTitle_resource hquote).verdict_eq hx hend hdepth
    rw [← htext] at hquoted
    exact ⟨hbare.trans hlisted.symm, hbare.trans hquoted.symm⟩

end

open scoped Program in
/-- A title in brackets of its own, with a comment that is over and a mark in a string. -/
theorem resource_spellings_rooted :
    (∃ t, parse "::Foo::Bar" = .ok t ∧ parse ("Resource[" ++ "::Foo::Bar" ++ "]") = .ok t ∧
      parse ("Resource['" ++ "foo::bar" ++ "']") = .ok t) ∧
    Node.ofText "#\n'a#b'" = .ok (some (.leaf (.string "a#b") ⟨2, 7⟩)) ∧
    verdict ("::Foo::Bar" ++ "[" ++ "#\n'a#b'" ++ "]") =
      verdict ("Resource[" ++ "::Foo::Bar" ++ ", " ++ "#\n'a#b'" ++ "]") ∧
    verdict ("::Foo::Bar" ++ "[" ++ "#\n'a#b'" ++ "]") =
      verdict ("Resource['" ++ "foo::bar" ++ "', " ++ "#\n'a#b'" ++ "]") := by
  have hword : WordKind.reference.split? "::Foo::Bar".toList = some ("::Foo::Bar".toList, []) := by
    decide
  have htoken : tokenize "#\n'a#b'" = .ok [⟨.string "a#b", ⟨2, 7⟩⟩] := by
    decide +kernel
  have hread : Node.ofText "#\n'a#b'" = .ok (some (.leaf (.string "a#b") ⟨2, 7⟩)) := by
    rw [Node.ofText, htoken]
    rfl
  have hend : ¬EndsInComment "#\n'a#b'" := by
    have hopened : tokenize "#\n'a" = .error ⟨.unterminatedString, ⟨2, 4⟩⟩ := by
      decide +kernel
    rintro ⟨before, comment, htext, hcomment, ls, hls⟩
    -- the first mark has a line feed behind it, and up to the second one a string is open
    rcases before with _ | ⟨a, _ | ⟨b, _ | ⟨c, _ | ⟨d, _ | ⟨e, _ | ⟨f, _ | ⟨g, before⟩⟩⟩⟩⟩⟩⟩ <;>
      simp at htext
    · exact hcomment (by simp [← htext])
    · obtain ⟨rfl, rfl, rfl, rfl, -⟩ := htext
      cases hopened.symm.trans hls
  have htokens : Cursor.tokens? ⟨0, "#\n'a#b'".toList⟩ = some [.string "a#b"] := by
    decide +kernel
  have hopens : OpensAtMost 255 "#\n'a#b'" := (opensAtMost_iff htokens).2 (by decide)
  obtain ⟨hkind, htitled⟩ := resource_spellings "::Foo::Bar" "foo::bar"
    (WordKind.isWord_of_split? WordKind.lawful_reference hword) (by decide) (by decide)
  exact ⟨hkind, hread, htitled _ _ hread hend hopens⟩

end TypeExpr
