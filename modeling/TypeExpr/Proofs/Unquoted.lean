import TypeExpr.Proofs.Resources

/-!
# Words without quotes

In a canonical text a name stands without quotes where it can.  Whether it can is decided by its
characters and by two tables, the keywords and the reserved names; what reading makes of it agrees
with that.

The name of a class stands as it is exactly if it is read as itself: as one name, which is no
keyword and has no root to lose (`readsAsItself_iff`).  The text cannot have blanks or a comment
beside that name, since the word that was read occurs in the text (`word_infix_of_tokenize`) and is
as long as the text at least.

A kind of resource has a reference exactly if there is any text of one reference that denotes the
kind, however that text is written (`exists_refersTo_iff`).  The capitalised form is then such a
text (`parse_of_asReference?`).
-/

namespace TypeExpr

open Text (byteLength escapeQuoted lower)
open Rules

/-! ## The words of a text

A word that was read occurs in the text.  Quoted text does not count as a word here, since escapes
are undone in it.
-/

/-- The spelling of a name or a reference. -/
def Token.word? : Token → Option String
  | name s | reference s => some s
  | _ => none

section

variable [PatternLanguage]

/-- **Step**: a name or a reference is read from its spelling. -/
theorem toList_word_of_readToken {c : Char} {cs w rest : List Char} {t : Token}
    (h : readToken c cs = .token t w rest) : ∀ s ∈ t.word?, s.toList = w := by
  refine readToken_cases (P := fun _ _ r => r = .token t w rest → ∀ s ∈ t.word?, s.toList = w)
    ?mark ?literal ?number ?word c cs h
  case mark =>
    rintro c t cs hmark ⟨⟩
    cases hmark <;> nofun
  -- a literal is a string or a pattern, and a number is a number; neither has a word
  case literal =>
    intro d u token cs hopens h
    obtain ⟨v, hv⟩ := exists_of_readDelimited h
    rcases hopens.cases_of_token hv with ⟨s, rfl⟩ | ⟨p, rfl⟩ <;> nofun
  case number =>
    intro c cs h
    obtain ⟨negative, n, -, -, ht⟩ :=
      exists_numeral_of_readNumber (Reading.closed_eq_token_iff.1 h).1
    rcases Numeral.cases_of_token ht with ⟨i, rfl⟩ | ⟨x, -, rfl⟩ <;> nofun
  case word =>
    intro c cs h
    rcases isWord_of_readWord (Reading.closed_eq_token_iff.1 h).1 with ⟨-, rfl⟩ | ⟨-, rfl⟩
    · rintro s ⟨⟩
      exact String.toList_ofList
    · rintro s ⟨⟩
      exact String.toList_ofList

/-- **Run**: so are all the names and references of a text. -/
theorem Cuts.toList_word {cs rest : List Char} {ps : List Piece} (h : Cuts cs ps rest) :
    ∀ p ∈ ps, ∀ s ∈ p.token.word?, s.toList = p.word := by
  induction h with
  | nil => simp
  | cons _ hread _ ih => exact List.forall_mem_cons.2 ⟨toList_word_of_readToken hread, ih⟩

/-- The names and references of a text occur in it as they are spelled. -/
theorem word_infix_of_tokenize {text : String} {ls : List Lexeme} (h : tokenize text = .ok ls)
    {l : Lexeme} (hl : l ∈ ls) {s : String} (hs : s ∈ l.token.word?) :
    s.toList <:+: text.toList := by
  obtain ⟨ps, rest, hcuts, -, rfl⟩ := Cursor.lexemes_eq_ok_iff.1 h
  obtain ⟨p, hp, htoken⟩ := Piece.exists_of_mem_lexemes hl
  rw [htoken] at hs
  have hword : p.word <:+: p.text := (List.suffix_append p.gap p.word).isInfix
  have hpieces : p.text <:+: Piece.texts ps := by
    obtain ⟨before, after, rfl⟩ := List.append_of_mem hp
    exact ⟨Piece.texts before, Piece.texts after, by simp [Piece.text]⟩
  rw [hcuts.toList_word p hp s hs, hcuts.eq_append]
  exact (hword.trans hpieces).trans (List.prefix_append _ rest).isInfix

/-- A text that spells one token has it for its only lexeme, over the whole text. -/
theorem Spells.tokenize_eq {s : String} {t : Token} (h : Spells s.toList t) :
    tokenize s = .ok [⟨t, ⟨0, byteLength s.toList⟩⟩] := by
  obtain ⟨c, cs, hs, hblank, hcomment, hread⟩ := h
  have hlexemes := Cursor.lexemes_of_readToken hblank hcomment (hread [] delimits_nil) 0
  have hend := Cursor.lexemes_of_exhausted (.nil []) rfl (0 + byteLength s.toList)
  rwa [List.append_nil, hend, ← hs, Nat.zero_add] at hlexemes

end

/-! ## Plain words

Plain is what can be told from the characters of a word alone.
-/

theorem dropRoot_suffix (cs : List Char) : dropRoot cs <:+ cs := by
  fun_cases dropRoot cs with
  | case1 cs => exact List.suffix_append [':', ':'] cs
  | case2 => exact List.suffix_rfl

/-- A word is plain if it has no root to lose. -/
theorem WordKind.isPlain_iff {k : WordKind} (hk : k.Lawful) {w : List Char} :
    k.isPlain w = true ↔ k.IsWord w ∧ dropRoot w = w := by
  constructor
  · intro h
    exact ⟨isWord_of_isPlain hk h, dropRoot_of_isPlain hk h⟩
  · rintro ⟨hword, hroot⟩
    cases hword with
    | plain hc hcs => exact isPlain_of_goesOn hk hc hcs
    | rooted =>
      have hlength := congrArg List.length hroot
      simp [dropRoot] at hlength

/-! ## Names

On the one side stands how a name is written, which is decided by its characters and a table; on the
other what reading makes of the name as a text.  Both come to the same two conditions.
-/

/-- Escaping never makes a text shorter. -/
theorem length_le_escapeQuoted (cs : List Char) : cs.length ≤ (escapeQuoted cs).length := by
  induction cs with
  | nil => exact Nat.le_refl 0
  | cons c cs ih =>
    rw [escapeQuoted]
    split <;> simp only [List.length_cons] <;> omega

/-- A text in quotes is another text, since it is longer. -/
theorem quote_ne_self (s : String) : Text.quote s ≠ s := by
  intro h
  have hlength := congrArg (fun t => t.toList.length) h
  simp only [Text.quote, Text.quoteChars, String.toList_ofList, List.length_cons,
    List.length_append] at hlength
  have := length_le_escapeQuoted s.toList
  omega

/-- A name stands without quotes exactly if it is plain and no keyword. -/
theorem nameArgument_eq_self_iff {name : String} : nameArgument name = name ↔
    WordKind.name.isPlain name.toList = true ∧ name ∉ keywords := by
  unfold nameArgument
  split
  · rename_i h
    simpa using h
  · rename_i h
    exact iff_of_false (quote_ne_self name) (by simpa using h)

example : nameArgument "::a" = "'::a'" ∧ nameArgument "undef" = "'undef'" := by decide

/-- The text is one name, and reading makes it the name that the text is. -/
def ReadsAsItself [PatternLanguage] (name : String) : Prop :=
  ∃ word span, tokenize name = .ok [⟨.name word, span⟩] ∧
    Node.ofText name = .ok (some (.leaf (.name name) span))

/-- What is read as a name is one that is no keyword, perhaps with a root. -/
theorem Token.Means.exists_of_name {t : Token} {name : String} (h : t.Means (.name name)) :
    ∃ word, t = .name word ∧ word ∉ keywords ∧ name.toList = dropRoot word.toList := by
  cases h with
  | name word hkeyword => exact ⟨word, rfl, hkeyword, String.toList_ofList⟩

/-- The texts that are read as themselves are the same ones. -/
theorem readsAsItself_iff [PatternLanguage] {name : String} : ReadsAsItself name ↔
    WordKind.name.isPlain name.toList = true ∧ name ∉ keywords := by
  constructor
  · rintro ⟨word, span, hls, hroot⟩
    obtain ⟨ts, hts, hspec⟩ := Node.exists_ofText_iff.1 ⟨_, hroot, rfl⟩
    obtain ⟨t, rfl, ht⟩ := Grammar.specification_leaf_iff.1 hspec
    obtain ⟨_, rfl, hkeyword, hname⟩ := ht.exists_of_name
    cases hts.symm.trans (tokens?_eq_some_iff.2 ⟨_, hls, rfl⟩)
    -- the word occurs in the text, and the text is what is left of the word
    have hoccurs := word_infix_of_tokenize hls (List.mem_singleton.2 rfl) rfl
    have hsuffix : name.toList <:+: word.toList := hname ▸ (dropRoot_suffix _).isInfix
    obtain rfl : word = name :=
      String.toList_inj.1 (hoccurs.eq_of_length_le hsuffix.length_le)
    have hlexical := Cursor.lexical_of_lexemes hls _ (List.mem_singleton.2 rfl)
    have hword : WordKind.name.IsWord word.toList := hlexical.isWord_name
    exact ⟨(WordKind.isPlain_iff WordKind.lawful_name).2 ⟨hword, hname.symm⟩, hkeyword⟩
  · rintro ⟨hplain, hkeyword⟩
    have hword := WordKind.isWord_of_isPlain WordKind.lawful_name hplain
    have hspells := spells_name_toList hword
    have hmeans := Token.Means.name name hkeyword
    rw [dropRoot_of_isPlain WordKind.lawful_name hplain, String.ofList_toList] at hmeans
    refine ⟨name, _, hspells.tokenize_eq, Node.ofText_eq_ok_iff.2 ⟨_, hspells.tokenize_eq, ?_⟩⟩
    exact Node.ofLexemes_eq_ok_iff_derives.2
      ⟨.leaf _ hmeans, (Grammar.specification_leaf_iff.2 ⟨_, rfl, hmeans⟩).2⟩

/-! ## Kinds of resources

Every text of one reference is read as a kind or as a reserved name.  So if any such text denotes
the kind, the kind is the reference in lower case, and it is a plain word that is not reserved.
-/

/-- The text is one reference, perhaps with blanks and comments around it, and denotes the resources
    of the kind. -/
def RefersTo [PatternLanguage] (text kind : String) : Prop :=
  (∃ r span, tokenize text = .ok [⟨.reference r, span⟩]) ∧
    parse text = .ok (.resource (some ⟨kind, none⟩))

/-- A bare name denotes the resources of a kind exactly if it is no reserved name and the kind is
    the name in small letters. -/
theorem bare_resource_iff {name kind : String} :
    Rules.Bare name (.resource (some ⟨kind, none⟩)) ↔
      name ∉ reservedNames ∧ kind = DataType.lowerName name := by
  constructor
  · intro h
    generalize htype : DataType.resource (some ⟨kind, none⟩) = t at h
    cases h with
    | other hfree => cases htype; exact ⟨hfree, rfl⟩
    | _ => cases htype
  · rintro ⟨hfree, rfl⟩
    exact .other hfree

section

variable [PatternLanguage]

/-- A text of one reference denotes the kind that the reference is in lower case, if it is one. -/
theorem parse_eq_resource_iff {text r kind : String} {span : Span}
    (h : tokenize text = .ok [⟨.reference r, span⟩]) :
    parse text = .ok (.resource (some ⟨kind, none⟩)) ↔
      kind = String.ofList (lower (dropRoot r.toList)) ∧ kind ∉ reservedNames := by
  have htokens := tokens?_eq_some_iff.2 ⟨_, h, rfl⟩
  rw [parse_eq_ok_iff_of_means htokens (.reference r), denotes_reference_iff]
  constructor
  · rintro ⟨t, hbare, ht⟩
    cases ht
    obtain ⟨hfree, hkind⟩ := bare_resource_iff.1 hbare
    rw [lowerName_of_eq rfl] at hkind
    exact ⟨hkind, hkind ▸ hfree⟩
  · rintro ⟨hkind, hfree⟩
    refine ⟨_, bare_resource_iff.2 ⟨hkind ▸ hfree, ?_⟩, rfl⟩
    rw [lowerName_of_eq rfl, hkind]

/-- The reference that a kind is written as is read as itself. -/
theorem tokenize_of_asReference? {kind t : String} (h : asReference? kind = some t) :
    tokenize t = .ok [⟨.reference t, ⟨0, byteLength t.toList⟩⟩] := by
  have hword := WordKind.isWord_of_isPlain WordKind.lawful_reference (isPlain_of_asReference? h)
  exact (spells_reference_toList hword).tokenize_eq

/-- The reference that a kind is written as denotes the kind. -/
theorem parse_of_asReference? {kind t : String} (h : asReference? kind = some t) :
    parse t = .ok (.resource (some ⟨kind, none⟩)) := by
  obtain ⟨hleaf, hname⟩ := DataType.referenceLeaf_of_asReference? h
  refine (parse_eq_resource_iff (tokenize_of_asReference? h)).2 ⟨?_, ?_⟩
  · exact (Leaf.reference.inj hleaf).symm
  · exact TypeName.ofLower_eq_other_iff.1 hname

/-- A kind has a reference exactly if some text of one reference denotes it. -/
theorem exists_refersTo_iff {kind : String} :
    (∃ text, RefersTo text kind) ↔ ∃ t, asReference? kind = some t := by
  constructor
  · rintro ⟨text, ⟨r, span, hls⟩, hparse⟩
    obtain ⟨rfl, hfree⟩ := (parse_eq_resource_iff hls).1 hparse
    have hlexical := Cursor.lexical_of_lexemes hls _ (List.mem_singleton.2 rfl)
    have hplain := Text.isPlain_lower hlexical.isWord_reference
    have hreserved := TypeName.isReserved_ofLower_eq_false_iff.2 hfree
    refine ⟨_, asReference?_eq_some_iff.2 ⟨?_, hreserved, rfl⟩⟩
    rwa [String.toList_ofList]
  · rintro ⟨t, ht⟩
    exact ⟨t, ⟨t, _, tokenize_of_asReference? ht⟩, parse_of_asReference? ht⟩

end

example : asReference? "a2::b_" = some "A2::B_" ∧ asReference? "a::_b" = none := by decide +kernel

/-- **Without quotes**: a kind of resource is written as a reference exactly if some text of one
    reference denotes it; the reference that it is written as is then such a text, over all its
    length.  The name of a class is written as it is exactly if it is read as itself. -/
theorem unquoted_iff_reads_back [PatternLanguage] (n : String) :
    ((∃ t, asReference? n = some t) ↔ ∃ text, RefersTo text n) ∧
    (∀ t, asReference? n = some t →
      tokenize t = .ok [⟨.reference t, ⟨0, byteLength t.toList⟩⟩] ∧
      parse t = .ok (.resource (some ⟨n, none⟩))) ∧
    (nameArgument n = n ↔ ReadsAsItself n) := by
  refine ⟨exists_refersTo_iff.symm, fun t ht => ?_, ?_⟩
  · exact ⟨tokenize_of_asReference? ht, parse_of_asReference? ht⟩
  · rw [nameArgument_eq_self_iff, readsAsItself_iff]

end TypeExpr
