import TypeExpr.Proofs.Literals
import TypeExpr.Proofs.Resources

/-!
# Blanks around a text

Blanks before a text and behind it make no difference to what it comes to (`IsPadded.verdict_eq`).

Those before it are passed over, and reading is the same behind them (`Cursor.lexemes_gap`).  Those
behind it need more of an argument, since they may fall into something that is still open: a
comment, a word that could go on, a string or a pattern that is not closed, or a backslash that
takes one of them along.  But no token ends with a blank (`endsInInk_of_readToken`).  So if the text
can be read with the blanks, its tokens end before them, and it can be read without them; and if it
can be read without them, a blank delimits its last word and goes on with its last gap
(`Cursor.lexemes_append_blanks`).

Which characters are blanks is the same for the reader and for trimming (`Text.isBlank`).  If it
were not, a line could change its meaning when it is trimmed.

Failures need care too.  A failure about a node keeps its cause and the text it quotes, and its span
moves by the bytes of the blanks in front.  A failure about the whole text quotes the blanks when
they are there, and so it is only said of it that there is one (`DenotesNoType`).
-/

namespace TypeExpr

open Text (byteLength isBlank splitTrivia trim Gap IsPart)

/-! ## Blanks

Blanks behind a text do no harm to what is read of it, except where something is still open at its
end.
-/

/-- Nothing but blanks. -/
def AllBlank (cs : List Char) : Prop := ∀ c ∈ cs, isBlank c = true

/-- A blank does not run into a word before it. -/
theorem runsOn_of_isBlank {c : Char} (h : isBlank c = true) : runsOn c = false := by
  have hall : ∀ r ∈ Text.blankRanges, ∀ i < r.2 + 1 - r.1,
      runsOn (Char.ofNat (r.1 + i)) = false := by decide +kernel
  obtain ⟨r, hr, hlow, hhigh⟩ := Text.Ranges.has_iff.1 h
  have hc := hall r hr (c.toNat - r.1) (by omega)
  rwa [Nat.add_sub_cancel' hlow, Char.ofNat_toNat] at hc

theorem AllBlank.delimits {cs : List Char} (h : AllBlank cs) : Delimits cs := by
  cases cs with
  | nil => exact delimits_nil
  | cons c cs => exact delimits_cons (runsOn_of_isBlank (h c List.mem_cons_self))

/-- Blanks are a gap by themselves. -/
theorem AllBlank.gap {cs : List Char} (h : AllBlank cs) : Gap false cs := by
  induction cs with
  | nil => exact .nil
  | cons c cs ih =>
    obtain ⟨hc, hcs⟩ := List.forall_mem_cons.1 h
    exact .blank hc (ih hcs)

/-- Blanks are passed over, also inside a comment. -/
theorem AllBlank.splitTrivia_eq {cs : List Char} (h : AllBlank cs) (inComment : Bool) :
    (splitTrivia inComment cs).2 = [] := by
  induction cs generalizing inComment with
  | nil => rfl
  | cons c cs ih =>
    obtain ⟨hc, hcs⟩ := List.forall_mem_cons.1 h
    cases inComment with
    | true => simpa [splitTrivia] using ih hcs _
    | false => simpa [splitTrivia, hc] using ih hcs _

/-- Whether a token is left of a text does not depend on blanks at its end. -/
theorem splitTrivia_append_blanks_iff {inComment : Bool} {cs trail : List Char}
    (h : AllBlank trail) :
    (splitTrivia inComment (cs ++ trail)).2 = [] ↔ (splitTrivia inComment cs).2 = [] := by
  fun_induction splitTrivia inComment cs with
  | case1 inComment => simpa using h.splitTrivia_eq inComment
  | case2 c cs ih => simpa [splitTrivia] using ih
  | case3 inComment c cs hcomment hblank ih => simpa [splitTrivia, hcomment, hblank] using ih
  | case4 inComment cs hcomment hblank ih => simpa [splitTrivia, hcomment, hblank] using ih
  | case5 inComment c cs hcomment hblank hhash => simp [splitTrivia, hcomment, hblank, hhash]

/-- What is left of a text when it is trimmed, and the blanks around it. -/
theorem exists_eq_append_trim (cs : List Char) :
    ∃ lead trail, cs = lead ++ trim cs ++ trail ∧ AllBlank lead ∧ AllBlank trail := by
  refine ⟨cs.takeWhile isBlank, ((cs.dropWhile isBlank).reverse.takeWhile isBlank).reverse, ?_,
    fun c hc => List.all_eq_true.1 List.all_takeWhile c hc,
    fun c hc => List.all_eq_true.1 List.all_takeWhile c (List.mem_reverse.1 hc)⟩
  rw [trim, List.append_assoc, ← List.reverse_append, List.takeWhile_append_dropWhile,
    List.reverse_reverse, List.takeWhile_append_dropWhile]

/-! ## Tokens end in ink

One lemma for each kind of token.  It follows that blanks at the end of a text that can be read
belong to no token.
-/

/-- The last character is there and is no blank. -/
def EndsInInk (cs : List Char) : Prop := ∃ front c, cs = front ++ [c] ∧ isBlank c = false

/-- What a text ends with does not depend on what comes before it. -/
theorem EndsInInk.append_left {cs : List Char} (h : EndsInInk cs) (front : List Char) :
    EndsInInk (front ++ cs) := by
  obtain ⟨cs, c, rfl, hc⟩ := h
  exact ⟨front ++ cs, c, by simp, hc⟩

/-- A text without blanks ends with something that is none. -/
theorem endsInInk_of_forall {cs : List Char} (hne : cs ≠ []) (h : ∀ c ∈ cs, isBlank c = false) :
    EndsInInk cs := by
  rcases List.eq_nil_or_concat cs with rfl | ⟨front, c, rfl⟩
  · exact absurd rfl hne
  · exact ⟨front, c, List.concat_eq_append, h c (by simp)⟩

/-- What may run into a word is no blank. -/
theorem isBlank_of_runsOn {c : Char} (h : runsOn c = true) : isBlank c = false := by
  by_contra hc
  rw [Bool.not_eq_false] at hc
  simp [runsOn_of_isBlank hc] at h

/-- A row of characters that words are made of ends with one of them. -/
theorem endsInInk_of_isRow {p : Char → Bool} {cs : List Char} (h : IsRow p cs)
    (hp : ∀ c, p c = true → WordKind.reference.inside c = true) : EndsInInk cs :=
  endsInInk_of_forall h.1 fun c hc => isBlank_of_runsOn (runsOn_of_inside (hp c (h.2 c hc)))

/-- The last character of a numeral is a digit. -/
theorem Numeral.WellFormed.endsInInk {n : Numeral} (h : n.WellFormed) : EndsInInk n.spelling := by
  have hdigits {ds : List Char} (h : IsRow isDigit ds) : EndsInInk ds :=
    endsInInk_of_isRow h fun _ => inside_of_isDigit
  cases h with
  | @hexadecimal mark ds _ hds =>
    exact (endsInInk_of_isRow hds fun _ => inside_of_isHexDigit).append_left ['0', mark]
  | whole hds => exact hdigits hds
  | @decimal ds fs e hds hfs hmore he =>
    cases e with
    | some x =>
      have hexponent := (hdigits (he x rfl).digits).append_left x.sign.toList
      exact (hexponent.append_left [x.mark]).append_left _
    | none =>
      have hne : fs ≠ [] := hmore.resolve_right (by simp)
      have hspelling : (Numeral.decimal ds fs none).spelling = ds ++ ('.' :: fs) := by
        simp [Numeral.spelling, hne]
      rw [hspelling]
      exact ((hdigits ⟨hne, hfs⟩).append_left ['.']).append_left ds

/-- There is no blank in a word, its colons included. -/
theorem WordKind.IsWord.endsInInk {k : WordKind} (hk : k.Lawful) {w : List Char} (h : k.IsWord w) :
    EndsInInk w := by
  refine endsInInk_of_forall (by cases h <;> simp) fun c hc => ?_
  rcases h.inside_or_colon hk c hc with hinside | rfl
  · exact isBlank_of_runsOn (hk.runsOn_of_inside hinside)
  · decide

/-- No token ends with a blank: a literal ends with its mark, a number with a digit, and in a word
    there are no blanks at all. -/
theorem endsInInk_of_readToken [PatternLanguage] {c : Char} {cs w rest : List Char} {t : Token}
    (h : readToken c cs = .token t w rest) : EndsInInk w := by
  -- One case for each kind of token; for a literal the character that counts is its closing mark.
  refine readToken_cases (P := fun _ _ r => r = .token t w rest → EndsInInk w) ?_ ?_ ?_ ?_ c cs h
  · rintro c t cs hmark ⟨⟩
    cases hmark <;> exact ⟨[], _, rfl, by decide⟩
  · intro d u token cs hopens h
    unfold readDelimited at h
    split at h
    · cases h
    · rename_i r hr
      split at h
      · cases h
        obtain ⟨inside, left, -, rfl⟩ := (Delimiter.close?_eq_some_iff hopens.lawful).1 hr
        refine ⟨d.mark :: inside, d.mark, rfl, ?_⟩
        cases hopens <;> decide
      · cases h
  · intro c cs h
    obtain ⟨negative, n, rfl, hn, -⟩ :=
      exists_numeral_of_readNumber (Reading.closed_eq_token_iff.1 h).1
    exact hn.endsInInk.append_left _
  · intro c cs h
    rcases isWord_of_readWord (Reading.closed_eq_token_iff.1 h).1 with ⟨hw, -⟩ | ⟨hw, -⟩
    · exact hw.endsInInk WordKind.lawful_reference
    · exact hw.endsInInk WordKind.lawful_name

/-- Of pieces that have been cut off, the last one ends with its token. -/
theorem Cuts.endsInInk [PatternLanguage] {cs rest : List Char} {ps : List Piece}
    (h : Cuts cs ps rest) : ps = [] ∨ EndsInInk (Piece.texts ps) := by
  induction h with
  | nil => exact Or.inl rfl
  | @cons cs gap xs w left ps rest x t _ hread _ ih =>
    refine Or.inr ?_
    rw [Piece.texts_cons]
    rcases ih with rfl | ih
    · rw [Piece.texts_nil, List.append_nil]
      exact (endsInInk_of_readToken hread).append_left gap
    · exact ih.append_left _

/-! ## Reading with blanks at the ends

Blanks in front move everything, blanks behind do nothing.
-/

/-- What ends in ink ends before blanks that come behind it. -/
theorem exists_of_append_eq_append_blanks {front rest cs trail : List Char}
    (h : front ++ rest = cs ++ trail) (hfront : front = [] ∨ EndsInInk front)
    (htrail : AllBlank trail) : ∃ mid, cs = front ++ mid ∧ rest = mid ++ trail := by
  rcases List.append_eq_append_iff.1 h with ⟨mid, hcs, hrest⟩ | ⟨mid, rfl, rfl⟩
  · exact ⟨mid, hcs, hrest⟩
  · rcases List.eq_nil_or_concat mid with rfl | ⟨mid, d, rfl⟩
    · exact ⟨[], by simp, by simp⟩
    · -- the front would end with a blank
      have hd : isBlank d = true := htrail d (by simp)
      rcases hfront with hnil | ⟨front, c, hfront, hc⟩
      · simp at hnil
      · rw [List.concat_eq_append, ← List.append_assoc] at hfront
        cases (List.append_inj' hfront rfl).2
        rw [hd] at hc
        cases hc

namespace Cursor

/-- A gap that leaves no comment open says nothing. -/
theorem lexemes_gap [PatternLanguage] {gap : List Char} (h : Gap false gap) (offset : Nat)
    (cs : List Char) : lexemes ⟨offset, gap ++ cs⟩ = lexemes ⟨offset + byteLength gap, cs⟩ := by
  refine lexemes_congr ?_
  unfold next
  congr 1
  rw [skipTrivia_eq (h.splitTrivia_append cs), skipTrivia_eq rfl, Text.byteLength_append,
    Nat.add_assoc]

/-- Blanks behind a text say nothing, whatever the text ends with. -/
theorem lexemes_append_blanks [PatternLanguage] {trail : List Char} (h : AllBlank trail)
    (offset : Nat) (cs : List Char) (ls : List Lexeme) :
    lexemes ⟨offset, cs ++ trail⟩ = .ok ls ↔ lexemes ⟨offset, cs⟩ = .ok ls := by
  constructor
  · intro hls
    obtain ⟨ps, rest, hcuts, hrest, rfl⟩ := lexemes_eq_ok_iff.1 hls
    have hink : Piece.texts ps = [] ∨ EndsInInk (Piece.texts ps) :=
      hcuts.endsInInk.imp_left fun hnil => by rw [hnil, Piece.texts_nil]
    obtain ⟨mid, rfl, rfl⟩ := exists_of_append_eq_append_blanks hcuts.eq_append.symm hink h
    exact lexemes_cut_off hcuts ((splitTrivia_append_blanks_iff h).1 hrest) offset
  · intro hls
    obtain ⟨ps, rest, hcuts, hrest, rfl⟩ := lexemes_eq_ok_iff.1 hls
    exact lexemes_of_exhausted (hcuts.append h.delimits)
      ((splitTrivia_append_blanks_iff h).2 hrest) offset

end Cursor

/-! ## What a text between blanks comes to

The tree of the padded text is the tree of the text, moved.  If it has no tree, then neither has the
other, and both blame the whole.
-/

/-- The first text is the second one between blanks, of which those before it take `k` bytes. -/
def IsPadded (padded text : String) (k : Nat) : Prop :=
  ∃ lead trail, padded.toList = lead ++ text.toList ++ trail ∧ AllBlank lead ∧ AllBlank trail ∧
    byteLength lead = k

/-- A text is what is left of it after trimming, between blanks. -/
theorem exists_isPadded_trim (s : String) : ∃ k, IsPadded s (String.ofList (trim s.toList)) k := by
  obtain ⟨lead, trail, hs, hlead, htrail⟩ := exists_eq_append_trim s.toList
  exact ⟨_, lead, trail, by rwa [String.toList_ofList], hlead, htrail, rfl⟩

namespace IsPadded

variable {padded text : String} {k : Nat}

/-- The lexemes are those of the text, moved behind the blanks. -/
theorem tokenize_eq_ok_iff [PatternLanguage] (h : IsPadded padded text k) {ls : List Lexeme} :
    tokenize padded = .ok ls ↔ ∃ ms, tokenize text = .ok ms ∧ ls = ms.map (Lexeme.shift k) := by
  obtain ⟨lead, trail, hpadded, hlead, htrail, rfl⟩ := h
  rw [tokenize, hpadded, List.append_assoc, Cursor.lexemes_gap hlead.gap,
    Cursor.lexemes_append_blanks htrail, Nat.zero_add, Cursor.lexemes_toList]
  cases tokenize text with
  | ok ms => simp [shiftResult, eq_comm]
  | error e => simp [shiftResult]

/-- The expression is that of the text, moved behind the blanks. -/
theorem ofText_eq_ok_iff [PatternLanguage] (h : IsPadded padded text k) {root : Node Span} :
    Node.ofText padded = .ok (some root) ↔
      ∃ n, Node.ofText text = .ok (some n) ∧ root = n.shift k := by
  constructor
  · intro hroot
    obtain ⟨ls, hls, hderives, hdepth⟩ := Node.derives_of_ofText hroot
    obtain ⟨ms, hms, rfl⟩ := h.tokenize_eq_ok_iff.1 hls
    obtain ⟨n, hn, hdepth', rfl⟩ := hderives.exists_of_shift hdepth
    exact ⟨n, Node.ofText_eq_ok_iff.2 ⟨ms, hms, Node.ofLexemes_eq_ok_iff_derives.2 ⟨hn, hdepth'⟩⟩,
      rfl⟩
  · rintro ⟨n, hn, rfl⟩
    obtain ⟨ms, hms, hderives, hdepth⟩ := Node.derives_of_ofText hn
    rw [← map_token_shift k ms] at hdepth
    exact Node.ofText_eq_ok_iff.2 ⟨_, h.tokenize_eq_ok_iff.2 ⟨ms, hms, rfl⟩,
      Node.ofLexemes_eq_ok_iff_derives.2 ⟨hderives.shift k, hdepth⟩⟩

/-- A part of the text is a part of it between blanks. -/
theorem isPart (h : IsPadded padded text k) {part : List Char} {span : Span}
    (hpart : IsPart text.toList part span) : IsPart padded.toList part (span.shift k) := by
  obtain ⟨lead, trail, hpadded, -, -, rfl⟩ := h
  rw [hpadded]
  exact hpart.enclosed lead trail

/-- An expression between blanks denotes the type that it denotes without them; or it fails at the
    same node, for the same cause and with the same text to quote; or both times what it denotes is
    no type. -/
theorem verdict_eq_of_ofText [PatternLanguage] (h : IsPadded padded text k) {n : Node Span}
    (hn : Node.ofText text = .ok (some n)) :
    verdict padded = verdict text ∨ DenotesNoType padded ∧ DenotesNoType text := by
  -- With the blanks the tree is the same one, moved to the right by the bytes of those in front.
  -- So is what it denotes, and the fault blames the node that has moved; its text is still the
  -- same.
  have hpadded := h.ofText_eq_ok_iff.2 ⟨n, hn, rfl⟩
  have hdenote : (n.shift k).denote 0 =
      mapResult (Span.shift k) (Value.mapBounds id) (n.denote 0) := by
    rw [Node.shift_eq_map, Node.denote_map fun _ => id_eq _]
  cases hvalue : n.denote 0 with
  | error fault =>
    obtain ⟨steps, m, hway, hnote⟩ := Node.exists_way_of_denote hvalue
    obtain ⟨part, -, -, hpart, -⟩ := Node.exists_isPart_of_way hn hway
    rw [← hnote] at hpart
    rw [hvalue] at hdenote
    refine Or.inl ?_
    rw [verdict, verdict, parse_of_ofText hpadded, parse_of_ofText hn,
      Node.interpret_of_error hdenote, Node.interpret_of_error hvalue]
    show Except.error (fault.cause, (Failure.ofSpan padded fault.cause
        (fault.note.shift k)).text) =
      Except.error (fault.cause, (Failure.ofSpan text fault.cause fault.note).text)
    rw [Failure.text_ofSpan (h.isPart hpart), Failure.text_ofSpan hpart]
  | ok v =>
    rw [hvalue, mapResult, Value.mapBounds_id] at hdenote
    cases htype : v.type? with
    | none =>
      exact Or.inr ⟨Or.inr (Or.inr ⟨_, v, hpadded, hdenote, htype⟩),
        Or.inr (Or.inr ⟨_, v, hn, hvalue, htype⟩)⟩
    | some t =>
      refine Or.inl ?_
      cases v with
      | type t =>
        rw [verdict, verdict, parse_of_ofText hpadded, parse_of_ofText hn,
          Node.interpret_eq_ok_of_denote_iff.2 hdenote,
          Node.interpret_eq_ok_of_denote_iff.2 hvalue]
      | _ => cases htype

/-- **Blanks at the ends** say nothing: between them a text comes to what it comes to without them,
    or both times the whole is blamed. -/
theorem verdict_eq [PatternLanguage] (h : IsPadded padded text k) :
    verdict padded = verdict text ∨ DenotesNoType padded ∧ DenotesNoType text := by
  by_cases hsome : ∃ n, Node.ofText text = .ok (some n)
  · obtain ⟨n, hn⟩ := hsome
    exact h.verdict_eq_of_ofText hn
  · have hnone {s : String} (hs : ∀ n, Node.ofText s ≠ .ok (some n)) : DenotesNoType s := by
      cases hread : Node.ofText s with
      | error e => exact Or.inl ⟨e, hread⟩
      | ok o =>
        cases o with
        | none => exact Or.inr (Or.inl hread)
        | some n => exact absurd hread (hs n)
    refine Or.inr ⟨hnone fun root hroot => ?_, hnone fun n hn => hsome ⟨n, hn⟩⟩
    obtain ⟨n, hn, -⟩ := h.ofText_eq_ok_iff.1 hroot
    exact hsome ⟨n, hn⟩

end IsPadded

end TypeExpr
