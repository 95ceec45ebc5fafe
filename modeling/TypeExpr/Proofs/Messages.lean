import TypeExpr.Proofs.Blame
import TypeExpr.Proofs.EarliestError
import TypeExpr.Proofs.Quoting

/-!
# Messages of one line

What is said of a specification that stands on one line is one line, whatever it quotes
(`isOneLine_message_of_parse`).  A message is put together from fixed words, from numbers, and from
what was found: a part of the text, a character as it is shown, a token by its name.  A text or a
pattern that is found is named and not shown, and the names and references that are shown are words;
so a line feed that an escape stands for stays inside the string that it is in.

What is shown is followed through the program in the order in which it comes up.  First the words
that messages are made of, numbers above all; then what can be wrong with a token
(`isOneLine_of_tokenize`) and with where it stands (`Node.isOneLine_of_ofLexemes`); and last what
can be wrong with what is denoted, where the only thing to be looked at is the title of a name
(`isOneLine_typeName`) and that no other failure says more than which one it is
(`Node.detail_of_denote`).

What comes from the outside is a text on one line, and nothing else is asked of it. The line feeds
that a message could have would have to be in it already, or to be made of an escape: `"\n"` in a
specification is two characters of the text and one of the string. A string is shown by its kind
alone, so the second cannot happen; and undoing the escapes of a pattern makes no line feed, so a
pattern that is refused may be shown.
-/

namespace TypeExpr

/-- There is no line feed in the text. -/
def IsOneLine (s : String) : Prop := '\n' ∉ s.toList

instance (s : String) : Decidable (IsOneLine s) := inferInstanceAs (Decidable ('\n' ∉ s.toList))

@[simp] theorem isOneLine_append {s t : String} :
    IsOneLine (s ++ t) ↔ IsOneLine s ∧ IsOneLine t := by
  simp [IsOneLine, String.toList_append]

theorem IsOneLine.append {s t : String} (hs : IsOneLine s) (ht : IsOneLine t) :
    IsOneLine (s ++ t) := isOneLine_append.2 ⟨hs, ht⟩

@[simp] theorem isOneLine_ofList {cs : List Char} : IsOneLine (String.ofList cs) ↔ '\n' ∉ cs := by
  rw [IsOneLine, String.toList_ofList]

/-! ## Numbers

Numbers are written with digits, and with a sign, a point or an exponent.
-/

/-- The digits of a number are those of the radix. -/
theorem exists_digitChar_of_mem_toDigits {b n : Nat} {c : Char} (hb : 1 < b)
    (h : c ∈ Nat.toDigits b n) : ∃ d, d < b ∧ c = Nat.digitChar d := by
  induction n using Nat.strongRecOn with
  | _ n ih =>
    by_cases hn : n < b
    · rw [Nat.toDigits_of_lt_base hn, List.mem_singleton] at h
      exact ⟨n, hn, h⟩
    · have hlt : n / b < n := Nat.div_lt_self (by omega) hb
      rw [Nat.toDigits_of_base_le hb (Nat.not_lt.1 hn), List.mem_append, List.mem_singleton] at h
      rcases h with h | h
      · exact ih _ hlt h
      · exact ⟨n % b, Nat.mod_lt n (by omega), h⟩

/-- No digit is a line feed. -/
theorem lineFeed_not_mem_toDigits {b : Nat} (hb : 1 < b) (hb' : b ≤ 16) (n : Nat) :
    '\n' ∉ Nat.toDigits b n := by
  intro h
  have hnone : ∀ d < 16, '\n' ≠ Nat.digitChar d := by decide
  obtain ⟨d, hd, heq⟩ := exists_digitChar_of_mem_toDigits hb h
  exact hnone d (by omega) heq

theorem isOneLine_nat (n : Nat) : IsOneLine (toString n) := by
  rw [IsOneLine, Nat.toString_eq_repr, Nat.toList_repr]
  exact lineFeed_not_mem_toDigits (by decide) (by decide) n

/-- So is an integer, with its sign. -/
theorem isOneLine_int (n : Int) : IsOneLine (toString n) := by
  have hdigits := lineFeed_not_mem_toDigits (b := 10) (by decide) (by decide) n.natAbs
  rw [IsOneLine, toList_toString_int, List.mem_append, not_or]
  refine ⟨?_, hdigits⟩
  split <;> simp

/-- So is a decimal that is written out. -/
theorem lineFeed_not_mem_positional (d : Decimal) (wholePlace : Bool) :
    '\n' ∉ d.positional wholePlace := by
  have hdigits : '\n' ∉ decimalDigits d.digits :=
    lineFeed_not_mem_toDigits (by decide) (by decide) _
  have hzeros (n : Nat) : '\n' ∉ List.replicate n '0' := by simp
  unfold Decimal.positional
  simp only
  split
  · cases wholePlace <;> simp [hdigits]
  · split
    · simp only [List.mem_append, List.mem_cons, not_or]
      exact ⟨fun h => hdigits (List.mem_of_mem_take h), by decide,
        fun h => hdigits (List.mem_of_mem_drop h)⟩
    · simp [hdigits]

/-- In a message a double is written without an exponent. -/
theorem isOneLine_double (x : Double) : IsOneLine (x.text messageNotation) := by
  cases x with
  | nan => decide
  | infinite negative => cases negative <;> decide
  | finite negative rank =>
    have hsign (b : Bool) : '\n' ∉ if b then ['-'] else [] := by
      cases b <;> simp
    have hwrite (d : Decimal) : messageNotation.write d =
        (if d.negative then ['-'] else []) ++ d.positional false := by
      rw [DecimalNotation.write]
      exact congrArg _ (if_pos (Or.inr rfl))
    rw [Double.text, isOneLine_ofList, hwrite, List.mem_append, not_or]
    exact ⟨hsign _, lineFeed_not_mem_positional _ _⟩

/-! ## What was found

A token is called by its name, and a character is shown the way it would be written in a program, so
that a line feed is shown as two characters.
-/

/-- No line feed may stand in a word, since it delimits one. -/
theorem WordKind.Lawful.inside_lineFeed {k : WordKind} (hk : k.Lawful) : k.inside '\n' = false := by
  have hruns : runsOn '\n' = false := runsOn_eq_false_of_mark (by simp)
  by_contra h
  rw [hk.runsOn_of_inside (Bool.not_eq_false _ ▸ h)] at hruns
  cases hruns

/-- There is no line feed in a word. -/
theorem WordKind.IsWord.lineFeed_not_mem {k : WordKind} (hk : k.Lawful) {w : List Char}
    (h : k.IsWord w) : '\n' ∉ w := by
  intro hmem
  rcases h.inside_or_colon hk _ hmem with hinside | hcolon
  · rw [hk.inside_lineFeed] at hinside
    cases hinside
  · exact absurd hcolon (by decide)

/-- **Tokens** that can be read are called by names of one line. -/
theorem Token.Lexical.isOneLine {t : Token} (h : t.Lexical) : IsOneLine t.describe := by
  cases h with
  | reference hw =>
    have hword := isOneLine_ofList.2 (hw.lineFeed_not_mem WordKind.lawful_reference)
    exact .append (.append (by decide) hword) (by decide)
  | name hw =>
    have hword := isOneLine_ofList.2 (hw.lineFeed_not_mem WordKind.lawful_name)
    exact .append (.append (by decide) hword) (by decide)
  | integer n => exact .append (by decide) (isOneLine_int _)
  | @float x => exact .append (by decide) (isOneLine_double x)
  | _ => simp only [describe]; decide

/-- Between apostrophes every character but the line feed is shown without one. -/
theorem isOneLine_showQuotedChar {c : Char} (h : c ≠ '\n') :
    IsOneLine (Text.showQuotedChar c) := by
  -- a character is shown by a letter behind a backslash, as it is, or by its digits
  have hshown : '\n' ∉ Text.showChar '\'' c := by
    unfold Text.showChar
    split_ifs
    · decide
    · decide
    · decide
    · simp [h.symm]
    · simp [h.symm]
    · have hdigits := lineFeed_not_mem_toDigits (b := 16) (by decide) (by decide) c.toNat
      simpa [Text.hexDigits] using hdigits
  rw [Text.showQuotedChar, isOneLine_ofList]
  simp [hshown]

/-! ## Errors of reading

One lemma for each kind of token that can be wrong, and then one for the state that a token can be
out of place in.
-/

/-- The cause is put into words on one line. -/
def SyntaxError.Cause.IsOneLine (cause : SyntaxError.Cause) : Prop :=
  TypeExpr.IsOneLine cause.message

instance (cause : SyntaxError.Cause) : Decidable cause.IsOneLine :=
  inferInstanceAs (Decidable (IsOneLine cause.message))

/-- A number that is refused is shown as it was spelled. -/
theorem SyntaxError.Cause.isOneLine_of_spelling {spelling : String}
    (h : TypeExpr.IsOneLine spelling) :
    (invalidInteger spelling).IsOneLine ∧ (invalidFloat spelling).IsOneLine :=
  ⟨TypeExpr.IsOneLine.append (by decide) h, TypeExpr.IsOneLine.append (by decide) h⟩

/-- If escapes stand for no line feed but one that is written, then none is in the value. -/
theorem Delimiter.lineFeed_not_mem_value {d : Delimiter} {cs : List Char} {r : Closed}
    (hd : ∀ c, c ≠ '\n' → '\n' ∉ d.unescape c) (h : d.close? cs = some r) (hcs : '\n' ∉ cs) :
    '\n' ∉ r.value := by
  -- along the characters of the literal: an escape stands for what it stands for, and any other
  -- character for itself
  fun_induction close? d cs generalizing r with
  | case1 => cases h
  | case2 =>
    cases h
    simp
  | case3 => cases h
  | case4 =>
    cases h
    simp
  | case5 e cs hmark ih =>
    obtain ⟨r', hr, rfl⟩ := Option.map_eq_some_iff.1 h
    simp only [List.mem_cons, not_or] at hcs
    simp only [Closed.after, List.mem_append, not_or]
    exact ⟨hd e (Ne.symm hcs.2.1), ih hr hcs.2.2⟩
  | case6 => cases h
  | case7 c e cs hmark hback hline ih =>
    obtain ⟨r', hr, rfl⟩ := Option.map_eq_some_iff.1 h
    rw [List.mem_cons, not_or] at hcs
    simp only [Closed.after, List.mem_append, List.mem_singleton, not_or]
    exact ⟨hcs.1, ih hr hcs.2⟩

/-- What is wrong with a literal is said on one line: nothing of a string is shown, and of a pattern
    only what stands on the line. -/
theorem isOneLine_of_readDelimited [PatternLanguage] {d : Delimiter} {u : SyntaxError.Cause}
    {token : List Char → Except SyntaxError.Cause Token} (hopens : d.Opens u token)
    {cs blamed taken rest : List Char} {cause : SyntaxError.Cause}
    (h : readDelimited d u token cs = .failure cause blamed taken rest) (hcs : '\n' ∉ cs) :
    cause.IsOneLine := by
  unfold readDelimited at h
  split at h
  · cases h
    cases hopens <;> decide
  · rename_i r hr
    split at h
    · cases h
    · rename_i cause' hcause
      cases h
      cases hopens with
      | apostrophe | doubleQuote => cases hcause
      | slash =>
        -- behind a backslash too a line feed is one that is written
        have hescape : ∀ c, c ≠ '\n' → '\n' ∉ Delimiter.slash.unescape c := by
          intro c hc
          unfold Delimiter.slash
          dsimp only
          split <;> simp [hc.symm]
        have hvalue := Delimiter.lineFeed_not_mem_value hescape hr hcs
        unfold regexToken at hcause
        split at hcause
        · cases hcause
        · cases hcause
          have hpattern := isOneLine_ofList.2 hvalue
          exact TypeExpr.IsOneLine.append (.append (by decide) hpattern) (by decide)

/-- What is wrong with a number is said on one line. -/
theorem isOneLine_of_readNumber {cs blamed taken rest : List Char} {cause : SyntaxError.Cause}
    (h : readNumber cs = .failure cause blamed taken rest) (hcs : '\n' ∉ cs) :
    cause.IsOneLine := by
  unfold readNumber at h
  simp only at h
  split at h
  · cases h
    decide
  · rename_i n left hn
    split at h
    · cases h
    · rename_i cause' hcause
      cases h
      -- the numeral is the beginning of the text, behind the sign
      have hspelling : '\n' ∉ n.spelling := by
        intro hmem
        have hsplit := List.mem_append_left rest hmem
        rw [(Numeral.split?_append hn).1] at hsplit
        split at hsplit
        · exact hcs (List.mem_of_mem_tail hsplit)
        · exact hcs hsplit
      have hspelled (negative : Bool) :
          '\n' ∉ (if negative then ['-'] else []) ++ n.spelling := by
        cases negative <;> simp [hspelling]
      rcases n.token_cases (cs.head? == some '-') with
        ⟨i, hi⟩ | ⟨x, -, hx⟩ | ⟨spelled, rfl, herror | herror⟩
      · cases hi.symm.trans hcause
      · cases hx.symm.trans hcause
      · cases herror.symm.trans hcause
        exact (SyntaxError.Cause.isOneLine_of_spelling (isOneLine_ofList.2 (hspelled _))).1
      · cases herror.symm.trans hcause
        exact (SyntaxError.Cause.isOneLine_of_spelling (isOneLine_ofList.2 (hspelled _))).2

/-- What is wrong where no word begins is said on one line: the character is shown as it is escaped.
    -/
theorem isOneLine_of_readWord {c : Char} {cs blamed taken rest : List Char}
    {cause : SyntaxError.Cause} (h : readWord c cs = .failure cause blamed taken rest)
    (hc : c ≠ '\n') : cause.IsOneLine := by
  unfold readWord at h
  split at h
  · cases h
  · split at h
    · cases h
    · cases h
      exact IsOneLine.append (by decide) (isOneLine_showQuotedChar hc)

/-- What spoils a word is not shown. -/
theorem isOneLine_of_closed {r : Reading} {blamed taken rest : List Char}
    {cause : SyntaxError.Cause} (h : r.closed = .failure cause blamed taken rest)
    (hr : ∀ blamed, r = .failure cause blamed taken rest → cause.IsOneLine) : cause.IsOneLine := by
  unfold Reading.closed at h
  split at h
  · split at h
    · cases h
      decide
    · cases h
  · exact hr blamed h

/-- **Characters** of a line that make up no token are reported on one line. -/
theorem isOneLine_of_readToken [PatternLanguage] {c : Char} {cs blamed taken rest : List Char}
    {cause : SyntaxError.Cause} (h : readToken c cs = .failure cause blamed taken rest)
    (hcs : '\n' ∉ c :: cs) : cause.IsOneLine := by
  refine readToken_cases (P := fun c cs r => r = .failure cause blamed taken rest →
    '\n' ∉ c :: cs → cause.IsOneLine) ?_ ?_ ?_ ?_ c cs h hcs
  · rintro c t cs - ⟨⟩
  · intro d u token cs hopens h hcs
    exact isOneLine_of_readDelimited hopens h fun hmem => hcs (List.mem_cons_of_mem _ hmem)
  · exact fun c cs h hcs => isOneLine_of_closed h fun _ h => isOneLine_of_readNumber h hcs
  · intro c cs h hcs
    rw [List.mem_cons, not_or] at hcs
    exact isOneLine_of_closed h fun _ h => isOneLine_of_readWord h (Ne.symm hcs.1)

/-- What is wrong with the tokens of one line is said on one line. -/
theorem isOneLine_of_tokenize [PatternLanguage] {text : String} {e : SyntaxError}
    (h : tokenize text = .error e) (htext : IsOneLine text) : e.cause.IsOneLine := by
  obtain ⟨ps, rest, gap, blamed, hcuts, ⟨x, xs, taken, left, hgap, hread⟩, -⟩ :=
    Cursor.exists_fails_of_lexemes_eq_error h
  refine isOneLine_of_readToken hread fun hmem => htext ?_
  rw [hcuts.eq_append, eq_append_of_splitTrivia hgap]
  exact List.mem_append_right _ (List.mem_append_right _ hmem)

namespace Node

/-- What is wrong with a token is that it stands where it stands, or that one bracket too many is
    open. -/
theorem State.cause_of_feed_eq_error {s : State} {l : Lexeme} {e : SyntaxError}
    (h : s.feed l = .error e) : e.cause ∈ [.nestedTooDeeply, .valueExpected (some l.token),
      .separatorExpected (some l.token), .trailing l.token] := by
  have henter {target : Option (Node Span)} {opened : Span} {frames : List Frame}
      (h : State.enter target opened frames = .error e) : e.cause = .nestedTooDeeply := by
    unfold enter at h
    split at h <;> cases h
    rfl
  obtain ⟨token, span⟩ := l
  -- of a token it is asked what it may do here: begin a value, or go on behind one
  cases s with
  | wanting frames =>
    simp only [feed] at h
    split at h
    · cases h
    · simp [henter h]
    · cases h
    · cases h
      simp
  | holding value frames =>
    simp only [feed] at h
    split at h
    · simp [henter h]
    · cases h
      simp
    · cases h
    · cases h
    · cases h
      simp

/-- **Tokens** that make up no expression are reported on one line. -/
theorem isOneLine_of_ofLexemes {stop : Nat} {ls : List Lexeme} {e : SyntaxError}
    (h : ofLexemes stop ls = .error e) (hls : ∀ l ∈ ls, l.token.Lexical) : e.cause.IsOneLine := by
  have hresult : ((State.wanting []).run ls).bind (State.finish stop) = .error e := h
  cases hrun : (State.wanting []).run ls with
  | error e' =>
    rw [hrun] at hresult
    cases hresult
    obtain ⟨before, l, after, s, rfl, -, hfeed⟩ := State.exists_feed_eq_error hrun
    have hdescribed : IsOneLine l.token.describe := (hls l (by simp)).isOneLine
    have hcause := State.cause_of_feed_eq_error hfeed
    simp only [List.mem_cons, List.not_mem_nil, or_false] at hcause
    -- three of the four messages name the token
    rcases hcause with hcause | hcause | hcause | hcause <;> rw [hcause]
    · decide
    · exact IsOneLine.append (by decide) hdescribed
    · exact IsOneLine.append (by decide) hdescribed
    · exact IsOneLine.append (.append (by decide) hdescribed) (by decide)
  | ok s =>
    rw [hrun] at hresult
    cases s with
    -- no token is left where one is wanted
    | wanting frames =>
      cases hresult
      exact (by decide : (SyntaxError.Cause.valueExpected none).IsOneLine)
    | holding value frames =>
      cases frames with
      | nil => cases hresult
      | cons =>
        cases hresult
        exact (by decide : (SyntaxError.Cause.separatorExpected none).IsOneLine)

/-- What is wrong with an expression on one line is said on one line. -/
theorem isOneLine_of_ofText [PatternLanguage] {text : String} {e : SyntaxError}
    (h : ofText text = .error e) (htext : IsOneLine text) : e.cause.IsOneLine := by
  unfold ofText at h
  split at h
  · rename_i e' he
    cases h
    exact isOneLine_of_tokenize he htext
  · cases h
  · rename_i t ts hls
    cases hread : ofLexemes (Text.byteLength text.toList) (t :: ts) with
    | ok root =>
      rw [hread] at h
      cases h
    | error e' =>
      rw [hread] at h
      cases h
      exact isOneLine_of_ofLexemes hread (Cursor.lexical_of_lexemes hls)

end Node

/-! ## Failures

A failure says which cause it has, quotes a part of the text, and may have a detail.  The quoted
part is on the line anyway; a detail comes from reading alone; and what is left is the title of a
name, which is a word in capitals.
-/

/-- The title of a name in a tree that was read is one line. -/
theorem TypeName.isOneLine_title {name : String}
    (h : WordKind.lowerReference.isPlain name.toList = true) :
    IsOneLine (ofLower name).title := by
  cases hk : ofLower name with
  | plain p => cases p <;> decide
  | former f => cases f <;> decide
  | ruby | type => decide
  | other kind =>
    obtain ⟨rfl, -⟩ := eq_of_ofLower_eq_other hk
    have hword := WordKind.isWord_of_isPlain WordKind.lawful_reference (Text.isPlain_capitalize h)
    exact isOneLine_ofList.2 (hword.lineFeed_not_mem WordKind.lawful_reference)

/-- How many parameters there have to be is said on one line. -/
theorem Arity.isOneLine_describe (a : Arity) : IsOneLine a.describe := by
  cases a with
  | exactly k => exact isOneLine_nat k
  | between least most =>
    exact .append (.append (isOneLine_nat _) (by decide)) (isOneLine_nat _)
  | atLeast k => exact .append (isOneLine_nat k) (by decide)

/-- A name that refuses arguments says which one it is, and nothing is left to be said in detail. -/
theorem Rules.Refused.ne_invalidSpecification {name : String} {given : Nat} {cause : Failure.Cause}
    (h : Refused name given cause) {detail : Option String} :
    cause ≠ .invalidSpecification detail := by
  cases h <;> nofun

/-- A fault that is about no name says no more. -/
theorem Node.detail_of_denote {α : Type} {n : Node α} {depth : Nat} {fault : Fault α}
    {detail : Option String} (h : n.denote depth = .error fault)
    (hcause : fault.cause = .invalidSpecification detail) : detail = none := by
  have hinvalid {note : α} (hfault : fault = .invalid note) : detail = none := by
    rw [hfault] at hcause
    cases hcause
    rfl
  -- whatever node the fault comes from, it was raised there by itself
  obtain ⟨k, m, -, hraises⟩ := exists_raises_of_denote n depth fault h
  cases hraises with
  | @leaf l note _ hleaf =>
    cases l with
    | reference name =>
      have hbare := Leaf.bare_eq_error_of_denote hleaf
      cases hk : TypeName.ofLower name <;> rw [hk] at hbare <;> cases hbare <;> cases hcause
    | boolean | undefined =>
      cases hleaf
      exact hinvalid rfl
    | _ => cases hleaf
  | array => exact hinvalid rfl
  | target => exact hinvalid rfl
  | tooDeep => exact hinvalid rfl
  | applied hname hdepth hvalues happly =>
    rcases TypeName.exists_of_apply_eq_error happly with
      ⟨cause, hrefusal, rfl⟩ | hfault | ⟨a, -, hfault⟩
    · exact absurd hcause (TypeName.refusal?_eq_some_iff.1 hrefusal).ne_invalidSpecification
    · exact hinvalid hfault
    · exact hinvalid hfault

variable [PatternLanguage]

/-- What a failure says besides is what was wrong in reading. -/
theorem detail_of_parse {text detail : String} {f : Failure} (h : parse text = .error f)
    (hcause : f.cause = .invalidSpecification (some detail)) :
    ∃ e, Node.ofText text = .error e ∧ detail = e.detail text := by
  unfold parse at h
  split at h
  · rename_i e he
    cases h
    cases hcause
    exact ⟨e, he, rfl⟩
  · cases h
    cases hcause
  · rename_i root hroot
    unfold Node.interpret at h
    split at h
    · rename_i fault hfault
      cases h
      cases Node.detail_of_denote hfault hcause
    · cases h
    · cases h
      cases hcause

/-- What a failure quotes are characters of the text. -/
theorem text_subset_of_parse {text : String} {f : Failure} (h : parse text = .error f) :
    f.text.toList ⊆ text.toList := by
  rcases parse_eq_error_cases h with ⟨-, detail, rfl⟩ | ⟨root, fault, hroot, hfault, rfl⟩
  · exact List.Subset.refl _
  · obtain ⟨steps, m, hway, hnote⟩ := Node.exists_way_of_denote hfault
    obtain ⟨part, -, -, hpart, -⟩ := Node.exists_isPart_of_way hroot hway
    rw [← hnote] at hpart
    obtain ⟨before, after, htext, -⟩ := id hpart
    rw [Failure.text_ofSpan hpart, String.toList_ofList, htext, List.append_assoc]
    exact List.subset_append_of_subset_right _ (List.subset_append_left _ _)

/-- The name that a failure is about is written on one line. -/
theorem isOneLine_typeName {text typeName : String} {required : Arity} {given : Nat} {f : Failure}
    (h : parse text = .error f)
    (hcause : f.cause = .invalidParameterCount typeName required given) : IsOneLine typeName := by
  rcases parse_eq_error_cases h with ⟨-, detail, rfl⟩ | ⟨root, fault, hroot, hfault, rfl⟩
  · cases hcause
  · have hfault' : fault.cause = .invalidParameterCount typeName required given := hcause
    have hname : ∀ detail, fault.cause ≠ .invalidSpecification detail := by
      rw [hfault']
      nofun
    obtain ⟨steps, m, depth, hway, hraises, -, -⟩ :=
      Node.exists_raises_way_of_denote hfault hname
    -- only a name that is applied has a number of arguments to be wrong
    rcases hraises.cases_of_name hname with
      ⟨_, _, -, -, hunknown⟩ | ⟨name, arguments, a, b, rfl, href⟩
    · cases hunknown.symm.trans hfault'
    · rw [hfault'] at href
      obtain ⟨rfl, -, -, -⟩ := href.of_count
      have htarget := hway.trans (.down (.target _ _ _) (.here _))
      exact TypeName.isOneLine_title (Node.isPlain_of_way hroot htarget rfl)

/-- **One line**: what is said of a specification of one line is one line. -/
theorem isOneLine_message_of_parse {text : String} {f : Failure} (h : parse text = .error f)
    (htext : IsOneLine text) : IsOneLine f.message := by
  have hquoted : IsOneLine ("<" ++ f.text ++ ">") := by
    have hpart : IsOneLine f.text := fun hmem => htext (text_subset_of_parse h hmem)
    exact .append (.append (by decide) hpart) (by decide)
  unfold Failure.message
  cases hcause : f.cause with
  | unparameterizedType => exact .append (by decide) hquoted
  | unknownType => exact .append (by decide) hquoted
  | invalidParameterCount typeName required given =>
    have htitle := isOneLine_typeName h hcause
    have harity := required.isOneLine_describe
    have hgiven := isOneLine_nat given
    have hwords := (IsOneLine.append (s := "Invalid number of type parameters specified: ")
      (by decide) htitle).append (t := " requires ") (by decide)
    have hcounts := ((hwords.append harity).append (t := ", ") (by decide)).append hgiven
    exact (hcounts.append (t := " provided in ") (by decide)).append hquoted
  | invalidSpecification detail =>
    refine .append (.append (.append (by decide) hquoted) (by decide)) ?_
    cases detail with
    | none => exact (by decide : IsOneLine "")
    | some detail =>
      obtain ⟨e, he, rfl⟩ := detail_of_parse h hcause
      have herror : IsOneLine e.message := Node.isOneLine_of_ofText he htext
      -- the only place where the message of an error of syntax comes in
      have hplace (p : Text.Position) : IsOneLine
          ("(syntax error at " ++ toString p.line ++ ":" ++ toString p.column ++ ": ") :=
        .append (.append (.append (.append (by decide) (isOneLine_nat _)) (by decide))
          (isOneLine_nat _)) (by decide)
      exact .append (s := " ") (by decide) (((hplace _).append herror).append (by decide))

end TypeExpr
