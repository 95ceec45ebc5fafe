import TypeExpr.Proofs.Naturality
import TypeExpr.Proofs.Parsing
import TypeExpr.Regex.Check

/-!
# Freedom of spelling

A specification can be spelled in many ways: with blanks and comments anywhere between its words,
with references in any case and with or without `::` before them, and with a comma behind the last
of the values in a bracket.  None of this makes a difference to what comes out (`same_outcome`).

The argument follows two readings, one of each text.  A comma right before a closing bracket leads
to the state that the bracket leads to without it, wherever the comma is accepted at all
(`State.run_dropLastCommas`); so both can be dropped out of both texts.  What is left are tokens of
which each is like the one in the other text, and the two readings go through states that are alike
(`State.Feeds.exists_of_gist`, `State.exists_run_of_gist`): they differ in spans and in signs of
zeros, and evaluation asks for neither (`Node.denote_map`).

Which commas may be dropped is not said of brackets but of neighbours: a comma counts as the last
one if a closing bracket stands right behind it and neither an opening bracket nor another comma
right before it.  So it can be decided by looking at three tokens, and no nesting has to be
followed.

Both texts have to be readable as tokens.  A text that is not has no tokens that could be compared,
and then a blank more can decide what is wrong with it.
-/

namespace TypeExpr

open Text (lower)

/-! ## What is left when spelling is forgotten

Two texts say the same if their tokens are alike, one by one, once the commas that make no
difference are dropped.
-/

/-- The token, when the case and the root of a reference do not count, and not the sign of a
    zero. -/
def Token.gist : Token → Token
  | reference r => reference (String.ofList (lower (dropRoot r.toList)))
  | float x => float x.normal
  | t => t

/-- The lexemes without the commas that stand right before a closing bracket, except behind an
    opening bracket or another comma.  The token `before` stands before the first one. -/
def dropLastCommas (before : Option Token) : List Lexeme → List Lexeme
  | [] => []
  | l :: ls =>
    if l.token = .comma ∧ ls.head?.map (·.token) = some .closeBracket ∧
        before ≠ some .openBracket ∧ before ≠ some .comma then dropLastCommas (some l.token) ls
    else l :: dropLastCommas (some l.token) ls

/-- What lexemes say, however they are spelled. -/
def gists (ls : List Lexeme) : List Token := (dropLastCommas none ls).map fun l => l.token.gist

/-- Tokens that are alike are equal, or references or doubles. -/
theorem Token.cases_of_gist {t t' : Token} (h : t'.gist = t.gist) :
    t' = t ∨
    (∃ r r', t = .reference r ∧ t' = .reference r' ∧
      String.ofList (lower (dropRoot r'.toList)) = String.ofList (lower (dropRoot r.toList))) ∨
    ∃ x x', t = .float x ∧ t' = .float x' ∧ x'.normal = x.normal := by
  cases t <;> cases t' <;> simp_all [gist]

/-- Tokens that are alike stand for leaves that are. -/
theorem Token.Means.exists_of_gist {t t' : Token} {v : Leaf} (h : t.Means v)
    (ht : t'.gist = t.gist) :
    ∃ v', t'.Means v' ∧ v'.mapBounds Double.normal = v.mapBounds Double.normal := by
  rcases Token.cases_of_gist ht with rfl | ⟨r, r', rfl, rfl, hr⟩ | ⟨x, x', rfl, rfl, hx⟩
  · exact ⟨v, h, rfl⟩
  · cases h
    exact ⟨_, .reference r', by rw [hr]⟩
  · cases h
    exact ⟨_, .float x', congrArg Leaf.float hx⟩

/-- A mark is like itself only. -/
theorem Token.eq_of_gist {t t' : Token} (h : t'.gist = t.gist) (ht : t.leaf? = none) : t' = t := by
  rcases Token.cases_of_gist h with rfl | ⟨r, r', rfl, rfl, -⟩ | ⟨x, x', rfl, rfl, -⟩
  · rfl
  · cases ht
  · cases ht

namespace Node

/-! ## States that are alike

The state of reading holds parts of the tree, with spans in them.  States are alike if these parts
are, up to spans and signs of zeros; what a token does to alike states are alike states.
-/

/-- The node without its spans and without the signs of zeros. -/
def gist (n : Node Span) : Node Unit := n.map (fun _ => ()) Double.normal

/-- What has been read in a bracket, and what before it. -/
def Frame.gist (f : Frame) : Option (Node Unit) × List (Node Unit) :=
  (f.target.map Node.gist, f.items.map Node.gist)

/-- What has been read. -/
def State.gist : State → Option (Node Unit) × List (Option (Node Unit) × List (Node Unit))
  | wanting frames => (none, frames.map Frame.gist)
  | holding value frames => (some value.gist, frames.map Frame.gist)

theorem Frame.gist_push (f : Frame) (value : Node Span) :
    (f.push value).gist = (f.gist.1, value.gist :: f.gist.2) := rfl

/-- What a bracket closes to depends on what has been read in it, whatever the spans are. -/
theorem Frame.gist_close (f : Frame) (closing : Span) : (f.close closing).gist =
    match f.gist with
    | (some t, items) => .access t items.reverse ()
    | (none, items) => .array items.reverse () := by
  obtain ⟨target, opened, items⟩ := f
  cases target <;> simp [Frame.close, Frame.gist, Node.gist, List.map_reverse]

/-- A state that is like one in which a value is wanted is such a state. -/
theorem State.exists_of_gist_wanting {s : State} {frames : List Frame}
    (h : s.gist = (wanting frames).gist) :
    ∃ frames', s = wanting frames' ∧ frames'.map Frame.gist = frames.map Frame.gist := by
  cases s with
  | wanting frames' => exact ⟨frames', rfl, (Prod.mk.inj h).2⟩
  | holding value' frames' => cases (Prod.mk.inj h).1

/-- A state that is like one which holds a value holds one that is like it. -/
theorem State.exists_of_gist_holding {s : State} {value : Node Span} {frames : List Frame}
    (h : s.gist = (holding value frames).gist) :
    ∃ value' frames', s = holding value' frames' ∧ value'.gist = value.gist ∧
      frames'.map Frame.gist = frames.map Frame.gist := by
  cases s with
  | wanting frames' => cases (Prod.mk.inj h).1
  | holding value' frames' =>
    obtain ⟨hvalue, hframes⟩ := Prod.mk.inj h
    exact ⟨value', frames', rfl, Option.some.inj hvalue, hframes⟩

/-- **Step**: what one token does to a state, a token that is like it does to a state that is. -/
theorem State.Feeds.exists_of_gist {s s₁ s' : State} {l l' : Lexeme} (h : s.Feeds l s₁)
    (hs : s'.gist = s.gist) (hl : l'.token.gist = l.token.gist) :
    ∃ s₁', s'.Feeds l' s₁' ∧ s₁'.gist = s₁.gist := by
  obtain ⟨token', span'⟩ := l'
  have hroom {frames frames' : List Frame} (h : frames'.map Frame.gist = frames.map Frame.gist)
      (hlt : frames.length < maxDepth) : frames'.length < maxDepth := by
    have := congrArg List.length h
    simp only [List.length_map] at this
    omega
  -- One case for each rule by which a token is accepted; in each the other state has the same form,
  -- and so the same rule applies.
  cases h with
  | value ht =>
    obtain ⟨frames', rfl, hframes⟩ := exists_of_gist_wanting hs
    obtain ⟨v', ht', hv⟩ := ht.exists_of_gist hl
    refine ⟨_, .value ht', ?_⟩
    simp [State.gist, Node.gist, hv, hframes]
  | array hlt =>
    obtain ⟨frames', rfl, hframes⟩ := exists_of_gist_wanting hs
    cases Token.eq_of_gist hl rfl
    exact ⟨_, .array (hroom hframes hlt), by simp [State.gist, Frame.gist, hframes]⟩
  | access hlt =>
    obtain ⟨value', frames', rfl, hvalue, hframes⟩ := exists_of_gist_holding hs
    cases Token.eq_of_gist hl rfl
    exact ⟨_, .access (hroom hframes hlt), by simp [State.gist, Frame.gist, hvalue, hframes]⟩
  | closing =>
    obtain ⟨frames', rfl, hframes⟩ := exists_of_gist_wanting hs
    cases Token.eq_of_gist hl rfl
    obtain ⟨f', fs', rfl, hf, hfs⟩ := List.map_eq_cons_iff.1 hframes
    refine ⟨_, .closing, ?_⟩
    simp [State.gist, Frame.gist_close, hf, hfs]
  | closingBehind =>
    obtain ⟨value', frames', rfl, hvalue, hframes⟩ := exists_of_gist_holding hs
    cases Token.eq_of_gist hl rfl
    obtain ⟨f', fs', rfl, hf, hfs⟩ := List.map_eq_cons_iff.1 hframes
    refine ⟨_, .closingBehind, ?_⟩
    simp [State.gist, Frame.gist_close, Frame.gist_push, hvalue, hf, hfs]
  | comma =>
    obtain ⟨value', frames', rfl, hvalue, hframes⟩ := exists_of_gist_holding hs
    cases Token.eq_of_gist hl rfl
    obtain ⟨f', fs', rfl, hf, hfs⟩ := List.map_eq_cons_iff.1 hframes
    refine ⟨_, .comma, ?_⟩
    simp [State.gist, Frame.gist_push, hvalue, hf, hfs]

/-- **Run**: readings of lexemes that are alike go through states that are. -/
theorem State.exists_run_of_gist {s s₁ s' : State} {ls ls' : List Lexeme} (h : s.run ls = .ok s₁)
    (hs : s'.gist = s.gist)
    (hls : ls'.map (fun l => l.token.gist) = ls.map fun l => l.token.gist) :
    ∃ s₁', s'.run ls' = .ok s₁' ∧ s₁'.gist = s₁.gist := by
  induction ls generalizing s s' ls' with
  | nil =>
    rw [List.map_eq_nil_iff.1 hls]
    cases h
    exact ⟨s', rfl, hs⟩
  | cons l ls ih =>
    obtain ⟨l', rest, rfl, hl, hrest⟩ := List.map_eq_cons_iff.1 hls
    obtain ⟨s₂, hfeed, hrun⟩ := exists_feed_of_run_cons h
    obtain ⟨s₂', hfeed', hs₂⟩ := (feed_eq_ok_iff.1 hfeed).exists_of_gist hs hl
    rw [run_cons_of_feed (feed_eq_ok_iff.2 hfeed')]
    exact ih hrun hs₂ hrest

/-! ## A comma behind the last value

Such a comma is accepted exactly where dropping it makes no difference.  Behind an opening bracket
or another comma it is not dropped, since there it is an error that has to stay one.
-/

/-- The state can be one in which the token was the last to be read: in a bracket where a value may
    begin it was the bracket itself or a comma. -/
def State.MayFollow (s : State) (before : Option Token) : Prop :=
  ∀ f fs, s = wanting (f :: fs) → before = some .openBracket ∨ before = some .comma

/-- Behind a token the state is one that this token leads to. -/
theorem State.mayFollow_of_feed {s s' : State} {l : Lexeme} (h : s.feed l = .ok s') :
    s'.MayFollow (some l.token) := by
  rintro f fs rfl
  cases feed_eq_ok_iff.1 h with
  | array => exact Or.inl rfl
  | access => exact Or.inl rfl
  | comma => exact Or.inr rfl

/-- A comma right before a closing bracket leads nowhere else, except behind an opening bracket or
    another comma. -/
theorem State.run_comma {s s' : State} {before : Option Token} {l : Lexeme} {ls : List Lexeme}
    (hs : s.MayFollow before) (hl : l.token = .comma)
    (hclosing : ls.head?.map (·.token) = some .closeBracket) (hopen : before ≠ some .openBracket)
    (hcomma : before ≠ some .comma) : s.run (l :: ls) = .ok s' ↔ s.run ls = .ok s' := by
  obtain ⟨token, span⟩ := l
  cases hl
  obtain ⟨⟨token, closing⟩, hhead, ht⟩ := Option.map_eq_some_iff.1 hclosing
  cases ht
  obtain ⟨rest, rfl⟩ := List.head?_eq_some_iff.1 hhead
  -- A value is wanted only behind an opening bracket or a comma, which has been excluded.  So a
  -- value is held, and the comma pushes it onto what the bracket then closes; without the comma the
  -- bracket does both.
  cases s with
  | wanting frames =>
    cases frames with
    | nil => exact iff_of_false (by rintro ⟨⟩) (by rintro ⟨⟩)
    | cons f fs => rcases hs f fs rfl with h | h <;> contradiction
  | holding value frames =>
    cases frames with
    | nil => exact iff_of_false (by rintro ⟨⟩) (by rintro ⟨⟩)
    | cons f fs => exact Iff.rfl

/-- **Commas**: reading comes to the same state without the commas that are dropped. -/
theorem State.run_dropLastCommas {s s' : State} {before : Option Token} {ls : List Lexeme}
    (hs : s.MayFollow before) :
    s.run (dropLastCommas before ls) = .ok s' ↔ s.run ls = .ok s' := by
  induction ls generalizing s before with
  | nil => rfl
  | cons l ls ih =>
    rw [dropLastCommas]
    split
    · rename_i hdrop
      obtain ⟨hl, hclosing, hopen, hcomma⟩ := hdrop
      rw [run_comma hs hl hclosing hopen hcomma]
      -- whatever the state, it may follow a comma
      exact ih fun f fs _ => Or.inr (congrArg some hl)
    · cases hfeed : s.feed l with
      | error e => rw [run_cons_of_error hfeed, run_cons_of_error hfeed]
      | ok s₁ =>
        rw [run_cons_of_feed hfeed, run_cons_of_feed hfeed]
        exact ih (mayFollow_of_feed hfeed)

/-- What reading comes to depends on what the lexemes say only. -/
theorem exists_ofLexemes_of_gists {stop stop' : Nat} {ls ls' : List Lexeme} {n : Node Span}
    (h : ofLexemes stop ls = .ok n) (hls : gists ls' = gists ls) :
    ∃ n', ofLexemes stop' ls' = .ok n' ∧ n'.gist = n.gist := by
  have hstart : (State.wanting []).MayFollow none := by
    rintro f fs ⟨⟩
  rw [ofLexemes_eq_ok_iff, ← State.run_dropLastCommas hstart] at h
  obtain ⟨s, hrun, hs⟩ := State.exists_run_of_gist h rfl hls
  rw [State.run_dropLastCommas hstart] at hrun
  obtain ⟨n', frames, rfl, hn', hframes⟩ := State.exists_of_gist_holding hs
  rw [List.map_nil, List.map_eq_nil_iff] at hframes
  rw [hframes, ← ofLexemes_eq_ok_iff] at hrun
  exact ⟨n', hrun, hn'⟩

end Node

/-! ## What comes out

From alike tokens come alike trees, and these denote types that are the same or fail for a cause of
one kind.
-/

/-- Both come to types that are the same, or both fail for a cause of one kind. -/
def SameOutcome : Except Failure DataType → Except Failure DataType → Prop
  | .ok t, .ok u => (t == u) = true
  | .error f, .error g => f.cause.kindName = g.cause.kindName
  | _, _ => False

/-- Expressions that differ in spans and in signs of zeros denote the same type or none, for the
    same cause. -/
theorem Node.sameOutcome_interpret {root root' : Node Span} (h : root'.gist = root.gist)
    (text text' : String) : SameOutcome (root.interpret text) (root'.interpret text') := by
  have hden : mapResult (fun _ => ()) (Value.mapBounds Double.normal) (root'.denote 0) =
      mapResult (fun _ => ()) (Value.mapBounds Double.normal) (root.denote 0) := by
    rw [← denote_map Double.normal_ofInt, ← denote_map Double.normal_ofInt]
    exact congrArg (denote 0) h
  -- both have a fault with one cause, or values of one normal form
  rcases cases_of_mapResult_eq hden with ⟨e', e, he', he, hmap⟩ | ⟨v', v, hv', hv, hnormal⟩
  · rw [interpret_of_error he, interpret_of_error he']
    exact congrArg (fun e => e.cause.kindName) hmap.symm
  · rcases Value.cases_of_normal_eq hnormal.symm with ⟨t, t', rfl, rfl, hsame⟩ | ⟨hnone, hnone'⟩
    · rw [interpret_eq_ok_of_denote_iff.2 hv, interpret_eq_ok_of_denote_iff.2 hv']
      exact hsame
    · rw [interpret_of_no_type hv hnone, interpret_of_no_type hv' hnone']
      rfl

/-- **Spelling**: texts that can be read as tokens, and whose tokens say the same, come to the same
    type, or both fail for a cause of one kind. -/
theorem same_outcome [PatternLanguage] (text text' : String) (ls ls' : List Lexeme)
    (h : tokenize text = .ok ls) (h' : tokenize text' = .ok ls') (hls : gists ls = gists ls') :
    SameOutcome (parse text) (parse text') := by
  -- if one of the texts is an expression, so is the other
  have hroot {text text' : String} {ls ls' : List Lexeme} (h : tokenize text = .ok ls)
      (h' : tokenize text' = .ok ls') (hls : gists ls' = gists ls) {root : Node Span}
      (hread : Node.ofText text = .ok (some root)) :
      ∃ root', Node.ofText text' = .ok (some root') ∧ root'.gist = root.gist := by
    obtain ⟨ms, hms, hof⟩ := Node.ofText_eq_ok_iff.1 hread
    rw [h] at hms
    cases hms
    obtain ⟨root', hof', hgist⟩ := Node.exists_ofLexemes_of_gists hof hls
    exact ⟨root', Node.ofText_eq_ok_iff.2 ⟨ls', h', hof'⟩, hgist⟩
  by_cases hsome : ∃ root, Node.ofText text = .ok (some root)
  · obtain ⟨root, hread⟩ := hsome
    obtain ⟨root', hread', hgist⟩ := hroot h h' hls.symm hread
    rw [parse_of_ofText hread, parse_of_ofText hread']
    exact Node.sameOutcome_interpret hgist text text'
  · have hnone : ∀ root, Node.ofText text ≠ .ok (some root) := fun root hread => hsome ⟨root, hread⟩
    have hnone' : ∀ root, Node.ofText text' ≠ .ok (some root) := by
      intro root hread'
      obtain ⟨root', hread, -⟩ := hroot h' h hls hread'
      exact hnone root' hread
    obtain ⟨detail, hparse⟩ := exists_parse_eq_ofWhole hnone
    obtain ⟨detail', hparse'⟩ := exists_parse_eq_ofWhole hnone'
    rw [hparse, hparse']
    rfl

open scoped Program in
/-- Case, root, blanks and the last comma do not count. -/
theorem same_outcome_of_spellings : ∃ ls ls', tokenize "::ARRAY[ DATA ,]" = .ok ls ∧
    tokenize "Array[Data]" = .ok ls' ∧ gists ls = gists ls' ∧
    SameOutcome (parse "::ARRAY[ DATA ,]") (parse "Array[Data]") := by
  have h : tokenize "::ARRAY[ DATA ,]" = .ok [⟨.reference "::ARRAY", ⟨0, 7⟩⟩,
      ⟨.openBracket, ⟨7, 8⟩⟩, ⟨.reference "DATA", ⟨9, 13⟩⟩, ⟨.comma, ⟨14, 15⟩⟩,
      ⟨.closeBracket, ⟨15, 16⟩⟩] := by
    decide +kernel
  have h' : tokenize "Array[Data]" = .ok [⟨.reference "Array", ⟨0, 5⟩⟩, ⟨.openBracket, ⟨5, 6⟩⟩,
      ⟨.reference "Data", ⟨6, 10⟩⟩, ⟨.closeBracket, ⟨10, 11⟩⟩] := by
    decide +kernel
  have hls : gists [⟨.reference "::ARRAY", ⟨0, 7⟩⟩, ⟨.openBracket, ⟨7, 8⟩⟩,
      ⟨.reference "DATA", ⟨9, 13⟩⟩, ⟨.comma, ⟨14, 15⟩⟩, ⟨.closeBracket, ⟨15, 16⟩⟩] =
      gists [⟨.reference "Array", ⟨0, 5⟩⟩, ⟨.openBracket, ⟨5, 6⟩⟩, ⟨.reference "Data", ⟨6, 10⟩⟩,
        ⟨.closeBracket, ⟨10, 11⟩⟩] := by
    decide +kernel
  exact ⟨_, _, h, h', hls, same_outcome _ _ _ _ h h' hls⟩

end TypeExpr
