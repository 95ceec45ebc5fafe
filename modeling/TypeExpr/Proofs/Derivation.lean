import TypeExpr.Proofs.Productions

/-!
# Derivations with spans

`Grammar.Derives ls n` is the grammar once more, of lexemes and of nodes that carry spans: a leaf
has the span of its token, and what ends with a bracket covers all from its beginning to that
bracket.  The values in a bracket come with the lexemes of their own (`Part`), so that a derivation
also says where each of them was read.

It is no second grammar: lexemes whose tokens derive an expression derive it with spans
(`Expression.exists_derives`).  And a derivation with spans says what reading does, to the last
span: from a place where a value may begin, the lexemes lead to the state that holds the node
(`Derives.run`).

Two things are asked of the lexemes of a node.  They close what they open (`Derives.balanced`), so
that an expression may stand anywhere without a bracket of it being taken for one around it.  And
the reader gets through them to the state that holds the node.  The induction for the second uses
the first, to know how many brackets are open behind each part.

That a row of lexemes derives only one node is not shown here.  It follows once reading is known to
find what is derived, since reading is a function.
-/

namespace TypeExpr

namespace Grammar

open Node (Frame State)

/-! ## The productions

The grammar of lexemes is that of tokens with the spans that a node gets.  It has no symbol for
primary expressions, since any expression may be applied.
-/

/-- A value in brackets, and the lexemes it was read from. -/
structure Part where
  lexemes : List Lexeme
  node : Node Span

/-- Parts with a comma behind each of them. -/
inductive Started : List Part → List Lexeme → Prop where
  | none : Started [] []
  | more {ps ls} (p : Part) (comma : Span) : Started ps ls →
      Started (ps ++ [p]) (ls ++ p.lexemes ++ [⟨.comma, comma⟩])

/-- What can stand in brackets: parts with commas between them, and perhaps one behind the last. -/
inductive Filled : List Part → List Lexeme → Prop where
  | started {ps ls} : Started ps ls → Filled ps ls
  | last {ps ls} (p : Part) : Started ps ls → Filled (ps ++ [p]) (ls ++ p.lexemes)

/-- `Derives ls n`: the lexemes derive the node, and its notes are the spans that it was read
    from. -/
inductive Derives : List Lexeme → Node Span → Prop where
  | leaf {t v} (span : Span) : t.Means v → Derives [⟨t, span⟩] (.leaf v span)
  | array {ps ls} (opened closing : Span) : (∀ p ∈ ps, Derives p.lexemes p.node) → Filled ps ls →
      Derives (⟨.openBracket, opened⟩ :: ls ++ [⟨.closeBracket, closing⟩])
        (.array (ps.map Part.node) (opened.merge closing))
  | access {ts target ps ls} (opened closing : Span) : Derives ts target →
      (∀ p ∈ ps, Derives p.lexemes p.node) → Filled ps ls →
      Derives (ts ++ (⟨.openBracket, opened⟩ :: ls ++ [⟨.closeBracket, closing⟩]))
        (.access target (ps.map Part.node) (target.note.merge closing))

/-! ## What is opened is closed

From behind a bracket everything is as if it stood in front.
-/

/-- The lexemes close as many brackets as they open. -/
def Balanced (ls : List Lexeme) : Prop := ∀ k, openAfter k (ls.map (·.token)) = k

theorem Balanced.append {ls ms : List Lexeme} (hl : Balanced ls) (hm : Balanced ms) :
    Balanced (ls ++ ms) := by
  intro k
  rw [List.map_append, openAfter_append, hl, hm]

theorem balanced_comma (span : Span) : Balanced [⟨.comma, span⟩] := fun _ => rfl

/-- A balanced row between brackets is balanced. -/
theorem Balanced.bracketed {ls : List Lexeme} (h : Balanced ls) (opened closing : Span) :
    Balanced (⟨.openBracket, opened⟩ :: ls ++ [⟨.closeBracket, closing⟩]) := by
  intro k
  rw [List.map_append]
  exact openAfter_bracketed h k

/-- A part stands between lexemes, and those before it leave open what was open. -/
theorem Started.exists_around {ps : List Part} {ls : List Lexeme} (h : Started ps ls)
    (hps : ∀ p ∈ ps, Balanced p.lexemes) : Balanced ls ∧ ∀ p ∈ ps, ∃ before after,
      ls = before ++ p.lexemes ++ after ∧ Balanced before := by
  induction h with
  | none => exact ⟨fun _ => rfl, by simp⟩
  | @more ps ls p comma _ ih =>
    obtain ⟨hps, hp⟩ := List.forall_mem_append.1 hps
    obtain ⟨hls, hparts⟩ := ih hps
    refine ⟨(hls.append (hp p (by simp))).append (balanced_comma comma), ?_⟩
    intro q hq
    -- one of the parts before, with more behind it, or the last one
    rcases List.mem_append.1 hq with hq | hq
    · obtain ⟨before, after, rfl, hbefore⟩ := hparts q hq
      exact ⟨before, after ++ p.lexemes ++ [⟨.comma, comma⟩], by simp, hbefore⟩
    · rw [List.mem_singleton.1 hq]
      exact ⟨ls, [⟨.comma, comma⟩], rfl, hls⟩

/-- Each part stands somewhere in the brackets, with a balanced row before it. -/
theorem Filled.exists_around {ps : List Part} {ls : List Lexeme} (h : Filled ps ls)
    (hps : ∀ p ∈ ps, Balanced p.lexemes) : Balanced ls ∧ ∀ p ∈ ps, ∃ before after,
      ls = before ++ p.lexemes ++ after ∧ Balanced before := by
  cases h with
  | started h => exact h.exists_around hps
  | @last ps ls p h =>
    obtain ⟨hps, hp⟩ := List.forall_mem_append.1 hps
    obtain ⟨hls, hparts⟩ := h.exists_around hps
    refine ⟨hls.append (hp p (by simp)), ?_⟩
    intro q hq
    rcases List.mem_append.1 hq with hq | hq
    · obtain ⟨before, after, rfl, hbefore⟩ := hparts q hq
      exact ⟨before, after ++ p.lexemes, by simp, hbefore⟩
    · rw [List.mem_singleton.1 hq]
      exact ⟨ls, [], by simp, hls⟩

/-- **Balance**: the lexemes of a node close all the brackets that they open. -/
theorem Derives.balanced {ls : List Lexeme} {n : Node Span} (h : Derives ls n) : Balanced ls := by
  induction h with
  | leaf span ht => exact opened_of_means ht
  | array opened closing _ hfilled ih => exact (hfilled.exists_around ih).1.bracketed opened closing
  | access opened closing _ _ hfilled iht ih =>
    exact iht.append ((hfilled.exists_around ih).1.bracketed opened closing)

/-! ## What is derived is read

By induction on the derivation: what one production says, the reader does, on top of whatever
brackets are open.
-/

/-- From where a value may begin, the lexemes lead to the state that holds the node. -/
def LeadTo (ls : List Lexeme) (n : Node Span) : Prop :=
  ∀ frames : List Frame, mostOpen frames.length (ls.map (·.token)) ≤ maxDepth →
    (State.wanting frames).run ls = .ok (.holding n frames)

section InBrackets

variable {ps : List Part} {ls : List Lexeme} {target : Option (Node Span)} {opened : Span}
  {frames : List Frame}

/-- From behind an opening bracket, parts with commas behind them lead to where the next part may
    begin, with all their nodes on the stack. -/
theorem Started.run (h : Started ps ls)
    (hps : ∀ p ∈ ps, Balanced p.lexemes ∧ LeadTo p.lexemes p.node)
    (hdepth : mostOpen (frames.length + 1) (ls.map (·.token)) ≤ maxDepth) :
    (State.wanting (⟨target, opened, []⟩ :: frames)).run ls =
      .ok (.wanting (⟨target, opened, (ps.map Part.node).reverse⟩ :: frames)) := by
  induction h with
  | none => rfl
  | @more ps ls p comma h ih =>
    obtain ⟨hps, hp⟩ := List.forall_mem_append.1 hps
    obtain ⟨-, hlead⟩ := hp p (by simp)
    have hbalanced := (h.exists_around fun q hq => (hps q hq).1).1
    simp only [List.map_append, mostOpen_append, hbalanced (frames.length + 1)] at hdepth
    -- the part is read inside the bracket, on top of the parts before it
    have hrun := hlead (⟨target, opened, (ps.map Part.node).reverse⟩ :: frames) (by
      rw [List.length_cons]
      omega)
    rw [List.append_assoc, State.run_append_of_run (ih hps (by omega)),
      State.run_append_of_run hrun, List.map_append, List.reverse_append]
    exact State.run_cons_of_feed rfl []

/-- Behind an opening bracket, what stands in it and a closing bracket lead to the state that holds
    what the bracket becomes. -/
theorem Filled.run (h : Filled ps ls) (hps : ∀ p ∈ ps, Balanced p.lexemes ∧ LeadTo p.lexemes p.node)
    (hdepth : mostOpen (frames.length + 1) (ls.map (·.token)) ≤ maxDepth) (closing : Span) :
    (State.wanting (⟨target, opened, []⟩ :: frames)).run (ls ++ [⟨.closeBracket, closing⟩]) =
      .ok (.holding (Frame.close ⟨target, opened, (ps.map Part.node).reverse⟩ closing) frames) := by
  -- with a comma behind the last part the bracket may close at once; without one, the last part is
  -- held when it does
  cases h with
  | started h =>
    rw [State.run_append_of_run (h.run hps hdepth)]
    exact State.run_cons_of_feed rfl []
  | @last ps ls p h =>
    obtain ⟨hps, hp⟩ := List.forall_mem_append.1 hps
    obtain ⟨-, hlead⟩ := hp p (by simp)
    have hbalanced := (h.exists_around fun q hq => (hps q hq).1).1
    rw [List.map_append, mostOpen_append, hbalanced] at hdepth
    have hrun := hlead (⟨target, opened, (ps.map Part.node).reverse⟩ :: frames) (by
      rw [List.length_cons]
      omega)
    rw [List.append_assoc, State.run_append_of_run (h.run hps (by omega)),
      State.run_append_of_run hrun, List.map_append, List.reverse_append]
    exact State.run_cons_of_feed rfl []

end InBrackets

/-- **Reading**: the lexemes of a node lead to the state that holds it, wherever a value may begin
    and as long as not too many brackets are open. -/
theorem Derives.run {ls : List Lexeme} {n : Node Span} (h : Derives ls n) : LeadTo ls n := by
  -- on the derivation: a bracket is opened, the parts lead behind the last of them, and the closing
  -- bracket makes the node
  induction h with
  | leaf span ht =>
    intro frames _
    exact State.run_cons_of_feed (State.feed_eq_ok_iff.2 (.value ht)) []
  | @array ps ls opened closing hps hfilled ih =>
    intro frames hdepth
    rw [List.map_append] at hdepth
    obtain ⟨hroom, hdepth⟩ := mostOpen_of_bracketed hdepth
    have hfeed : (State.wanting frames).feed ⟨.openBracket, opened⟩ = _ :=
      State.feed_eq_ok_iff.2 (.array hroom)
    rw [List.cons_append, State.run_cons_of_feed hfeed,
      hfilled.run (fun p hp => ⟨(hps p hp).balanced, ih p hp⟩) hdepth, Frame.close]
    simp
  | @access ts target ps ls opened closing ht hps hfilled iht ih =>
    intro frames hdepth
    rw [List.map_append, mostOpen_append, ht.balanced] at hdepth
    rw [List.map_append] at hdepth
    obtain ⟨hroom, hinside⟩ := mostOpen_of_bracketed (Nat.le_trans (Nat.le_max_right ..) hdepth)
    have hfeed : (State.holding target frames).feed ⟨.openBracket, opened⟩ = _ :=
      State.feed_eq_ok_iff.2 (.access hroom)
    rw [State.run_append_of_run (iht frames (by omega)), List.cons_append,
      State.run_cons_of_feed hfeed,
      hfilled.run (fun p hp => ⟨(hps p hp).balanced, ih p hp⟩) hinside, Frame.close]
    simp

/-! ## What tokens derive, lexemes derive

The other way round spans have to be found.  They are those of the first and the last lexeme of each
part.
-/

/-- Lexemes with these tokens derive the expression with spans. -/
def Annotates (ts : List Token) (n : Node Unit) : Prop :=
  ∀ ls : List Lexeme, ls.map (·.token) = ts → ∃ m, m.shape = n ∧ Derives ls m

/-- The same of what stands in brackets. -/
def AnnotatesAll (ts : List Token) (ns : List (Node Unit)) : Prop :=
  ∀ ls : List Lexeme, ls.map (·.token) = ts → ∃ ps : List Part,
    ps.map (fun p => p.node.shape) = ns ∧ (∀ p ∈ ps, Derives p.lexemes p.node) ∧ Filled ps ls

/-- The same of a listing, whose last part has no comma behind it. -/
def AnnotatesListing (ts : List Token) (ns : List (Node Unit)) : Prop :=
  ∀ ls : List Lexeme, ls.map (·.token) = ts → ∃ (ps : List Part) (p : Part) (before : List Lexeme),
    (ps ++ [p]).map (fun p => p.node.shape) = ns ∧ (∀ q ∈ ps ++ [p], Derives q.lexemes q.node) ∧
      Started ps before ∧ ls = before ++ p.lexemes

/-- A row of lexemes whose tokens are a list in brackets. -/
theorem exists_of_map_bracketed {ls : List Lexeme} {us : List Token}
    (h : ls.map (·.token) = .openBracket :: us ++ [.closeBracket]) :
    ∃ (opened closing : Span) (ms : List Lexeme), ms.map (·.token) = us ∧
      ls = ⟨.openBracket, opened⟩ :: (ms ++ [⟨.closeBracket, closing⟩]) := by
  rw [List.cons_append] at h
  obtain ⟨⟨_, opened⟩, rest, rfl, rfl, hrest⟩ := List.map_eq_cons_iff.1 h
  obtain ⟨ms, closers, rfl, hms, hclosers⟩ := List.map_eq_append_iff.1 hrest
  obtain ⟨⟨_, closing⟩, rfl, rfl⟩ := List.map_eq_singleton_iff.1 hclosers
  exact ⟨opened, closing, ms, hms, rfl⟩

/-- An array literal has spans if its items have. -/
theorem annotates_array {us : List Token} {ns : List (Node Unit)} (h : AnnotatesAll us ns) :
    Annotates (.openBracket :: us ++ [.closeBracket]) (.array ns ()) := by
  intro ls hls
  obtain ⟨opened, closing, inner, hinner, rfl⟩ := exists_of_map_bracketed hls
  obtain ⟨ps, rfl, hps, hfilled⟩ := h inner hinner
  exact ⟨_, by simp, .array opened closing hps hfilled⟩

/-- An access has spans if its target and its arguments have. -/
theorem annotates_access {ts us : List Token} {n : Node Unit} {ns : List (Node Unit)}
    (ht : Annotates ts n) (h : AnnotatesAll us ns) :
    Annotates (ts ++ .openBracket :: us ++ [.closeBracket]) (.access n ns ()) := by
  intro ls hls
  rw [List.append_assoc] at hls
  obtain ⟨outer, rest, rfl, houter, hrest⟩ := List.map_eq_append_iff.1 hls
  obtain ⟨opened, closing, inner, hinner, rfl⟩ := exists_of_map_bracketed hrest
  obtain ⟨target, rfl, htarget⟩ := ht outer houter
  obtain ⟨ps, rfl, hps, hfilled⟩ := h inner hinner
  exact ⟨_, by simp, .access opened closing htarget hps hfilled⟩

/-- A listing goes on with an expression that has spans. -/
theorem annotatesListing_more {ts us : List Token} {ns : List (Node Unit)} {n : Node Unit}
    (h : AnnotatesListing ts ns) (hn : Annotates us n) :
    AnnotatesListing (ts ++ .comma :: us) (ns ++ [n]) := by
  intro ls hls
  obtain ⟨first, rest, rfl, hfirst, hrest⟩ := List.map_eq_append_iff.1 hls
  obtain ⟨⟨_, comma⟩, last, rfl, rfl, hlast⟩ := List.map_eq_cons_iff.1 hrest
  obtain ⟨ps, p, before, rfl, hps, hbefore, rfl⟩ := h first hfirst
  obtain ⟨m, rfl, hm⟩ := hn last hlast
  refine ⟨ps ++ [p], ⟨last, m⟩, _, by simp, ?_, .more p comma hbefore, by simp⟩
  exact List.forall_mem_append.2 ⟨hps, by simpa using hm⟩

/-- **Spans**: lexemes whose tokens derive an expression derive it with spans. -/
theorem Expression.exists_derives {ts : List Token} {n : Node Unit} (h : Expression ts n) :
    Annotates ts n := by
  -- one case for each production; the lexemes are taken apart as the tokens are
  refine Expression.induct (P := Annotates) (Q := AnnotatesAll) (R := AnnotatesListing) ?_
    annotates_array annotates_access ?_ ?_ ?_ ?_ annotatesListing_more h
  · intro t v ht ls hls
    obtain ⟨⟨_, span⟩, rfl, rfl⟩ := List.map_eq_singleton_iff.1 hls
    exact ⟨.leaf v span, Node.shape_leaf v span, .leaf span ht⟩
  · intro ls hls
    rw [List.map_eq_nil_iff.1 hls]
    exact ⟨[], rfl, by simp, .started .none⟩
  · intro ts ns h ls hls
    obtain ⟨ps, p, before, hns, hps, hbefore, rfl⟩ := h ls hls
    exact ⟨ps ++ [p], hns, hps, .last p hbefore⟩
  · intro ts ns h ls hls
    obtain ⟨inner, commas, rfl, hinner, hcommas⟩ := List.map_eq_append_iff.1 hls
    obtain ⟨⟨_, comma⟩, rfl, rfl⟩ := List.map_eq_singleton_iff.1 hcommas
    obtain ⟨ps, p, before, hns, hps, hbefore, rfl⟩ := h inner hinner
    exact ⟨ps ++ [p], hns, hps, .started (.more p comma hbefore)⟩
  · intro ts n h ls hls
    obtain ⟨m, rfl, hm⟩ := h ls hls
    exact ⟨[], ⟨ls, m⟩, [], rfl, by simpa using hm, .none, rfl⟩

end Grammar

end TypeExpr
