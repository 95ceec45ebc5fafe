import TypeExpr.Proofs.Derivation

/-!
# The grammar of specifications

Reading token by token finds exactly the expressions of the grammar, so that a row of tokens has one
at most (`ofLexemes_iff_specification`).

The two directions meet in what one token does (`State.feed_eq_ok_iff`).  Reading *forwards*, every
derivation runs: from a place where a value may begin, its lexemes lead to the state that holds its
expression, on top of whatever is open (`Derives.run`).  Looking *backwards*, every state that is
reached has a derivation for all that was read (`Reached`): each open bracket with the values before
it is a production that has been begun, and closing the bracket completes it.

`Reached` is the invariant of the loop. It is stated of tokens and not of lexemes, so spans play no
part, and the expressions in it are shapes. A step needs one case for each rule of `State.Feeds`;
half of them change the innermost bracket, and what that does is said once for array literals and
accesses (`Stacked.top`).
-/

namespace TypeExpr

namespace Grammar

open Node (Frame State)

/-! ## Looking backwards: every state that is reached has a derivation

The invariant is `Reached`.  A bracket that is open is a production which has been begun: the values
in it are those of a list that ends with a comma, so that one more value may follow.
-/

/-- The values in an open bracket, last one first, with the tokens they were read from: a comma
    stands behind each of them. -/
inductive Pending : List Token → List (Node Span) → Prop where
  | none : Pending [] []
  | listing {ts items} : Listing ts (items.reverse.map Node.shape) → Pending (ts ++ [.comma]) items

/-- The open brackets, innermost first, with all the tokens up to where the next value begins. -/
inductive Stacked : List Token → List Frame → Prop where
  | none : Stacked [] []
  | array {ts us items frames} (opened : Span) : Stacked ts frames → Pending us items →
      Stacked (ts ++ [.openBracket] ++ us) (⟨.none, opened, items⟩ :: frames)
  | access {ts xs us items frames} {target : Node Span} (opened : Span) : Stacked ts frames →
      Expression xs target.shape → Pending us items →
      Stacked (ts ++ xs ++ [.openBracket] ++ us) (⟨some target, opened, items⟩ :: frames)

/-- The tokens account for the state: those that led to the open brackets, and behind them those of
    the value that is held. -/
inductive Reached : List Token → State → Prop where
  | wanting {ts frames} : Stacked ts frames → Reached ts (.wanting frames)
  | holding {ts xs frames} {value : Node Span} : Stacked ts frames → Expression xs value.shape →
      Reached (ts ++ xs) (.holding value frames)

/-- The values in an open bracket are arguments as they are: the last comma is allowed. -/
theorem Pending.arguments {us : List Token} {items : List (Node Span)} (h : Pending us items) :
    Arguments us (items.reverse.map Node.shape) := by
  cases h with
  | none => exact .none
  | listing h => exact .trailing h

/-- With one more expression behind the last comma they are a list. -/
theorem Pending.push {us xs : List Token} {items : List (Node Span)} {value : Node Span}
    (h : Pending us items) (hx : Expression xs value.shape) :
    Listing (us ++ xs) ((value :: items).reverse.map Node.shape) := by
  rw [List.reverse_cons, List.map_append, List.map_singleton]
  cases h with
  | none => exact .one hx
  | listing h =>
    rw [List.append_assoc]
    exact .more h hx

/-- The innermost bracket and the tokens read in it can be replaced, and the bracket can be closed
    behind any arguments. -/
theorem Stacked.top {ts : List Token} {f : Frame} {frames : List Frame}
    (h : Stacked ts (f :: frames)) :
    ∃ outer us, ts = outer ++ us ∧ Pending us f.items ∧
      (∀ us' items, Pending us' items →
        Stacked (outer ++ us') ({ f with items := items } :: frames)) ∧
      (∀ us' items closing, Arguments us' (items.reverse.map Node.shape) →
        Reached (outer ++ us' ++ [.closeBracket])
          (.holding (Frame.close { f with items := items } closing) frames)) := by
  -- Array literals and accesses differ in what closing makes of them, and in nothing else.
  cases h with
  | @array ts us items _ opened hs hp =>
    refine ⟨ts ++ [.openBracket], us, rfl, hp, fun us' items' h => .array opened hs h, ?_⟩
    intro us' items' closing h
    have hx : Expression (.openBracket :: us' ++ [.closeBracket])
        (Frame.close ⟨Option.none, opened, items'⟩ closing).shape := by
      rw [Frame.close, Node.shape_array]
      exact .primary (.array h)
    have hr := Reached.holding hs hx
    simp only [List.append_assoc, List.cons_append, List.nil_append] at hr ⊢
    exact hr
  | @access ts xs us items _ target opened hs ht hp =>
    refine ⟨ts ++ xs ++ [.openBracket], us, rfl, hp, fun us' items' h => .access opened hs ht h, ?_⟩
    intro us' items' closing h
    have hx : Expression (xs ++ .openBracket :: us' ++ [.closeBracket])
        (Frame.close ⟨some target, opened, items'⟩ closing).shape := by
      rw [Frame.close, Node.shape_access]
      exact .access ht h
    have hr := Reached.holding hs hx
    simp only [List.append_assoc, List.cons_append, List.nil_append] at hr ⊢
    exact hr

/-- **Step**: one more token, and the tokens still account for the state. -/
theorem Reached.feed {ts : List Token} {s s' : State} {l : Lexeme} (h : Reached ts s)
    (hfeed : s.feed l = .ok s') : Reached (ts ++ [l.token]) s' := by
  cases State.feed_eq_ok_iff.1 hfeed with
  | value ht =>
    cases h with
    | wanting hs => exact .holding hs (.primary (.leaf ht))
  | @array frames span =>
    cases h with
    | wanting hs =>
      have := Stacked.array span hs .none
      rw [List.append_nil] at this
      exact .wanting this
  | @access value frames span =>
    cases h with
    | holding hs hx =>
      have := Stacked.access span hs hx .none
      rw [List.append_nil] at this
      exact .wanting this
  | @closing f frames span =>
    cases h with
    | wanting hs =>
      obtain ⟨outer, us, rfl, hp, -, hclose⟩ := hs.top
      exact hclose us f.items span hp.arguments
  | @closingBehind value f frames span =>
    cases h with
    | holding hs hx =>
      -- the value is the last one of the bracket, with no comma behind it
      obtain ⟨outer, us, rfl, hp, -, hclose⟩ := hs.top
      rw [List.append_assoc outer]
      exact hclose _ (value :: f.items) span (.listing (hp.push hx))
  | @comma value f frames span =>
    cases h with
    | holding hs hx =>
      obtain ⟨outer, us, rfl, hp, hreplace, -⟩ := hs.top
      rw [List.append_assoc outer, List.append_assoc outer]
      exact .wanting (hreplace _ (value :: f.items) (.listing (hp.push hx)))

/-- **Run**: all the tokens that were read account for the state. -/
theorem Reached.run {ts : List Token} {s s' : State} {ls : List Lexeme} (h : Reached ts s)
    (hrun : s.run ls = .ok s') : Reached (ts ++ ls.map (·.token)) s' := by
  induction ls generalizing ts s with
  | nil =>
    cases hrun
    rwa [List.map_nil, List.append_nil]
  | cons l ls ih =>
    obtain ⟨s₁, hfeed, hrun⟩ := State.exists_feed_of_run_cons hrun
    have := ih (h.feed hfeed) hrun
    rwa [List.append_assoc, List.singleton_append] at this

/-! ## Counting open brackets

The state holds one frame for each open bracket, so their number can be read off the state as well
as off the tokens.
-/

end Grammar

namespace Node

/-- How many brackets are open. -/
def State.depth : State → Nat
  | wanting frames => frames.length
  | holding _ frames => frames.length

/-- A token changes the number of open brackets as it says, and never beyond the limit. -/
theorem State.depth_of_feed {s s' : State} {l : Lexeme} (h : s.feed l = .ok s')
    (hs : s.depth ≤ maxDepth) : s'.depth = l.token.opened s.depth ∧ s'.depth ≤ maxDepth := by
  cases feed_eq_ok_iff.1 h with
  | value ht => exact ⟨(Grammar.opened_of_means ht _).symm, hs⟩
  | array hroom => exact ⟨rfl, hroom⟩
  | access hroom => exact ⟨rfl, hroom⟩
  | closing => exact ⟨rfl, Nat.le_of_succ_le hs⟩
  | closingBehind => exact ⟨rfl, Nat.le_of_succ_le hs⟩
  | comma => exact ⟨rfl, hs⟩

/-- Along a run there are never more brackets open than may be. -/
theorem State.mostOpen_of_run {s s' : State} {ls : List Lexeme} (h : s.run ls = .ok s')
    (hs : s.depth ≤ maxDepth) : Grammar.mostOpen s.depth (ls.map (·.token)) ≤ maxDepth := by
  induction ls generalizing s with
  | nil => exact hs
  | cons l ls ih =>
    obtain ⟨s₁, hfeed, h⟩ := exists_feed_of_run_cons h
    obtain ⟨hdepth, hle⟩ := depth_of_feed hfeed hs
    have := ih h hle
    simp only [List.map_cons, Grammar.mostOpen, ← hdepth]
    omega

/-! ## Reading finds exactly the expressions of the grammar

The two directions put together.  That there is one expression at most follows, since reading is a
function.
-/

open Grammar (Expression Specification)

/-- What reading a row of lexemes to its end comes to. -/
theorem ofLexemes_eq_ok_iff {stop : Nat} {ls : List Lexeme} {n : Node Span} :
    ofLexemes stop ls = .ok n ↔ (State.wanting []).run ls = .ok (.holding n []) := by
  unfold ofLexemes
  show (State.run (.wanting []) ls).bind (State.finish stop) = .ok n ↔ _
  cases State.run (.wanting []) ls with
  | error e => simp [Except.bind]
  | ok s => cases s with
    | wanting frames => simp [Except.bind, State.finish]
    | holding value frames => cases frames <;> simp [Except.bind, State.finish]

/-- An expression that was read is one of the grammar. -/
theorem specification_of_ofLexemes {stop : Nat} {ls : List Lexeme} {n : Node Span}
    (h : ofLexemes stop ls = .ok n) : Specification (ls.map (·.token)) n.shape := by
  rw [ofLexemes_eq_ok_iff] at h
  refine ⟨?_, State.mostOpen_of_run h (Nat.zero_le maxDepth)⟩
  have hreached := (Grammar.Reached.wanting Grammar.Stacked.none).run h
  rw [List.nil_append] at hreached
  generalize ls.map (·.token) = ts at hreached
  obtain - | ⟨hs, hx⟩ := hreached
  cases hs
  exact hx

/-- A node is read exactly if the lexemes derive it and open no more brackets than may be. -/
theorem ofLexemes_eq_ok_iff_derives {stop : Nat} {ls : List Lexeme} {n : Node Span} :
    ofLexemes stop ls = .ok n ↔
      Grammar.Derives ls n ∧ Grammar.bracketDepth (ls.map (·.token)) ≤ maxDepth := by
  constructor
  · intro h
    obtain ⟨hexpr, hdepth⟩ := specification_of_ofLexemes h
    obtain ⟨m, -, hm⟩ := hexpr.exists_derives ls rfl
    -- what is derived is read, and one thing only is read
    have hrun := hm.run [] hdepth
    rw [ofLexemes_eq_ok_iff.1 h] at hrun
    cases hrun
    exact ⟨hm, hdepth⟩
  · rintro ⟨h, hdepth⟩
    exact ofLexemes_eq_ok_iff.2 (h.run [] hdepth)

/-- An expression of the grammar is read. -/
theorem exists_ofLexemes_of_specification {ls : List Lexeme} {n : Node Unit}
    (h : Specification (ls.map (·.token)) n) (stop : Nat) :
    ∃ m, ofLexemes stop ls = .ok m ∧ m.shape = n := by
  obtain ⟨m, hshape, hm⟩ := h.1.exists_derives ls rfl
  exact ⟨m, ofLexemes_eq_ok_iff_derives.2 ⟨hm, h.2⟩, hshape⟩

/-- Tokens have one expression at most. -/
theorem specification_unique {ts : List Token} {n n' : Node Unit} (h : Specification ts n)
    (h' : Specification ts n') : n = n' := by
  have htokens : (ts.map fun t => (⟨t, .point 0⟩ : Lexeme)).map (·.token) = ts := by
    rw [List.map_map]
    exact List.map_id ts
  rw [← htokens] at h h'
  obtain ⟨m, hm, rfl⟩ := exists_ofLexemes_of_specification h 0
  obtain ⟨m', hm', rfl⟩ := exists_ofLexemes_of_specification h' 0
  rw [hm] at hm'
  rw [Except.ok.inj hm']

/-- Tokens are read as an expression exactly if the grammar derives it from them with no more
    brackets open at once than may be; so the grammar gives tokens one expression at most. -/
theorem ofLexemes_iff_specification (ls : List Lexeme) (stop : Nat) :
    (∀ n : Node Unit, (∃ m, ofLexemes stop ls = .ok m ∧ m.shape = n) ↔
      Specification (ls.map (·.token)) n) ∧
    ∀ n n' : Node Unit, Specification (ls.map (·.token)) n → Specification (ls.map (·.token)) n' →
      n = n' := by
  refine ⟨fun n => ⟨?_, fun h => exists_ofLexemes_of_specification h stop⟩,
    fun n n' => specification_unique⟩
  rintro ⟨m, hm, rfl⟩
  exact specification_of_ofLexemes hm

end Node

end TypeExpr
