import TypeExpr.Proofs.Parsing
import TypeExpr.Proofs.Ways
import TypeExpr.Proofs.Words
import TypeExpr.Regex.Check

/-!
# How deep a parsed expression is

No more than `maxDepth` brackets are open at once, and so on a way down an expression that was read
no more than `maxDepth` brackets stand inside each other (`bracketsOn_le_of_ofText`).  A bracket
that is opened behind a closed one does not stand in it, though: in `A[][]` the second bracket
applies what the first one made.  Such a chain of accesses is one bracket deep, while each access in
it is the target of the next; on a way down to the first of them all are passed, and they can be as
many as one likes (`exists_way_of_chain`).

There are two ways to count on a way down.  Counted as brackets, a chain of accesses is as long as
one likes; counted as chains, it is one (`Node.chainsOn`).  The limit holds for the second count on
every way, and for the first one on ways that never go on from a target to another access; for any
other way there is no bound at all, as the chain shows.
-/

namespace TypeExpr

namespace Node

variable {α : Type}

/-- An access or an array literal. -/
def isBracketed : Node α → Bool
  | leaf _ _ => false
  | array _ _ | access _ _ _ => true

/-- How many bracketed nodes a way passes, its two ends among them. -/
def bracketsOn (n : Node α) (steps : List (Step α)) : Nat :=
  (n :: steps.map (·.node)).countP isBracketed

/-- How many bracketed nodes a way passes that are not targets of the node before them.  A chain of
    accesses, each the target of the one before, counts once. -/
def chainsOn (n : Node α) (steps : List (Step α)) : Nat :=
  n.isBracketed.toNat + steps.countP fun s => s.node.isBracketed && s.edge != .target

theorem Child.isBracketed {n c : Node α} {e : Edge} (h : Child n e c) : n.isBracketed = true := by
  cases h <;> rfl

/-- Without an access as a target every chain has one access, and the two ways of counting agree. -/
theorem bracketsOn_eq_chainsOn {n : Node α} {steps : List (Step α)}
    (h : ∀ s ∈ steps, s.edge = .target → s.node.isBracketed = false) :
    bracketsOn n steps = chainsOn n steps := by
  have hsteps : steps.countP (fun s => s.node.isBracketed) =
      steps.countP fun s => s.node.isBracketed && s.edge != .target := by
    refine List.countP_congr fun s hs => ?_
    have := h s hs
    cases he : s.edge <;> simp_all
  rw [bracketsOn, chainsOn, List.countP_cons, List.countP_map, ← hsteps, Nat.add_comm]
  cases n.isBracketed <;> rfl

/-- From a leaf no way goes on. -/
theorem Way.eq_nil {n m : Node α} {steps : List (Step α)} (h : Way n steps m)
    (hn : n.isBracketed = false) : steps = [] := by
  cases h with
  | here => rfl
  | down hc _ =>
    rw [hc.isBracketed] at hn
    cases hn

/-- To a target a way goes on in the same chain. -/
theorem chainsOn_target {n c m : Node α} {steps : List (Step α)} (hc : Child n .target c)
    (h : Way c steps m) : chainsOn n (⟨.target, c⟩ :: steps) = max 1 (chainsOn c steps) := by
  have hcount : (⟨.target, c⟩ :: steps : List (Step α)).countP
      (fun s => s.node.isBracketed && s.edge != .target) =
      steps.countP fun s => s.node.isBracketed && s.edge != .target := by
    simp
  rw [chainsOn, chainsOn, hc.isBracketed, hcount]
  cases hb : c.isBracketed with
  | true => simp
  | false =>
    rw [h.eq_nil hb]
    rfl

/-- To an argument or an item a way goes on in a bracket. -/
theorem chainsOn_of_ne_target {n c : Node α} {e : Edge} {steps : List (Step α)} (hc : Child n e c)
    (he : e ≠ .target) : chainsOn n (⟨e, c⟩ :: steps) = chainsOn c steps + 1 := by
  rw [chainsOn, chainsOn, hc.isBracketed, List.countP_cons]
  have he' : (e != .target) = true := bne_iff_ne.2 he
  simp only [he', Bool.and_true]
  cases c.isBracketed <;> simp <;> omega

end Node

/-! ## The brackets around a node are open at once

A node on a way down was read from lexemes in the brackets of the nodes above it, except where it is
the target of the next one.  Counting along the way, each chain adds a bracket that is open while
the rest is read.
-/

namespace Grammar

open Node (Way Step chainsOn)

/-- Lexemes in a row open no more brackets at once than those they stand among. -/
theorem bracketDepth_le_of_infix {part ls : List Lexeme} (h : part <:+: ls) :
    bracketDepth (part.map (·.token)) ≤ bracketDepth (ls.map (·.token)) := by
  obtain ⟨before, after, rfl⟩ := h
  have := mostOpen_mono (Nat.zero_le (openAfter 0 (before.map (·.token)))) (part.map (·.token))
  simp only [bracketDepth, List.map_append, mostOpen_append]
  omega

/-- The bracket of a node is open somewhere in its lexemes. -/
theorem Derives.lt_mostOpen {ls : List Lexeme} {n : Node Span} (h : Derives ls n)
    (hn : n.isBracketed = true) (k : Nat) : k < mostOpen k (ls.map (·.token)) := by
  have hbracketed (k : Nat) (us : List Token) : k < mostOpen k (.openBracket :: us) := by
    have := le_mostOpen (k + 1) us
    simp only [mostOpen, Token.opened]
    omega
  cases h with
  | leaf => cases hn
  | array opened closing _ _ => exact hbracketed k _
  | @access ts target ps ls opened closing ht _ _ =>
    rw [List.map_append, mostOpen_append, ht.balanced]
    exact Nat.lt_of_lt_of_le (hbracketed k _) (Nat.le_max_right ..)

/-- On a way down, each chain of accesses takes one more open bracket. -/
theorem Derives.add_chainsOn_le {ls : List Lexeme} {n m : Node Span} {steps : List (Step Span)}
    (h : Derives ls n) (hway : Way n steps m) (k : Nat) :
    k + chainsOn n steps ≤ mostOpen k (ls.map (·.token)) := by
  -- By induction on the way, from the outside in.  The child's lexemes are part of the node's, and
  -- at its first one as many brackets are open as the edge to it says: one more in a bracket, and
  -- none for a target.
  induction hway generalizing ls k with
  | here n =>
    have hle := le_mostOpen k (ls.map (·.token))
    rw [chainsOn]
    cases hn : n.isBracketed with
    | false => simpa using hle
    | true =>
      have := h.lt_mostOpen hn k
      show k + 1 ≤ _
      omega
  | @down n c m e steps hc hway ih =>
    have hn := h.lt_mostOpen hc.isBracketed k
    obtain ⟨before, part, after, rfl, hpart, hopen⟩ := h.exists_of_child hc
    have hinner := ih hpart (e.opened k)
    simp only [List.map_append, mostOpen_append, hopen] at hn ⊢
    by_cases he : e = .target
    · subst he
      rw [Node.chainsOn_target hc hway]
      simp only [Edge.opened] at hinner hn ⊢
      omega
    · rw [Node.chainsOn_of_ne_target hc he]
      rw [Edge.opened_of_ne_target he] at hinner ⊢
      omega

end Grammar

namespace Node

open Grammar (Derives)

/-- An expression that is read has a derivation within the limit on brackets. -/
theorem derives_of_ofText [PatternLanguage] {text : String} {root : Node Span}
    (h : ofText text = .ok (some root)) : ∃ ls, tokenize text = .ok ls ∧ Derives ls root ∧
      Grammar.bracketDepth (ls.map (·.token)) ≤ maxDepth := by
  obtain ⟨ls, hls, hread⟩ := ofText_eq_ok_iff.1 h
  exact ⟨ls, hls, ofLexemes_eq_ok_iff_derives.1 hread⟩

/-- **Depth**: a way down an expression that was read passes no more than `maxDepth` chains of
    accesses and array literals; so it passes no more than `maxDepth` bracketed nodes, if none of
    them is the target of another. -/
theorem bracketsOn_le_of_ofText [PatternLanguage] (text : String) (root m : Node Span)
    (steps : List (Step Span)) (h : ofText text = .ok (some root)) (hway : Way root steps m) :
    chainsOn root steps ≤ maxDepth ∧
    ((∀ s ∈ steps, s.edge = .target → s.node.isBracketed = false) →
      bracketsOn root steps ≤ maxDepth) := by
  obtain ⟨ls, -, hderives, hdepth⟩ := derives_of_ofText h
  have hchains : chainsOn root steps ≤ maxDepth := by
    have := hderives.add_chainsOn_le hway 0
    rw [Nat.zero_add] at this
    exact Nat.le_trans this hdepth
  refine ⟨hchains, fun hplain => ?_⟩
  rwa [bracketsOn_eq_chainsOn hplain]

open scoped Program in
/-- The array literal stands in the bracket of the access. -/
theorem bracketsOn_le_of_nested : ∃ root b steps, ofText "A[[B]]" = .ok (some root) ∧
    Way root steps (.leaf (.reference "b") b) ∧ bracketsOn root steps = 2 ∧
    chainsOn root steps ≤ maxDepth ∧ bracketsOn root steps ≤ maxDepth := by
  let items : Node Span := .array [.leaf (.reference "b") ⟨3, 4⟩] ⟨2, 5⟩
  let root : Node Span := .access (.leaf (.reference "a") ⟨0, 1⟩) [items] ⟨0, 6⟩
  have htokens : tokenize "A[[B]]" = .ok [⟨.reference "A", ⟨0, 1⟩⟩, ⟨.openBracket, ⟨1, 2⟩⟩,
      ⟨.openBracket, ⟨2, 3⟩⟩, ⟨.reference "B", ⟨3, 4⟩⟩, ⟨.closeBracket, ⟨4, 5⟩⟩,
      ⟨.closeBracket, ⟨5, 6⟩⟩] := by
    decide +kernel
  have hread : ofText "A[[B]]" = .ok (some root) := by
    rw [ofText, htokens]
    rfl
  have hway : Way root [⟨.argument, items⟩, ⟨.item, .leaf (.reference "b") ⟨3, 4⟩⟩]
      (.leaf (.reference "b") ⟨3, 4⟩) :=
    .down (.argument (by simp)) (.down (.item (by simp)) (.here _))
  have hdepth := bracketsOn_le_of_ofText "A[[B]]" _ _ _ hread hway
  exact ⟨_, _, _, hread, hway, rfl, hdepth.1, hdepth.2 (by simp)⟩

/-! ## Chains

A chain is accesses that are each the target of the next.  Its brackets stand side by side, so the
limit on open brackets does not count them together.
-/

/-- A name with as many empty brackets behind it. -/
def chain : Nat → String
  | 0 => "A"
  | n + 1 => chain n ++ "[]"

/-- The tokens of a chain. -/
def chainTokens : Nat → List Token
  | 0 => [.reference "A"]
  | n + 1 => chainTokens n ++ .openBracket :: [] ++ [.closeBracket]

/-- The text of a chain is read as its tokens. -/
theorem reads_chain [PatternLanguage] (n : Nat) :
    Reads (chain n).toList (some (chainTokens n)) := by
  induction n with
  | zero => exact reads_reference (by decide)
  | succ n ih =>
    have h := ih.bracketed reads_nil
    have htext : (chain (n + 1)).toList = (chain n).toList ++ '[' :: [] ++ [']'] := by
      simp [chain]
    rw [htext]
    exact h

/-- A chain opens one bracket at a time. -/
theorem bracketDepth_chainTokens (n : Nat) : Grammar.openAfter 0 (chainTokens n) = 0 ∧
    Grammar.bracketDepth (chainTokens n) ≤ 1 := by
  induction n with
  | zero => exact ⟨rfl, Nat.zero_le 1⟩
  | succ n ih =>
    obtain ⟨hopen, hdepth⟩ := ih
    have hbracket : Grammar.mostOpen 0 [.openBracket, .closeBracket] = 1 := rfl
    rw [Grammar.bracketDepth] at hdepth
    simp only [chainTokens, List.append_assoc, Grammar.bracketDepth, Grammar.openAfter_append,
      Grammar.mostOpen_append, hopen]
    refine ⟨rfl, ?_⟩
    show max _ (Grammar.mostOpen 0 [.openBracket, .closeBracket]) ≤ 1
    omega

/-- Over its targets a way passes all the accesses of a chain. -/
theorem exists_way_of_chainTokens {n : Nat} {ls : List Lexeme}
    (h : ls.map (·.token) = chainTokens n) : ∃ root steps v a, Derives ls root ∧
      Way root steps (.leaf v a) ∧ bracketsOn root steps = n := by
  -- By induction on the length: the last pair of brackets makes the root, and what it applies is
  -- the chain that is shorter by one.
  induction n generalizing ls with
  | zero =>
    obtain ⟨⟨_, span⟩, rfl, rfl⟩ := List.map_eq_singleton_iff.1 h
    exact ⟨_, [], _, _, .leaf span (.reference "A"), .here _, rfl⟩
  | succ n ih =>
    rw [chainTokens, List.append_assoc] at h
    obtain ⟨outer, rest, rfl, houter, hrest⟩ := List.map_eq_append_iff.1 h
    obtain ⟨opened, closing, inner, hinner, rfl⟩ := Grammar.exists_of_map_bracketed hrest
    rw [List.map_eq_nil_iff.1 hinner]
    obtain ⟨target, steps, v, a, htarget, hway, hcount⟩ := ih houter
    refine ⟨_, ⟨.target, target⟩ :: steps, v, a,
      .access opened closing htarget (by simp) (.started .none), .down (.target ..) hway, ?_⟩
    rw [bracketsOn, List.map_cons, List.countP_cons, ← hcount]
    rfl

/-- **Chains**: a way down an expression that was read can pass as many bracketed nodes as one
    likes. -/
theorem exists_way_of_chain [PatternLanguage] (n : Nat) :
    ∃ root steps v a, ofText (chain n) = .ok (some root) ∧
    Way root steps (.leaf v a) ∧ bracketsOn root steps = n := by
  obtain ⟨ls, hls, htokens⟩ := tokens?_eq_some_iff.1 ((reads_chain n).tokens?_eq 0)
  obtain ⟨root, steps, v, a, hderives, hway, hcount⟩ := exists_way_of_chainTokens htokens
  have hdepth : Grammar.bracketDepth (ls.map (·.token)) ≤ maxDepth := by
    rw [htokens]
    exact Nat.le_trans (bracketDepth_chainTokens n).2 (by decide)
  exact ⟨root, steps, v, a, ofText_eq_ok_iff.2 ⟨ls, hls,
    ofLexemes_eq_ok_iff_derives.2 ⟨hderives, hdepth⟩⟩, hway, hcount⟩

open scoped Program in
/-- With one bracket more than may be open at once, a way passes more than that. -/
theorem not_bracketsOn_le_of_chain : ∃ root steps v a, ofText (chain 257) = .ok (some root) ∧
    Way root steps (.leaf v a) ∧ ¬bracketsOn root steps ≤ maxDepth := by
  obtain ⟨root, steps, v, a, hread, hway, hcount⟩ := exists_way_of_chain 257
  exact ⟨root, steps, v, a, hread, hway, by rw [hcount]; decide⟩

end Node

end TypeExpr
