import TypeExpr.Proofs.Derivation

/-!
# Ways down an expression

A node stands in another as its target, as one of its arguments or as one of its items (`Edge`).
Going from a node to one that stands in it, again and again, is a `Way`; each step of it names the
edge and the node that it comes to.

The lexemes of a node are found in a row among those of every node that a way comes from
(`Derives.exists_infix_of_way`).
-/

namespace TypeExpr

/-- How a node stands in the one above it. -/
inductive Edge where
  | target
  | argument
  | item
  deriving DecidableEq

/-- How many brackets are open around a node, if `k` are around the one above it: one more, unless
    it is the target, which stands before the bracket. -/
def Edge.opened (k : Nat) : Edge → Nat
  | target => k
  | argument | item => k + 1

/-- Arguments and items stand in a bracket of the node above them. -/
theorem Edge.opened_of_ne_target {e : Edge} (he : e ≠ .target) (k : Nat) : e.opened k = k + 1 := by
  cases e with
  | target => exact absurd rfl he
  | argument => rfl
  | item => rfl

namespace Node

variable {α : Type}

/-- `Child n e c`: the node `c` stands in `n`, and `e` says how. -/
inductive Child : Node α → Edge → Node α → Prop where
  | target (t : Node α) (ns : List (Node α)) (a : α) : Child (.access t ns a) .target t
  | argument {t c : Node α} {ns : List (Node α)} {a : α} : c ∈ ns →
      Child (.access t ns a) .argument c
  | item {c : Node α} {ns : List (Node α)} {a : α} : c ∈ ns → Child (.array ns a) .item c

/-- A step from a node to one that stands in it. -/
structure Step (α : Type) where
  edge : Edge
  node : Node α

/-- `Way n steps m`: the steps lead from `n` down to `m`. -/
inductive Way : Node α → List (Step α) → Node α → Prop where
  | here (n : Node α) : Way n [] n
  | down {n c m : Node α} {e : Edge} {steps : List (Step α)} : Child n e c → Way c steps m →
      Way n (⟨e, c⟩ :: steps) m

/-- Two ways, the second of which begins where the first one ends, make one. -/
theorem Way.trans {n m l : Node α} {steps steps' : List (Step α)} (h : Way n steps m)
    (h' : Way m steps' l) : Way n (steps ++ steps') l := by
  induction h with
  | here => exact h'
  | down hc _ ih => exact .down hc (ih h')

end Node

namespace Grammar

open Node (Child Way Step)

/-- What stands in brackets was read from lexemes in a row. -/
theorem Filled.exists_of_mem {ps : List Part} {ls : List Lexeme} (h : Filled ps ls)
    (hps : ∀ p ∈ ps, Derives p.lexemes p.node) {c : Node Span} (hc : c ∈ ps.map Part.node) :
    ∃ before part after, ls = before ++ part ++ after ∧ Derives part c ∧ Balanced before := by
  obtain ⟨p, hp, rfl⟩ := List.mem_map.1 hc
  obtain ⟨before, after, rfl, hbefore⟩ :=
    (h.exists_around fun q hq => (hps q hq).balanced).2 p hp
  exact ⟨before, p.lexemes, after, rfl, hps p hp, hbefore⟩

/-- **Step**: a child was read from lexemes in a row among those of its parent. -/
theorem Derives.exists_of_child {ls : List Lexeme} {n c : Node Span} {e : Edge} (h : Derives ls n)
    (hc : Child n e c) : ∃ before part after, ls = before ++ part ++ after ∧ Derives part c ∧
      ∀ k, openAfter k (before.map (·.token)) = e.opened k := by
  cases hc with
  -- the target stands in front of the bracket, the others behind one that is open
  | target =>
    cases h with
    | access opened closing ht _ _ => exact ⟨[], _, _, rfl, ht, fun _ => rfl⟩
  | argument hmem =>
    cases h with
    | @access ts target ps ls opened closing ht hps hfilled =>
      obtain ⟨before, part, after, rfl, hpart, hbefore⟩ := hfilled.exists_of_mem hps hmem
      refine ⟨ts ++ ⟨.openBracket, opened⟩ :: before, part, after ++ [⟨.closeBracket, closing⟩],
        by simp, hpart, fun k => ?_⟩
      rw [List.map_append, openAfter_append, ht.balanced]
      exact hbefore (k + 1)
  | item hmem =>
    cases h with
    | @array ps ls opened closing hps hfilled =>
      obtain ⟨before, part, after, rfl, hpart, hbefore⟩ := hfilled.exists_of_mem hps hmem
      exact ⟨⟨.openBracket, opened⟩ :: before, part, after ++ [⟨.closeBracket, closing⟩], by simp,
        hpart, fun k => hbefore (k + 1)⟩

/-- **Way**: what a way leads to was read from lexemes in a row. -/
theorem Derives.exists_infix_of_way {ls : List Lexeme} {n m : Node Span} {steps : List (Step Span)}
    (h : Derives ls n) (hway : Way n steps m) : ∃ part, part <:+: ls ∧ Derives part m := by
  induction hway generalizing ls with
  | here => exact ⟨ls, List.infix_rfl, h⟩
  | down hc _ ih =>
    obtain ⟨before, part, after, rfl, hpart, -⟩ := h.exists_of_child hc
    obtain ⟨inner, hinner, hm⟩ := ih hpart
    exact ⟨inner, hinner.trans ⟨before, after, rfl⟩, hm⟩

end Grammar

end TypeExpr
