import TypeExpr.Proofs.RoundTrip
import TypeExpr.Regex.Check

/-!
# Evaluation without a limit

`Node.denote` counts the accesses that a node stands inside, along arguments, and refuses an access
that stands inside `maxDepth` others.  `Node.evaluate` is the same evaluation with that one check
left out; it counts nothing.

As long as no access stands too deep the two agree (`Node.denote_eq_evaluate`), in what they find
and in what they blame.  In a tree that was read from a text none does: the reader counts every open
bracket, those of array literals and of targets too, which is never less than what `denote` counts.
In a tree that was built otherwise an access can stand as deep as one likes, and then the limit
shows: `nestedAccess` is the chain of accesses with which it is reached.
-/

namespace TypeExpr

open DataType

variable {α : Type}

namespace Node

mutual

/-- What a node denotes, however many accesses it stands inside. -/
def evaluate : Node α → Except (Fault α) Value
  | leaf v a => v.denote a
  | array _ a => .error (.invalid a)
  | access target arguments a =>
    match target.reference? with
    | none => .error (.invalid target.note)
    | some name => do
      let values ← evaluateAll arguments
      return .type (← TypeName.apply a (.ofLower name) values)

/-- What arguments denote, from left to right. -/
def evaluateAll : List (Node α) → Except (Fault α) (List (Argument α))
  | [] => .ok []
  | n :: ns => do
    let value ← evaluate n
    return ⟨value, n.note⟩ :: (← evaluateAll ns)

end

/-- `interpret` without the limit on accesses inside accesses. -/
def interpretFreely (root : Node Span) (text : String) : Except Failure DataType :=
  match root.evaluate with
  | .error fault => .error (.ofSpan text fault.cause fault.note)
  | .ok (.type t) => .ok t
  | .ok _ => .error (.ofWhole text none)

/-! ## Within the limit

The check on the number of accesses is the only difference between the two evaluations.
-/

mutual

/-- The induction is on the tree.  An access passes the check by its own place, and its arguments,
    which stand one access deeper, are within the limit there. -/
theorem denote_eq_evaluate : ∀ (n : Node α) (depth : Nat), WithinLimit depth n →
    n.denote depth = n.evaluate
  | leaf v a, depth, _ => by rw [denote, evaluate]
  | array items a, depth, _ => by rw [denote, evaluate]
  | access target arguments a, depth, h => by
    obtain ⟨hdepth, hargs⟩ := withinLimit_access_iff.1 h
    have hcheck : ¬maxDepth ≤ depth := Nat.not_le.2 hdepth
    have hall := denoteAll_eq_evaluateAll arguments (depth + 1) hargs
    rw [denote, evaluate]
    cases target.reference? with
    | none => rfl
    | some name => simp only [if_neg hcheck, hall]

/-- The same of arguments. -/
theorem denoteAll_eq_evaluateAll : ∀ (ns : List (Node α)) (depth : Nat),
    (∀ n ∈ ns, WithinLimit depth n) → denoteAll depth ns = evaluateAll ns
  | [], depth, _ => by rw [denoteAll, evaluateAll]
  | n :: ns, depth, h => by
    obtain ⟨hn, hns⟩ := List.forall_mem_cons.1 h
    have hn := denote_eq_evaluate n depth hn
    have hns := denoteAll_eq_evaluateAll ns depth hns
    rw [denoteAll, evaluateAll, hn, hns]

end

/-- The limit on a whole tree, as a number of accesses around each access. -/
theorem withinLimit_zero_iff {root : Node α} : WithinLimit 0 root ↔
    ∀ k target arguments a, Encloses root k (.access target arguments a) → k ≤ 255 := by
  have hlimit (k : Nat) : 0 + k < maxDepth ↔ k ≤ 255 := by
    show 0 + k < 256 ↔ k ≤ 255
    omega
  simp only [WithinLimit, hlimit]

/-- Within the limit the two interpretations agree. -/
theorem interpret_eq_interpretFreely {root : Node Span} (h : WithinLimit 0 root) (text : String) :
    root.interpret text = root.interpretFreely text := by
  have hdenote := denote_eq_evaluate root 0 h
  cases hvalue : root.evaluate with
  | error fault => simp only [interpret, interpretFreely, hdenote, hvalue]
  | ok v => cases v <;> simp only [interpret, interpretFreely, hdenote, hvalue]

/-- **The two limits agree**: in a tree that was read every access stands inside 255 others at most,
    and the tree is interpreted as if there were no limit.  Of trees in general those that denote a
    type have no access inside more than 255 others, and to those that have none the limit makes no
    difference. -/
theorem limits_agree [PatternLanguage] (root : Node Span) (text : String) :
    (∀ source, ofText source = .ok (some root) →
      (∀ k target arguments a, Encloses root k (.access target arguments a) → k ≤ 255) ∧
        root.interpret text = root.interpretFreely text) ∧
    (∀ t, root.interpret text = .ok t →
      ∀ k target arguments a, Encloses root k (.access target arguments a) → k ≤ 255) ∧
    ((∀ k target arguments a, Encloses root k (.access target arguments a) → k ≤ 255) →
      root.interpret text = root.interpretFreely text) := by
  refine ⟨?_, ?_, ?_⟩
  · intro source hsource
    have hlimit := withinLimit_of_ofText hsource
    exact ⟨withinLimit_zero_iff.1 hlimit, interpret_eq_interpretFreely hlimit text⟩
  · intro t ht
    have hdenote := (denote_eq_ok_iff root 0 _).1 (interpret_eq_ok_of_denote_iff.1 ht)
    exact withinLimit_zero_iff.1 hdenote.1
  · intro hlimit
    exact interpret_eq_interpretFreely (withinLimit_zero_iff.2 hlimit) text

/-! ## At the limit

A chain of accesses as arguments of each other, which no text can hold beyond the limit.
-/

/-- `Array` inside so many arrays, as a tree that was read from no text. -/
def nestedAccess : Nat → Node Span
  | 0 => leaf (.reference "array") (.point 0)
  | n + 1 => access (leaf (.reference "array") (.point 0)) [nestedAccess n] (.point 0)

/-- Without the limit the chain denotes as many arrays inside each other as it is long. -/
theorem evaluate_nestedAccess (n : Nat) :
    (nestedAccess n).evaluate = .ok (.type (nestedArray n)) := by
  induction n with
  | zero => rfl
  | succ n ih =>
    have hall : evaluateAll [nestedAccess n] =
        .ok [⟨.type (nestedArray n), (nestedAccess n).note⟩] := by
      rw [evaluateAll, evaluateAll, ih]
      rfl
    have happly : TypeName.apply (.point 0) (.ofLower "array")
        [(⟨.type (nestedArray n), (nestedAccess n).note⟩ : Argument Span)] =
        .ok (nestedArray (n + 1)) :=
      TypeName.apply_of_applied (.array (nestedArray_ne_undef n))
    simp only [nestedAccess, evaluate, reference?, hall]
    exact bind_eq_ok_iff.2 ⟨_, rfl, bind_eq_ok_iff.2 ⟨_, happly, rfl⟩⟩

/-- The innermost access stands inside all the others. -/
theorem withinLimit_nestedAccess_iff {depth n : Nat} :
    WithinLimit depth (nestedAccess n) ↔ n = 0 ∨ depth + n ≤ maxDepth := by
  induction n generalizing depth with
  | zero => simpa [nestedAccess] using withinLimit_leaf depth _ _
  | succ n ih =>
    rw [nestedAccess, withinLimit_access_iff, List.forall_mem_singleton, ih]
    omega

open scoped Program in
/-- With 256 accesses inside each other, read from a text or not, the limit makes no difference.
    The 257th does denote a type, and is refused. -/
theorem limits_agree_nestedAccess :
    (∃ root, ofText (nestedArrays 256) = .ok (some root) ∧
      root.interpretFreely (nestedArrays 256) = .ok (nestedArray 256)) ∧
    (nestedAccess 256).interpret "" = .ok (nestedArray 256) ∧
    (nestedAccess 256).interpretFreely "" = .ok (nestedArray 256) ∧
    (∀ t, (nestedAccess 257).interpret "" ≠ .ok t) ∧
    (nestedAccess 257).interpretFreely "" = .ok (nestedArray 257) := by
  -- Without the limit every chain denotes its type, and the limit is kept up to 256 and not beyond.
  have hfree (n : Nat) : (nestedAccess n).interpretFreely "" = .ok (nestedArray n) := by
    rw [interpretFreely, evaluate_nestedAccess]
  have hlimit : WithinLimit 0 (nestedAccess 256) :=
    withinLimit_nestedAccess_iff.2 (.inr (by decide))
  refine ⟨?_, ?_, hfree 256, ?_, hfree 257⟩
  · have hparse := parse_nestedArrays (n := 256) (by decide)
    obtain ⟨root, hroot, hinterpret⟩ := parse_eq_ok_iff_ofText.1 hparse
    refine ⟨root, hroot, ?_⟩
    rw [← hinterpret]
    exact ((limits_agree root (nestedArrays 256)).1 (nestedArrays 256) hroot).2.symm
  · rw [(limits_agree (nestedAccess 256) "").2.2 (withinLimit_zero_iff.1 hlimit), hfree]
  · intro t ht
    have hdeep := (limits_agree (nestedAccess 257) "").2.1 t ht
    have hnot := withinLimit_nestedAccess_iff.1 (withinLimit_zero_iff.2 hdeep)
    revert hnot
    decide

end Node

end TypeExpr
