import TypeExpr.Proofs.Rules
import TypeExpr.Proofs.Ways

/-!
# Where evaluation fails

`Raises depth n fault` says when a node fails by itself, and not since an argument of it does: it
denotes nothing where it stands, what it applies is no name, too many accesses are around it, or the
name makes no type of the arguments.  If evaluation fails, there is a node that raises the fault
(`exists_raises_of_denote`), so that the fault carries the note of a node in the tree
(`exists_way_of_denote`).

Some faults are about a name: it is not known, or it does not take so many parameters.  Such a fault
is raised at the reference or at the access itself, and nothing around that node has a part in it:
on its own, inside no access, the node fails with the same fault (`Raises.denote_zero`).

A text is blamed as a whole if there is no expression in it, or one that denotes no type; if there
is one, every other failure comes from a fault (`parse_eq_error_cases`).

A fault has a cause and the note of a node.  Since a tree can have any notes, nothing can be told
from a note alone; so the node that raises a fault is found first, and that the fault has its note,
or that of its target or of an argument, is said afterwards (`Raises.exists_way`).
-/

namespace TypeExpr

variable {α : Type}

/-! ## Arguments that cannot be taken

From the inside out: one argument, two of them, any number, and then the names that are made of
these.
-/

namespace Argument

variable {β γ δ : Type} {a b : Argument α} {fault : Fault α}

/-- An argument that cannot be taken for what is wanted is blamed itself. -/
theorem eq_of_take_eq_error {read : Value → Option β} (h : a.take read = .error fault) :
    fault = .invalid a.note := by
  unfold take at h
  split at h
  · cases h
  · cases h
    rfl

/-- If nothing is made of one argument, it is blamed. -/
theorem eq_of_one_eq_error {read : Value → Option β} {make : β → δ}
    (h : (do return make (← a.take read)) = Except.error fault) : fault = .invalid a.note := by
  rcases bind_eq_error_iff.1 h with h | ⟨x, -, h⟩
  · exact eq_of_take_eq_error h
  · cases h

/-- If nothing is made of two arguments, one of them is blamed. -/
theorem eq_of_two_eq_error {read : Value → Option β} {read' : Value → Option γ} {make : β → γ → δ}
    (h : (do let x ← a.take read; let y ← b.take read'; return make x y) = Except.error fault) :
    fault = .invalid a.note ∨ fault = .invalid b.note := by
  rcases bind_eq_error_iff.1 h with h | ⟨x, -, h⟩
  · exact Or.inl (eq_of_take_eq_error h)
  · exact Or.inr (eq_of_one_eq_error h)

/-- If some arguments cannot all be taken for what is wanted, one of them is blamed. -/
theorem exists_of_mapM_eq_error {read : Value → Option β} {args : List (Argument α)}
    (h : args.mapM (·.take read) = .error fault) : ∃ a ∈ args, fault = .invalid a.note := by
  obtain ⟨front, a, back, rfl, -, hfault⟩ := mapM_eq_error_iff.1 h
  exact ⟨a, by simp, eq_of_take_eq_error hfault⟩

/-- If nothing is made of some arguments, one of them is blamed. -/
theorem exists_of_many_eq_error {read : Value → Option β} {make : List β → δ}
    {args : List (Argument α)}
    (h : (do return make (← args.mapM (·.take read))) = Except.error fault) :
    ∃ a ∈ args, fault = .invalid a.note := by
  rcases bind_eq_error_iff.1 h with h | ⟨xs, -, h⟩
  · exact exists_of_mapM_eq_error h
  · cases h

end Argument

open Argument

namespace TypeName

variable {note : α} {name : TypeName} {args : List (Argument α)} {fault : Fault α}

/-- What goes wrong when a type is made of arguments is that one of them is of no use. -/
theorem exists_of_build_eq_error (h : build note name args = .error fault) :
    fault = .invalid note ∨ ∃ a ∈ args, fault = .invalid a.note := by
  have one {a : Argument α} (h : fault = .invalid a.note) :
      fault = .invalid note ∨ ∃ b ∈ [a], fault = .invalid b.note :=
    Or.inr ⟨a, List.mem_cons_self, h⟩
  have two {a b : Argument α} (h : fault = .invalid a.note ∨ fault = .invalid b.note) :
      fault = .invalid note ∨ ∃ c ∈ [a, b], fault = .invalid c.note := by
    rcases h with h | h
    · exact Or.inr ⟨a, by simp, h⟩
    · exact Or.inr ⟨b, by simp, h⟩
  -- as many cases as there are rules; the last one is that of no rule
  fun_cases build note name args with
  | case3 | case6 | case12 | case14 => exact two (eq_of_two_eq_error h)
  | case8 | case9 | case10 => exact Or.inr (exists_of_many_eq_error h)
  | case16 =>
    rw [build] at h <;> try assumption
    cases h
    exact Or.inl rfl
  | _ => exact one (eq_of_one_eq_error h)

/-- A name and arguments fail since the name does not take so many, or since one of them is of no
    use. -/
theorem exists_of_apply_eq_error (h : apply note name args = .error fault) :
    (∃ cause, name.refusal? args.length = some cause ∧ fault = ⟨cause, note⟩) ∨
      fault = .invalid note ∨ ∃ a ∈ args, fault = .invalid a.note := by
  unfold apply at h
  split at h
  · rename_i cause hrefusal
    cases h
    exact Or.inl ⟨cause, hrefusal, rfl⟩
  · exact Or.inr (exists_of_build_eq_error h)

/-- A name that stands without arguments is blamed itself. -/
theorem note_of_bare_eq_error (h : bare note name = .error fault) : fault.note = note := by
  fun_cases bare note name with
  | case3 | case4 =>
    cases h
    rfl
  | _ => cases h

end TypeName

/-- If a reference denotes nothing, its name has no type without arguments. -/
theorem Leaf.bare_eq_error_of_denote {name : String} {note : α} {fault : Fault α}
    (h : (reference name).denote note = .error fault) :
    TypeName.bare note (.ofLower name) = .error fault := by
  rw [denote] at h
  cases hbare : TypeName.bare note (.ofLower name) with
  | ok t =>
    rw [hbare] at h
    cases h
  | error e =>
    rw [hbare] at h
    cases h
    rfl

/-- A leaf that denotes nothing is blamed itself. -/
theorem Leaf.note_of_denote_eq_error {l : Leaf} {note : α} {fault : Fault α}
    (h : l.denote note = .error fault) : fault.note = note := by
  cases l with
  | reference r => exact TypeName.note_of_bare_eq_error (bare_eq_error_of_denote h)
  | boolean => cases h; rfl
  | undefined => cases h; rfl
  | _ => cases h

namespace Node

/-! ## Values of arguments

What is denoted does not depend on how many accesses stand around, as long as they are not too many;
and an argument's value keeps the note of its node.
-/

/-- Arguments are evaluated one by one, and each keeps the note of its node. -/
theorem denoteAll_eq_ok_iff_forall₂ {depth : Nat} {ns : List (Node α)} {args : List (Argument α)} :
    denoteAll depth ns = .ok args ↔
      List.Forall₂ (fun n a => n.denote depth = .ok a.value ∧ a.note = n.note) ns args := by
  -- on the nodes, since evaluation goes through them
  induction ns generalizing args with
  | nil => cases args <;> simp [denoteAll]
  | cons n ns ih =>
    rw [denoteAll]
    constructor
    · intro h
      obtain ⟨v, hv, h⟩ := bind_eq_ok_iff.1 h
      obtain ⟨rest, hrest, h⟩ := bind_eq_ok_iff.1 h
      cases h
      exact .cons ⟨hv, rfl⟩ (ih.1 hrest)
    · intro h
      cases h with
      | @cons _ a _ rest ha hrest =>
        obtain ⟨hv, hnote⟩ := ha
        refine bind_eq_ok_iff.2 ⟨_, hv, bind_eq_ok_iff.2 ⟨rest, ih.2 hrest, ?_⟩⟩
        rw [← hnote]
        rfl

/-- What is denoted inside accesses is denoted inside fewer of them. -/
theorem denote_of_le {n : Node α} {depth depth' : Nat} {v : Value} (h : n.denote depth = .ok v)
    (hle : depth' ≤ depth) : n.denote depth' = .ok v := by
  obtain ⟨hlimit, hden⟩ := (denote_eq_ok_iff n depth v).1 h
  refine (denote_eq_ok_iff n depth' v).2 ⟨fun k t ns a hk => ?_, hden⟩
  have := hlimit k t ns a hk
  omega

/-- Arguments that denote something inside some accesses denote the same inside fewer. -/
theorem denoteAll_of_le {ns : List (Node α)} {depth depth' : Nat} {args : List (Argument α)}
    (h : denoteAll depth ns = .ok args) (hle : depth' ≤ depth) :
    denoteAll depth' ns = .ok args := by
  rw [denoteAll_eq_ok_iff_forall₂] at h ⊢
  exact h.imp fun n a ha => ⟨denote_of_le ha.1 hle, ha.2⟩

/-- Arguments keep the notes of their nodes. -/
theorem map_note_of_denoteAll {ns : List (Node α)} {depth : Nat} {args : List (Argument α)}
    (h : denoteAll depth ns = .ok args) : args.map (·.note) = ns.map note := by
  rw [denoteAll_eq_ok_iff_forall₂] at h
  induction h with
  | nil => rfl
  | cons hn _ ih => rw [List.map_cons, List.map_cons, ih, hn.2]

/-- So an argument has the note of one of the nodes. -/
theorem exists_mem_of_denoteAll {ns : List (Node α)} {depth : Nat} {args : List (Argument α)}
    {a : Argument α} (h : denoteAll depth ns = .ok args) (ha : a ∈ args) :
    ∃ n ∈ ns, a.note = n.note := by
  have hmem : a.note ∈ args.map (·.note) := List.mem_map_of_mem ha
  rw [map_note_of_denoteAll h] at hmem
  obtain ⟨n, hn, hnote⟩ := List.mem_map.1 hmem
  exact ⟨n, hn, hnote.symm⟩

/-! ## The node that raises a fault

A fault is raised at one node and handed on through all that stand above it.  `Raises` says what the
node that raises it looks like, without saying anything of the nodes above.
-/

/-- `Raises depth n fault`: the node `n`, which stands inside `depth` accesses, fails by itself, and
    not since an argument of it does. -/
inductive Raises (depth : Nat) : Node α → Fault α → Prop where
  /-- The leaf denotes nothing. -/
  | leaf {l note fault} : l.denote note = .error fault → Raises depth (.leaf l note) fault
  /-- An array literal denotes nothing. -/
  | array (items note) : Raises depth (.array items note) (.invalid note)
  /-- What is applied is no name. -/
  | target {target arguments note} : target.reference? = none →
      Raises depth (.access target arguments note) (.invalid target.note)
  /-- The access stands inside too many others. -/
  | tooDeep {target arguments note name} : target.reference? = some name → maxDepth ≤ depth →
      Raises depth (.access target arguments note) (.invalid note)
  /-- The name makes no type of the arguments. -/
  | applied {target arguments note name values fault} : target.reference? = some name →
      depth < maxDepth → denoteAll (depth + 1) arguments = .ok values →
      TypeName.apply note (.ofLower name) values = .error fault →
      Raises depth (.access target arguments note) fault

mutual

/-- If evaluation fails, then some node raises the fault that comes out. -/
theorem exists_raises_of_denote : ∀ (n : Node α) (depth : Nat) (fault : Fault α),
    n.denote depth = .error fault → ∃ k m, Encloses n k m ∧ m.Raises (depth + k) fault
  | leaf l note, depth, fault, h => by
    rw [denote] at h
    exact ⟨0, _, .self _, .leaf h⟩
  | array items note, depth, fault, h => by
    rw [denote] at h
    cases h
    exact ⟨0, _, .self _, .array items note⟩
  | access target arguments note, depth, fault, h => by
    rw [denote] at h
    -- the checks in the order in which they are made
    split at h
    · rename_i hname
      cases h
      exact ⟨0, _, .self _, .target hname⟩
    · rename_i name hname
      split at h
      · rename_i hdepth
        cases h
        exact ⟨0, _, .self _, .tooDeep hname hdepth⟩
      · rename_i hdepth
        rcases bind_eq_error_iff.1 h with h | ⟨values, hvalues, h⟩
        · obtain ⟨n, hn, k, m, hm, hraises⟩ := exists_raises_of_denoteAll arguments _ _ h
          have hk : depth + (k + 1) = depth + 1 + k := by omega
          exact ⟨k + 1, m, .argument hn hm, hk ▸ hraises⟩
        · rcases bind_eq_error_iff.1 h with h | ⟨t, -, h⟩
          · exact ⟨0, _, .self _, .applied hname (Nat.lt_of_not_le hdepth) hvalues h⟩
          · cases h

/-- If arguments cannot be evaluated, the fault was raised in one of them. -/
theorem exists_raises_of_denoteAll : ∀ (ns : List (Node α)) (depth : Nat) (fault : Fault α),
    denoteAll depth ns = .error fault →
      ∃ n ∈ ns, ∃ k m, Encloses n k m ∧ m.Raises (depth + k) fault
  | [], depth, fault, h => by cases h
  | n :: ns, depth, fault, h => by
    rw [denoteAll] at h
    rcases bind_eq_error_iff.1 h with h | ⟨v, -, h⟩
    · exact ⟨n, List.mem_cons_self, exists_raises_of_denote n depth fault h⟩
    · rcases bind_eq_error_iff.1 h with h | ⟨rest, -, h⟩
      · obtain ⟨m, hm, hraises⟩ := exists_raises_of_denoteAll ns depth fault h
        exact ⟨m, List.mem_cons_of_mem n hm, hraises⟩
      · cases h

end

/-- A node that raises a fault fails with it. -/
theorem Raises.denote_eq {n : Node α} {depth : Nat} {fault : Fault α} (h : n.Raises depth fault) :
    n.denote depth = .error fault := by
  cases h with
  | leaf h => rw [denote, h]
  | array => rw [denote]
  | target hname => simp only [denote, hname]
  | tooDeep hname hdepth => simp only [denote, hname, if_pos hdepth]
  | applied hname hdepth hvalues happly =>
    simp only [denote, hname, if_neg (Nat.not_le.2 hdepth)]
    rw [hvalues]
    show (TypeName.apply _ _ _ >>= _) = _
    rw [happly]
    rfl

/-- A fault carries the note of the node that raises it, or that of one right in it. -/
theorem Raises.exists_way {n : Node α} {depth : Nat} {fault : Fault α} (h : n.Raises depth fault) :
    ∃ steps m, Way n steps m ∧ fault.note = m.note := by
  cases h with
  | leaf h => exact ⟨[], _, .here _, Leaf.note_of_denote_eq_error h⟩
  | array items note => exact ⟨[], _, .here _, rfl⟩
  | target hname => exact ⟨_, _, .down (.target ..) (.here _), rfl⟩
  | tooDeep hname hdepth => exact ⟨[], _, .here _, rfl⟩
  | applied hname hdepth hvalues happly =>
    rcases TypeName.exists_of_apply_eq_error happly with ⟨cause, -, rfl⟩ | rfl | ⟨a, ha, rfl⟩
    · exact ⟨[], _, .here _, rfl⟩
    · exact ⟨[], _, .here _, rfl⟩
    · obtain ⟨m, hm, hnote⟩ := exists_mem_of_denoteAll hvalues ha
      exact ⟨_, m, .down (.argument hm) (.here _), hnote⟩

/-- From a node there is a way to each node that it encloses. -/
theorem Encloses.exists_way {n m : Node α} {k : Nat} (h : Encloses n k m) :
    ∃ steps, Way n steps m := by
  induction h with
  | self n => exact ⟨[], .here n⟩
  | argument hm _ ih =>
    obtain ⟨steps, hsteps⟩ := ih
    exact ⟨_, .down (.argument hm) hsteps⟩

/-- **Blame**: a fault carries the note of a node that a way leads to. -/
theorem exists_way_of_denote {n : Node α} {depth : Nat} {fault : Fault α}
    (h : n.denote depth = .error fault) : ∃ steps m, Way n steps m ∧ fault.note = m.note := by
  obtain ⟨k, m, hm, hraises⟩ := exists_raises_of_denote n depth fault h
  obtain ⟨steps, hsteps⟩ := hm.exists_way
  obtain ⟨steps', m', hsteps', hnote⟩ := hraises.exists_way
  exact ⟨_, m', hsteps.trans hsteps', hnote⟩

/-- A fault that is about a name is raised at the node that it is blamed on, and without anything
    around it that node fails in the same way. -/
theorem Raises.denote_zero {n : Node α} {depth : Nat} {fault : Fault α} (h : n.Raises depth fault)
    (hcause : ∀ detail, fault.cause ≠ .invalidSpecification detail) :
    fault.note = n.note ∧ n.denote 0 = .error fault := by
  cases h with
  | leaf h => exact ⟨Leaf.note_of_denote_eq_error h, by rw [denote, h]⟩
  | array => exact absurd rfl (hcause none)
  | target => exact absurd rfl (hcause none)
  | tooDeep => exact absurd rfl (hcause none)
  | applied hname hdepth hvalues happly =>
    -- what the arguments denote inside many accesses they denote inside one
    have hvalues := denoteAll_of_le hvalues (show 0 + 1 ≤ depth + 1 by omega)
    refine ⟨?_, Raises.denote_eq (.applied hname (by decide) hvalues happly)⟩
    rcases TypeName.exists_of_apply_eq_error happly with ⟨cause, -, rfl⟩ | rfl | ⟨a, -, rfl⟩
    · rfl
    · exact absurd rfl (hcause none)
    · exact absurd rfl (hcause none)

/-- A fault about a name that comes out of a tree is raised at the node that it is blamed on, and
    that node fails with it by itself. -/
theorem exists_raises_way_of_denote {root : Node α} {fault : Fault α}
    (h : root.denote 0 = .error fault)
    (hcause : ∀ detail, fault.cause ≠ .invalidSpecification detail) :
    ∃ steps m depth, Way root steps m ∧ m.Raises depth fault ∧ fault.note = m.note ∧
      m.denote 0 = .error fault := by
  obtain ⟨k, m, hm, hraises⟩ := exists_raises_of_denote root 0 fault h
  obtain ⟨steps, hway⟩ := hm.exists_way
  obtain ⟨hnote, hzero⟩ := hraises.denote_zero hcause
  exact ⟨steps, m, _, hway, hraises, hnote, hzero⟩

end Node

/-! ## Failures of a whole text

If there is no expression, or what it denotes is no type, the text is blamed as a whole; otherwise a
node of it is.
-/

/-- If evaluation fails, the failure is about the node that is blamed. -/
theorem Node.interpret_of_error {root : Node Span} {fault : Fault Span}
    (h : root.denote 0 = .error fault) (text : String) :
    root.interpret text = .error (.ofSpan text fault.cause fault.note) := by
  simp only [interpret, h]

/-- A value that is no type is blamed on the whole text. -/
theorem Node.interpret_of_no_type {root : Node Span} {v : Value} (h : root.denote 0 = .ok v)
    (hv : v.type? = none) (text : String) :
    root.interpret text = .error (.ofWhole text none) := by
  cases v with
  | type t => cases hv
  | _ => simp only [interpret, h]

variable [PatternLanguage]

/-- An expression is parsed to what it denotes. -/
theorem parse_of_ofText {text : String} {root : Node Span}
    (h : Node.ofText text = .ok (some root)) : parse text = root.interpret text := by
  simp only [parse, h]

/-- A text without an expression is blamed as a whole. -/
theorem exists_parse_eq_ofWhole {text : String} (h : ∀ root, Node.ofText text ≠ .ok (some root)) :
    ∃ detail, parse text = .error (.ofWhole text detail) := by
  unfold parse
  split
  · exact ⟨_, rfl⟩
  · exact ⟨_, rfl⟩
  · rename_i root hroot
    exact absurd hroot (h root)

/-- The text is no expression, it has none in it, or what the expression denotes is no type. -/
def DenotesNoType (text : String) : Prop :=
  (∃ e, Node.ofText text = .error e) ∨ Node.ofText text = .ok none ∨
    ∃ root v, Node.ofText text = .ok (some root) ∧ root.denote 0 = .ok v ∧ v.type? = none

/-- A text that denotes no type is blamed as a whole. -/
theorem DenotesNoType.exists_parse_eq {text : String} (h : DenotesNoType text) :
    ∃ detail, parse text = .error (.ofWhole text detail) := by
  rcases h with ⟨e, he⟩ | hnone | ⟨root, v, hroot, hden, hv⟩
  · exact exists_parse_eq_ofWhole fun root hroot => by cases he.symm.trans hroot
  · exact exists_parse_eq_ofWhole fun root hroot => by cases hnone.symm.trans hroot
  · exact ⟨none, (parse_of_ofText hroot).trans (Node.interpret_of_no_type hden hv text)⟩

/-- If a text cannot be parsed, then either it is blamed as a whole or evaluation failed. -/
theorem parse_eq_error_cases {text : String} {f : Failure} (h : parse text = .error f) :
    (DenotesNoType text ∧ ∃ detail, f = .ofWhole text detail) ∨
      ∃ root fault, Node.ofText text = .ok (some root) ∧ root.denote 0 = .error fault ∧
        f = .ofSpan text fault.cause fault.note := by
  unfold parse at h
  split at h
  · rename_i e he
    cases h
    exact Or.inl ⟨Or.inl ⟨e, he⟩, _, rfl⟩
  · rename_i hnone
    cases h
    exact Or.inl ⟨Or.inr (Or.inl hnone), _, rfl⟩
  · -- an expression that was read fails by a fault, or since what it denotes is no type
    rename_i root hroot
    unfold Node.interpret at h
    split at h
    · rename_i fault hfault
      cases h
      exact Or.inr ⟨root, fault, hroot, hfault, rfl⟩
    · cases h
    · rename_i v hv hden
      cases h
      refine Or.inl ⟨Or.inr (Or.inr ⟨root, v, hroot, hden, ?_⟩), _, rfl⟩
      cases v with
      | type t => exact absurd rfl (hv t)
      | _ => rfl

end TypeExpr
