import TypeExpr.Proofs.Faults
import TypeExpr.Proofs.Sameness

/-!
# Notes and signs of zeros do not matter

Evaluation hands notes on and looks into none of them; and of a double it never asks for more than
that it is one.  So to map all the notes and all the doubles of a tree, and then to evaluate it, is
to evaluate it first and to map what comes out (`Node.denote_map`).  The map on doubles only has to
leave those alone that integers count as.

It is shown from the inside out.  What a value is taken for is the same before and after, with the
doubles mapped in what comes out (`structural?_mapBounds` and its like).  So one argument, two
arguments or any number of them are taken in the same way (`one_map`, `two_map`, `many_map`), which
are all the ways there are to build a type (`build_map`).  A tree is then evaluated step by step,
and `mapResult_bind` says that the steps may be looked at one after the other.

The two uses are a tree that is moved to another place, where the doubles are kept, and a tree that
is stripped of all that spelling adds, spans and signs of zeros alike.
-/

namespace TypeExpr

variable {α β γ δ : Type}

/-! ## What is mapped

The functions that map everything a tree, a value, an argument or a fault is made of, and that they
agree with each other.
-/

section Maps

variable (f : α → β) (g : Double → Double)

/-- The leaf, with the double mapped if it is one. -/
def Leaf.mapBounds : Leaf → Leaf
  | float x => float (g x)
  | l => l

/-- The value with its doubles mapped. -/
def Value.mapBounds : Value → Value
  | type t => type (t.mapBounds g)
  | float x => float (g x)
  | v => v

/-- The fault of the node with the mapped note. -/
def Fault.map (e : Fault α) : Fault β := ⟨e.cause, f e.note⟩

/-- The argument with its doubles and its note mapped. -/
def Argument.map (a : Argument α) : Argument β := ⟨a.value.mapBounds g, f a.note⟩

/-- A result with its value mapped, or the note of its fault. -/
def mapResult (p : γ → δ) : Except (Fault α) γ → Except (Fault β) δ
  | .ok c => .ok (p c)
  | .error e => .error (e.map f)

namespace Node

mutual

/-- The node with all its notes and doubles mapped. -/
def map : Node α → Node β
  | leaf l a => leaf (l.mapBounds g) (f a)
  | array items a => array (mapAll items) (f a)
  | access target arguments a => access target.map (mapAll arguments) (f a)

/-- The nodes with all their notes and doubles mapped. -/
def mapAll : List (Node α) → List (Node β)
  | [] => []
  | n :: ns => n.map :: mapAll ns

end

theorem mapAll_eq_map (ns : List (Node α)) : mapAll f g ns = ns.map (map f g) := by
  induction ns with
  | nil => rfl
  | cons n ns ih => simp [mapAll, ih]

@[simp] theorem map_leaf (l : Leaf) (a : α) : (leaf l a).map f g = leaf (l.mapBounds g) (f a) := by
  simp [map]

@[simp] theorem map_array (ns : List (Node α)) (a : α) :
    (array ns a).map f g = array (ns.map (map f g)) (f a) := by
  simp [map, mapAll_eq_map]

/-- Of a node with arguments the target, the arguments and the note are mapped. -/
@[simp] theorem map_access (t : Node α) (ns : List (Node α)) (a : α) :
    (access t ns a).map f g = access (t.map f g) (ns.map (map f g)) (f a) := by
  simp [map, mapAll_eq_map]

theorem note_map (n : Node α) : (n.map f g).note = f n.note := by
  cases n <;> simp [note]

/-- A node that is mapped is the same reference as before, or none as before. -/
theorem reference?_map (n : Node α) : (n.map f g).reference? = n.reference? := by
  cases n with
  | leaf l a => cases l <;> simp [reference?, Leaf.mapBounds]
  | _ => simp [reference?]

end Node

end Maps

theorem Leaf.mapBounds_id (l : Leaf) : l.mapBounds id = l := by
  cases l <;> rfl

theorem Value.mapBounds_id (v : Value) : v.mapBounds id = v := by
  cases v with
  | type t => exact congrArg type t.mapBounds_id
  | _ => rfl

namespace Node

mutual

theorem map_id : ∀ n : Node α, n.map id id = n
  | leaf l a => by rw [map, Leaf.mapBounds_id, id]
  | array items a => by rw [map, mapAll_id items, id]
  | access target arguments a => by rw [map, map_id target, mapAll_id arguments, id]

theorem mapAll_id : ∀ ns : List (Node α), mapAll id id ns = ns
  | [] => rfl
  | n :: ns => by rw [mapAll, map_id n, mapAll_id ns]

end

end Node

variable {f : α → β} {g : Double → Double}

/-- Both parts of a computation that binds can be mapped, one after the other. -/
theorem mapResult_bind {γ' δ' : Type} {p : γ → γ'} {q : δ → δ'} {x : Except (Fault α) γ}
    {k : γ → Except (Fault α) δ} {x' : Except (Fault β) γ'} {k' : γ' → Except (Fault β) δ'}
    (hx : x' = mapResult f p x) (hk : ∀ c, k' (p c) = mapResult f q (k c)) :
    (x' >>= k') = mapResult f q (x >>= k) := by
  subst hx
  cases x with
  | error e => rfl
  | ok c => exact hk c

/-- Results that are mapped to one result are both faults, or both values. -/
theorem cases_of_mapResult_eq {p : γ → δ} {x y : Except (Fault α) γ}
    (h : mapResult f p x = mapResult f p y) :
    (∃ e e', x = .error e ∧ y = .error e' ∧ e.map f = e'.map f) ∨
      ∃ c c', x = .ok c ∧ y = .ok c' ∧ p c = p c' := by
  cases x with
  | error e =>
    cases y with
    | error e' => exact Or.inl ⟨e, e', rfl, rfl, Except.error.inj h⟩
    | ok c' => cases h
  | ok c =>
    cases y with
    | error e' => cases h
    | ok c' => exact Or.inr ⟨c, c', rfl, rfl, Except.ok.inj h⟩

/-! ## What arguments are taken for

One lemma for each way to take an argument, and one for each number of arguments.
-/

namespace Value

variable (v : Value)

theorem type?_mapBounds : (v.mapBounds g).type? = v.type?.map (DataType.mapBounds g) := by
  cases v <;> rfl

/-- Values of one normal form are types that are the same, or neither of them is a type. -/
theorem cases_of_normal_eq {v v' : Value}
    (h : v.mapBounds Double.normal = v'.mapBounds Double.normal) :
    (∃ t t', v = type t ∧ v' = type t' ∧ (t == t') = true) ∨ v.type? = none ∧ v'.type? = none := by
  have htype := congrArg type? h
  rw [type?_mapBounds, type?_mapBounds] at htype
  -- whether a value is a type can be told from its normal form
  cases v with
  | type t =>
    cases v' with
    | type t' =>
      have hnormal : t.normal = t'.normal := Option.some.inj htype
      exact Or.inl ⟨t, t', rfl, rfl, (t.same_iff t').2 hnormal⟩
    | _ => cases htype
  | _ =>
    cases v' with
    | type t' => cases htype
    | _ => exact Or.inr ⟨rfl, rfl⟩

/-- Whether a type may be a part does not depend on its doubles, since only one type may not, and it
    has none. -/
theorem structural?_mapBounds :
    (v.mapBounds g).structural? = v.structural?.map (DataType.mapBounds g) := by
  cases v with
  | type t =>
    have ht : (t.mapBounds g).isStructural = t.isStructural := by
      cases t <;> rfl
    simp only [mapBounds, structural?, ht]
    split <;> rfl
  | _ => rfl

/-- The remaining ways to take a value do not look at the bounds of a type at all. -/
theorem string?_mapBounds : (v.mapBounds g).string? = v.string?.map id := by
  cases v <;> rfl

theorem pattern?_mapBounds : (v.mapBounds g).pattern? = v.pattern?.map id := by
  cases v with
  | type t => cases t with
    | regexp p => cases p <;> rfl
    | _ => rfl
  | _ => rfl

/-- A value is taken for the kind of resource that it was, also if it is a type. -/
theorem resourceKind?_mapBounds : (v.mapBounds g).resourceKind? = v.resourceKind?.map id := by
  cases v with
  | type t => cases t with
    | resource r => rcases r with _ | ⟨_, _ | _⟩ <;> rfl
    | _ => rfl
  | _ => rfl

theorem title?_mapBounds : (v.mapBounds g).title? = v.title?.map id := by
  cases v <;> rfl

theorem integerBound?_mapBounds : (v.mapBounds g).integerBound? = v.integerBound?.map id := by
  cases v <;> rfl

/-- A value is taken for the bound that it was, mapped.  An integer counts as a double too, and this
    is the one place where the map has to leave something alone. -/
theorem floatBound?_mapBounds (hg : ∀ n, g (.ofInt n) = .ofInt n) :
    (v.mapBounds g).floatBound? = v.floatBound?.map (Option.map g) := by
  cases v with
  | integer n => simp [mapBounds, floatBound?, hg]
  | _ => rfl

end Value

namespace Argument

variable {read : Value → Option γ} {p : γ → γ} {a b : Argument α}
  (hread : ∀ v : Value, read (v.mapBounds g) = (read v).map p)

include hread

/-- An argument is taken for what it was, mapped, or blamed at the mapped note. -/
theorem take_map : (a.map f g).take read = mapResult f p (a.take read) := by
  simp only [take, map, hread]
  cases read a.value <;> rfl

/-- So is what is built of one argument. -/
theorem one_map {q : δ → δ} {make make' : γ → δ} (hmake : ∀ x, make' (p x) = q (make x)) :
    (do return make' (← (a.map f g).take read)) = mapResult f q (do return make (← a.take read)) :=
  mapResult_bind (take_map hread) fun x => congrArg Except.ok (hmake x)

/-- So is what is built of two arguments; the first one is looked at first in both cases. -/
theorem two_map {ε : Type} {read' : Value → Option δ} {p' : δ → δ}
    (hread' : ∀ v : Value, read' (v.mapBounds g) = (read' v).map p') {q : ε → ε}
    {make : γ → δ → ε} (hmake : ∀ x y, make (p x) (p' y) = q (make x y)) :
    (do let x ← (a.map f g).take read; let y ← (b.map f g).take read'; return make x y) =
      mapResult f q (do let x ← a.take read; let y ← b.take read'; return make x y) :=
  mapResult_bind (take_map hread) fun x => one_map hread' (hmake x)

/-- Any number of arguments are taken for what they were, or the first misfit is blamed at its
    mapped note. -/
theorem mapM_take_map {args : List (Argument α)} :
    (args.map (map f g)).mapM (·.take read) =
      mapResult f (List.map p) (args.mapM (·.take read)) := by
  induction args with
  | nil => rfl
  | cons a args ih =>
    rw [List.map_cons, List.mapM_cons, List.mapM_cons]
    refine mapResult_bind (take_map hread) fun x => ?_
    exact mapResult_bind ih fun xs => rfl

/-- So is what is built of any number of arguments. -/
theorem many_map {args : List (Argument α)} {q : δ → δ} {make : List γ → δ}
    (hmake : ∀ xs, make (xs.map p) = q (make xs)) :
    (do return make (← (args.map (map f g)).mapM (·.take read))) =
      mapResult f q (do return make (← args.mapM (·.take read))) :=
  mapResult_bind (mapM_take_map hread) fun xs => congrArg Except.ok (hmake xs)

end Argument

/-! ## Applying a name

Since each way to take arguments is natural, what a name makes of them is.
-/

namespace TypeName

open Argument Value

variable {note : α} {name : TypeName} {args : List (Argument α)}

/-- If there is one mapped argument, there was one. -/
theorem exists_of_map_eq_one {b : Argument β} (h : args.map (Argument.map f g) = [b]) :
    ∃ a, args = [a] := by
  obtain ⟨a, ha, -⟩ := List.map_eq_singleton_iff.1 h
  exact ⟨a, ha⟩

/-- If there are two mapped arguments, there were two. -/
theorem exists_of_map_eq_two {b c : Argument β} (h : args.map (Argument.map f g) = [b, c]) :
    ∃ a a', args = [a, a'] := by
  obtain ⟨a, rest, rfl, -, hrest⟩ := List.map_eq_cons_iff.1 h
  obtain ⟨a', rfl, -⟩ := List.map_eq_singleton_iff.1 hrest
  exact ⟨a, a', rfl⟩

/-- What a name builds of mapped arguments is what it builds of the arguments, mapped.  There is one
    case for each rule, and what a rule builds has a double in it only where the arguments had. -/
theorem build_map (hg : ∀ n, g (.ofInt n) = .ofInt n) :
    build (f note) name (args.map (Argument.map f g)) =
      mapResult f (DataType.mapBounds g) (build note name args) := by
  have hfloat (v : Value) := floatBound?_mapBounds (g := g) v hg
  have hid (ss : List String) : ss.map id = ss := List.map_id ss
  fun_cases build note name args with
  | case1 | case2 => exact one_map structural?_mapBounds fun _ => rfl
  | case3 => exact two_map structural?_mapBounds structural?_mapBounds fun _ _ => rfl
  | case4 => exact one_map string?_mapBounds fun _ => rfl
  | case5 => exact one_map resourceKind?_mapBounds fun _ => rfl
  | case6 => exact two_map resourceKind?_mapBounds title?_mapBounds fun _ _ => rfl
  | case7 => exact one_map pattern?_mapBounds fun _ => rfl
  | case8 => exact many_map string?_mapBounds fun ss => by rw [hid]; rfl
  | case9 => exact many_map pattern?_mapBounds fun ps => by rw [hid]; rfl
  | case10 =>
    refine many_map type?_mapBounds fun ts => ?_
    rw [DataType.mapBounds, DataType.mapBoundsAll_eq_map]
  | case11 => exact one_map integerBound?_mapBounds fun _ => rfl
  | case12 => exact two_map integerBound?_mapBounds integerBound?_mapBounds fun _ _ => rfl
  | case13 => exact one_map hfloat fun _ => rfl
  | case14 => exact two_map hfloat hfloat fun _ _ => rfl
  | case15 => exact one_map title?_mapBounds fun _ => rfl
  | case16 =>
    -- no rule is for the name with so many arguments, whatever they are
    have hbuild : build (f note) name (args.map (Argument.map f g)) =
        .error (.invalid (f note)) := by
      rw [build] <;> grind [→ exists_of_map_eq_one, → exists_of_map_eq_two]
    rw [hbuild]
    rfl

/-- How many arguments a name admits does not depend on what they are. -/
theorem apply_map (hg : ∀ n, g (.ofInt n) = .ofInt n) :
    apply (f note) name (args.map (Argument.map f g)) =
      mapResult f (DataType.mapBounds g) (apply note name args) := by
  simp only [apply, List.length_map]
  split
  · rfl
  · exact build_map hg

/-- A reference without arguments has neither a double nor anything but its own note. -/
theorem bare_map : bare (f note) name = mapResult f (DataType.mapBounds g) (bare note name) := by
  cases name with
  | former k => cases k <;> rfl
  | _ => rfl

end TypeName

/-! ## Evaluating a tree

By induction on the tree, with the depth left open.
-/

/-- A leaf denotes what it did, mapped. -/
theorem Leaf.denote_map {l : Leaf} {note : α} :
    (l.mapBounds g).denote (f note) = mapResult f (Value.mapBounds g) (l.denote note) := by
  cases l with
  | reference r =>
    have hbare : TypeName.bare (f note) (.ofLower r) =
        mapResult f (DataType.mapBounds g) (TypeName.bare note (.ofLower r)) := TypeName.bare_map
    simp only [mapBounds, denote, hbare]
    cases TypeName.bare note (.ofLower r) <;> rfl
  | _ => rfl

namespace Node

mutual

/-- **Naturality**: what a tree denotes with its notes and doubles mapped is what it denotes,
    mapped. -/
theorem denote_map (hg : ∀ n, g (.ofInt n) = .ofInt n) : ∀ (n : Node α) (depth : Nat),
    (n.map f g).denote depth = mapResult f (Value.mapBounds g) (n.denote depth)
  | leaf l a, depth => by
    rw [map, denote, denote, Leaf.denote_map]
  | array items a, depth => by
    rw [map, denote, denote]
    rfl
  | access target arguments a, depth => by
    rw [map, denote, denote, reference?_map, note_map]
    split
    · rfl
    · split
      · rfl
      · refine mapResult_bind (denoteAll_map hg arguments (depth + 1)) fun args => ?_
        exact mapResult_bind (TypeName.apply_map hg) fun t => rfl

/-- Arguments are evaluated one after another, from the left, so the first fault is the same one. -/
theorem denoteAll_map (hg : ∀ n, g (.ofInt n) = .ofInt n) : ∀ (ns : List (Node α)) (depth : Nat),
    denoteAll depth (mapAll f g ns) = mapResult f (List.map (Argument.map f g)) (denoteAll depth ns)
  | [], depth => rfl
  | n :: ns, depth => by
    rw [mapAll, denoteAll, denoteAll, note_map]
    refine mapResult_bind (denote_map hg n depth) fun v => ?_
    exact mapResult_bind (denoteAll_map hg ns depth) fun rest => rfl

end

end Node

end TypeExpr
