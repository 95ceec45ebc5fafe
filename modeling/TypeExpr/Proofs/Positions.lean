import TypeExpr.Proofs.Spelling

/-!
# Where evaluation fails, whatever the spans are

The span of a failure says where in a text something is wrong, but spans can be anything: two nodes
of a tree can have the same one, and in a tree that was not read from the text they need not have
anything to do with it.  What is always different is the position of a node: the way down to it from
the root (`Node.at?`).

A tree can be evaluated with positions for notes (`Node.located`), and then a fault tells the
position that is blamed (`Node.FailsAt`).  Since evaluation hands notes on and looks into none of
them, the fault of the tree itself has the note that stands there (`Node.denote_eq_of_located`).
Nothing of the spans that a tree had is left when it has positions for notes.  So trees that differ
in spans alone fail at one position for one cause, or denote one type (`Node.interpret_agrees`).

Doubles are mapped along with the notes, because the trees that are compared may differ in signs of
zeros as well.  Then they denote types that are the same and need not be equal, while the failures
stay as they are.

Positions are not made for the proofs alone.  They are what two failures of different texts can be
compared by, and `Agree` uses them for that.
-/

namespace TypeExpr.Node

variable {α β γ δ : Type}

/-! ## Positions

A position is a way down, written as a list of turns, so it can be compared between trees whose
nodes have different notes.
-/

/-- A step down from a node. -/
inductive Turn where
  | target
  | argument (index : Nat)
  | item (index : Nat)
  deriving DecidableEq

/-- The steps that lead down to a node. -/
abbrev Position := List Turn

/-- The node that a step comes to, if there is one. -/
def child? : Node α → Turn → Option (Node α)
  | access t _ _, .target => some t
  | access _ ns _, .argument i => ns[i]?
  | array ns _, .item i => ns[i]?
  | _, _ => none

/-- The node at a position, if there is one. -/
def at? : Node α → Position → Option (Node α)
  | n, [] => some n
  | n, turn :: p => (n.child? turn).bind (·.at? p)

mutual

/-- The node with notes made of positions. -/
def label (f : Position → β) : Node α → Node β
  | leaf l _ => leaf l (f [])
  | array items _ => array (labelAll (fun i p => f (.item i :: p)) items) (f [])
  | access target arguments _ => access (target.label fun p => f (.target :: p))
      (labelAll (fun i p => f (.argument i :: p)) arguments) (f [])

/-- The nodes with notes made of their numbers and of positions. -/
def labelAll (f : Nat → Position → β) : List (Node α) → List (Node β)
  | [] => []
  | n :: ns => n.label (f 0) :: labelAll (fun i => f (i + 1)) ns

end

/-- The node with the position of each node for its note. -/
def located (n : Node α) : Node Position := n.label id

/-- The node at the position is blamed when the tree is evaluated. -/
def FailsAt (root : Node α) (p : Position) (cause : Failure.Cause) : Prop :=
  root.located.denote 0 = .error ⟨cause, p⟩

/-! ## Labels instead of notes

A tree can be given a note for each node that is computed from the position of the node.  The notes
that were there before are lost.
-/

/-- No node is lost. -/
theorem length_labelAll (f : Nat → Position → β) (ns : List (Node α)) :
    (labelAll f ns).length = ns.length := by
  induction ns generalizing f with
  | nil => rfl
  | cons n ns ih => rw [labelAll, List.length_cons, List.length_cons, ih]

theorem note_label (f : Position → β) (n : Node α) : (n.label f).note = f [] := by
  cases n <;> rw [label] <;> rfl

mutual

/-- Neither the notes that a tree had matter for its labels, nor do its doubles. -/
theorem map_label (f : Position → β) (g : β → γ) (h : Double → Double) (k : α → δ) :
    ∀ n : Node α, (n.label f).map g h = (n.map k h).label fun p => g (f p)
  | leaf l a => by rw [label, map, map, label]
  | array items a => by rw [label, map, map, label, mapAll_labelAll _ g h k items]
  | access target arguments a => by
    rw [label, map, map, label, map_label _ g h k target, mapAll_labelAll _ g h k arguments]

/-- The same of the nodes of a list, each with its number. -/
theorem mapAll_labelAll (f : Nat → Position → β) (g : β → γ) (h : Double → Double) (k : α → δ) :
    ∀ ns : List (Node α),
      mapAll g h (labelAll f ns) = labelAll (fun i p => g (f i p)) (mapAll k h ns)
  | [] => rfl
  | n :: ns => by
    rw [labelAll, mapAll, mapAll, labelAll, map_label _ g h k n, mapAll_labelAll _ g h k ns]

end

mutual

/-- A tree whose labels are its notes is the tree itself. -/
theorem label_eq_self : ∀ (n : Node α) (f : Position → α),
    (∀ p m, n.at? p = some m → f p = m.note) → n.label f = n
  | leaf l a, f, h => by rw [label, h [] _ rfl, note]
  | array items a, f, h => by
    have hitems := labelAll_eq_self items (fun i p => f (.item i :: p)) fun i n p m hn hm =>
      h (.item i :: p) m (by simp [at?, child?, hn, hm])
    rw [label, h [] _ rfl, note, hitems]
  | access target arguments a, f, h => by
    have htarget := label_eq_self target (fun p => f (.target :: p)) fun p m hm =>
      h (.target :: p) m (by simp [at?, child?, hm])
    have harguments := labelAll_eq_self arguments (fun i p => f (.argument i :: p))
      fun i n p m hn hm => h (.argument i :: p) m (by simp [at?, child?, hn, hm])
    rw [label, h [] _ rfl, note, htarget, harguments]

/-- The same of the nodes of a list: each has its number in the notes that it is given. -/
theorem labelAll_eq_self : ∀ (ns : List (Node α)) (f : Nat → Position → α),
    (∀ i n p m, ns[i]? = some n → n.at? p = some m → f i p = m.note) → labelAll f ns = ns
  | [], f, h => rfl
  | n :: ns, f, h => by
    rw [labelAll, label_eq_self n (f 0) fun p m hm => h 0 n p m rfl hm,
      labelAll_eq_self ns (fun i => f (i + 1)) fun i n' p m hn hm => h (i + 1) n' p m hn hm]

end

/-! ## Labels are positions

A child of a tree with labels is a child of the tree, with labels that begin with the turn to it.
So what holds of one step holds of the way to a node.
-/

/-- A node of a list with labels is one of the list, with labels made of its number. -/
theorem exists_of_mem_labelAll {f : Nat → Position → β} {ns : List (Node α)} {c : Node β}
    (h : c ∈ labelAll f ns) : ∃ (i : Nat) (n : Node α), ns[i]? = some n ∧ c = n.label (f i) := by
  induction ns generalizing f with
  | nil => cases h
  | cons n ns ih =>
    rcases List.mem_cons.1 h with rfl | h
    · exact ⟨0, n, rfl, rfl⟩
    · obtain ⟨i, m, hm, rfl⟩ := ih h
      exact ⟨i + 1, m, hm, rfl⟩

/-- **Step**: what stands in a tree with labels is what stood in the tree, with labels. -/
theorem exists_of_child_label {f : Position → β} {n : Node α} {e : Edge} {c : Node β}
    (h : Child (n.label f) e c) :
    ∃ turn m, n.child? turn = some m ∧ c = m.label fun p => f (turn :: p) := by
  -- One case for each kind of node; the turn is the child's place among the others.
  cases n with
  | leaf l a =>
    rw [label] at h
    cases h
  | array items a =>
    rw [label] at h
    cases h with
    | item hc =>
      obtain ⟨i, m, hm, rfl⟩ := exists_of_mem_labelAll hc
      exact ⟨.item i, m, hm, rfl⟩
  | access target arguments a =>
    rw [label] at h
    cases h with
    | target => exact ⟨.target, target, rfl, rfl⟩
    | argument hc =>
      obtain ⟨i, m, hm, rfl⟩ := exists_of_mem_labelAll hc
      exact ⟨.argument i, m, hm, rfl⟩

/-- **Way**: the label of a node that a way leads to is made of the position of a node. -/
theorem exists_of_way_label {n : Node α} {m : Node β} {steps : List (Step β)} {f : Position → β}
    (h : Way (n.label f) steps m) : ∃ p k, n.at? p = some k ∧ m.note = f p := by
  induction steps generalizing n f with
  | nil =>
    cases h
    exact ⟨[], n, rfl, note_label f n⟩
  | cons step steps ih =>
    cases h with
    | down hc h =>
      obtain ⟨turn, c, hchild, rfl⟩ := exists_of_child_label hc
      obtain ⟨p, k, hk, hnote⟩ := ih h
      exact ⟨turn :: p, k, by rw [at?, hchild, Option.bind_some, hk], hnote⟩

/-- What is blamed stands at a position in the tree. -/
theorem FailsAt.exists_at {root : Node α} {p : Position} {cause : Failure.Cause}
    (h : root.FailsAt p cause) : ∃ n, root.at? p = some n := by
  obtain ⟨steps, m, hway, hnote⟩ := exists_way_of_denote h
  obtain ⟨q, n, hn, hq⟩ := exists_of_way_label hway
  have hp : p = q := hnote.trans hq
  exact ⟨n, hp ▸ hn⟩

/-- **Root**: a fault about a name that carries the label of the root is raised there. -/
theorem raises_of_denote_located {n : Node α} {depth : Nat} {cause : Failure.Cause}
    (h : n.located.denote depth = .error ⟨cause, []⟩)
    (hcause : ∀ detail, cause ≠ .invalidSpecification detail) :
    n.located.Raises depth ⟨cause, []⟩ := by
  obtain ⟨k, m, henc, hraises⟩ := exists_raises_of_denote _ depth _ h
  obtain ⟨hnote, -⟩ := hraises.denote_zero hcause
  generalize hr : n.located = r at henc
  cases henc with
  | self => exact hraises
  | argument hc hm =>
    -- what stands in an argument has a label that begins with a turn
    obtain ⟨turn, c, -, rfl⟩ := exists_of_child_label (hr ▸ Child.argument hc)
    obtain ⟨steps, hway⟩ := hm.exists_way
    obtain ⟨p, -, -, hp⟩ := exists_of_way_label hway
    cases hnote.trans hp

/-! ## Evaluation with labels

Evaluation is natural in the notes, so the fault of any tree can be found by evaluating it with
positions and looking up the note.
-/

/-- The note at a position. -/
def noteAt (root : Node α) (p : Position) : α := ((root.at? p).getD root).note

theorem noteAt_eq {root n : Node α} {p : Position} (h : root.at? p = some n) :
    root.noteAt p = n.note := by
  rw [noteAt, h, Option.getD_some]

/-- A tree comes to what it comes to with positions, except that the fault has the note that stands
    at the position. -/
theorem denote_eq_of_located (root : Node α) :
    root.denote 0 = mapResult root.noteAt (Value.mapBounds id) (root.located.denote 0) := by
  have hnotes : root.located.map root.noteAt id = root := by
    rw [located, map_label id root.noteAt id id root, map_id]
    exact label_eq_self root root.noteAt fun p m hm => noteAt_eq hm
  rw [← denote_map fun _ => id_eq _, hnotes]

/-! ## Trees that differ in spans

Two trees of one shape are one tree when their labels are positions.  They are evaluated to one
result, and differ only in the note that is looked up.
-/

mutual

/-- To take the notes away is to map them to nothing. -/
theorem shape_eq_map : ∀ n : Node α, n.shape = n.map (fun _ => ()) id
  | leaf l a => by rw [shape, map, Leaf.mapBounds_id]
  | array items a => by rw [shape, map, shapes_eq_mapAll items]
  | access target arguments a => by
    rw [shape, map, shape_eq_map target, shapes_eq_mapAll arguments]

theorem shapes_eq_mapAll : ∀ ns : List (Node α), shapes ns = mapAll (fun _ => ()) id ns
  | [] => rfl
  | n :: ns => by rw [shapes, mapAll, shape_eq_map n, shapes_eq_mapAll ns]

end

theorem label_shape (f : Position → β) (n : Node α) : n.shape.label f = n.label f := by
  have hmap := map_label f id id (fun _ => ()) n
  rw [map_id, ← shape_eq_map] at hmap
  exact hmap.symm

/-- The labels of a gist are those of the tree, with normal bounds. -/
theorem label_gist (f : Position → β) (n : Node Span) :
    n.gist.label f = (n.label f).map id Double.normal :=
  (map_label f id Double.normal (fun _ => ()) n).symm

/-- Two trees, each against a text, come to one type, or they fail for one cause and at one
    position. -/
inductive Agree (root root' : Node Span) (text text' : String) : Prop where
  /-- Types that are the same, and equal unless the bounds of ranges differ in the signs of
      zeros. -/
  | types (t t' : DataType) : root.interpret text = .ok t → root'.interpret text' = .ok t' →
      (t == t') = true → (root.shape = root'.shape → t = t') → Agree root root' text text'
  /-- The fault of one position. -/
  | faults (cause : Failure.Cause) (p : Position) (n n' : Node Span) : root.FailsAt p cause →
      root'.FailsAt p cause → root.at? p = some n → root'.at? p = some n' →
      root.interpret text = .error (.ofSpan text cause n.note) →
      root'.interpret text' = .error (.ofSpan text' cause n'.note) → Agree root root' text text'
  /-- The failure of the whole input, since the tree denotes something that is no type. -/
  | noType (v v' : Value) : root.denote 0 = .ok v → v.type? = none →
      root'.denote 0 = .ok v' → v'.type? = none →
      root.interpret text = .error (.ofWhole text none) →
      root'.interpret text' = .error (.ofWhole text' none) → Agree root root' text text'

/-- A fault of a position is quoted with the span that stands there. -/
theorem FailsAt.interpret_eq {root n : Node Span} {p : Position} {cause : Failure.Cause}
    (h : root.FailsAt p cause) (hn : root.at? p = some n) (text : String) :
    root.interpret text = .error (.ofSpan text cause n.note) := by
  have hden : root.denote 0 = .error ⟨cause, n.note⟩ := by
    rw [denote_eq_of_located, h, ← noteAt_eq hn]
    rfl
  exact interpret_of_error hden text

/-- A value that a tree with positions has is that of the tree. -/
theorem denote_of_located_eq_ok {root : Node α} {v : Value}
    (h : root.located.denote 0 = .ok v) : root.denote 0 = .ok v := by
  rw [denote_eq_of_located, h, mapResult, Value.mapBounds_id]

/-- Two trees that fail in the same way with positions fail at one position. -/
theorem agree_of_error {root root' : Node Span} {e : Fault Position}
    (h : root.located.denote 0 = .error e) (h' : root'.located.denote 0 = .error e)
    (text text' : String) : Agree root root' text text' := by
  have hfails : root.FailsAt e.note e.cause := h
  have hfails' : root'.FailsAt e.note e.cause := h'
  obtain ⟨n, hn⟩ := hfails.exists_at
  obtain ⟨n', hn'⟩ := hfails'.exists_at
  exact .faults e.cause e.note n n' hfails hfails' hn hn' (hfails.interpret_eq hn text)
    (hfails'.interpret_eq hn' text')

/-- Two trees that denote values of one normal form come to one type, or neither to any. -/
theorem agree_of_ok {root root' : Node Span} {v v' : Value} (h : root.denote 0 = .ok v)
    (h' : root'.denote 0 = .ok v') (hv : v.mapBounds Double.normal = v'.mapBounds Double.normal)
    (hshape : root.shape = root'.shape → v = v') (text text' : String) :
    Agree root root' text text' := by
  rcases Value.cases_of_normal_eq hv with ⟨t, t', rfl, rfl, hsame⟩ | ⟨hnone, hnone'⟩
  · exact .types t t' (interpret_eq_ok_of_denote_iff.2 h) (interpret_eq_ok_of_denote_iff.2 h') hsame
      fun hs => Value.type.inj (hshape hs)
  · exact .noType v v' h hnone h' hnone' (interpret_of_no_type h hnone text)
      (interpret_of_no_type h' hnone' text')

/-- Trees that differ in their spans alone have one gist. -/
theorem gist_eq_of_shape {n n' : Node Span} (h : n.shape = n'.shape) : n.gist = n'.gist := by
  have hself (m : Node Unit) : m.label (fun _ => ()) = m := label_eq_self m _ fun _ _ _ => rfl
  rw [← hself n.gist, label_gist, ← label_shape, h, label_shape, ← label_gist, hself]

/-- **Spans and texts do not matter**: two trees that differ in their spans alone, and perhaps in
    the signs of zeros, come to one type or fail at one position for one cause, whatever the spans
    and the texts are. -/
theorem interpret_agrees (root root' : Node Span) (h : root.gist = root'.gist)
    (text text' : String) : Agree root root' text text' := by
  have hden : mapResult id (Value.mapBounds Double.normal) (root.located.denote 0) =
      mapResult id (Value.mapBounds Double.normal) (root'.located.denote 0) := by
    rw [← denote_map Double.normal_ofInt, ← denote_map Double.normal_ofInt, located, located,
      ← label_gist, ← label_gist, h]
  rcases cases_of_mapResult_eq hden with ⟨e, e', he, he', hmap⟩ | ⟨v, v', hv, hv', hnormal⟩
  · -- a fault whose note is mapped to itself is the same fault
    have hfault : e = e' := hmap
    subst hfault
    exact agree_of_error he he' text text'
  · have hroot := denote_of_located_eq_ok hv
    have hroot' := denote_of_located_eq_ok hv'
    refine agree_of_ok hroot hroot' hnormal (fun hs => ?_) text text'
    have hlabels : root.located.denote 0 = root'.located.denote 0 := by
      rw [located, located, ← label_shape, hs, label_shape]
    rw [hv, hv'] at hlabels
    exact Except.ok.inj hlabels

/-- `Array[Boolean[1]]`, once with spans beyond the text, backwards and inside a character, and
    once with those that it was read with. -/
theorem interpret_agrees_of_odd_spans :
    let odd : Node Span := .access (.leaf (.reference "array") ⟨90, 3⟩)
      [.access (.leaf (.reference "boolean") ⟨1, 1⟩) [.leaf (.integer 1) ⟨0, 0⟩] ⟨1, 2⟩] ⟨7, 1000⟩
    let even : Node Span := .access (.leaf (.reference "array") ⟨0, 5⟩)
      [.access (.leaf (.reference "boolean") ⟨6, 13⟩) [.leaf (.integer 1) ⟨14, 15⟩] ⟨6, 16⟩] ⟨0, 17⟩
    odd.gist = even.gist ∧ Agree odd even "é" "Array[Boolean[1]]" := by
  intro odd even
  have h : odd.gist = even.gist := gist_eq_of_shape (by simp [odd, even])
  exact ⟨h, interpret_agrees odd even h _ _⟩

end TypeExpr.Node
