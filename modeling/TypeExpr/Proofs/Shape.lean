import TypeExpr.Node.Basic

/-!
# The shape of an expression

Two expressions that differ in their notes alone have one shape.  The shape is the expression with
every note taken away, and it is what a grammar or a rule of meaning speaks of: neither knows where
in a text a node was written.
-/

namespace TypeExpr.Node

variable {α : Type}

mutual

/-- An expression without its notes. -/
def shape : Node α → Node Unit
  | leaf v _ => leaf v ()
  | array items _ => array (shapes items) ()
  | access target arguments _ => access target.shape (shapes arguments) ()

/-- Expressions without their notes. -/
def shapes : List (Node α) → List (Node Unit)
  | [] => []
  | n :: ns => n.shape :: shapes ns

end

theorem shapes_eq_map (ns : List (Node α)) : shapes ns = ns.map shape := by
  induction ns with
  | nil => rfl
  | cons n ns ih => simp [shapes, ih]

@[simp] theorem shape_leaf (v : Leaf) (a : α) : (leaf v a).shape = leaf v () := by
  simp [shape]

@[simp] theorem shape_array (ns : List (Node α)) (a : α) :
    (array ns a).shape = array (ns.map shape) () := by
  simp [shape, shapes_eq_map]

/-- The shape of an access has that of its target and those of its arguments. -/
@[simp] theorem shape_access (t : Node α) (ns : List (Node α)) (a : α) :
    (access t ns a).shape = access t.shape (ns.map shape) () := by
  simp [shape, shapes_eq_map]

end TypeExpr.Node
