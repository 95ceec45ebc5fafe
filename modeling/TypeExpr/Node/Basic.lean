import TypeExpr.Double
import TypeExpr.Span

/-!
# Expressions

The tree that a specification is read as: words and literals at the leaves, array literals, and
accesses, which apply a target to arguments in brackets.  Every node carries a note.  A tree that
was read from a text has the span of each node there; nothing that a tree means depends on its
notes, so they can be anything.
-/

namespace TypeExpr

/-- A word or a literal. -/
inductive Leaf where
  | name (value : String)
  /-- A reference, in lower case. -/
  | reference (value : String)
  | string (value : String)
  | integer (value : Int64)
  | float (value : Double)
  | regex (pattern : String)
  /-- The word `default`. -/
  | unbounded
  | boolean (value : Bool)
  /-- The word `undef`. -/
  | undefined
  deriving DecidableEq

/-- What a leaf is called. -/
def Leaf.kindName : Leaf → String
  | name _ => "qualified name"
  | reference _ => "qualified reference"
  | string _ => "string"
  | integer _ => "integer"
  | float _ => "float"
  | regex _ => "regex"
  | unbounded => "default"
  | boolean _ => "boolean"
  | undefined => "undef"

/-- An expression whose nodes carry notes of type `α`. -/
inductive Node (α : Type) where
  | leaf (value : Leaf) (note : α)
  | array (items : List (Node α)) (note : α)
  | access (target : Node α) (arguments : List (Node α)) (note : α)

namespace Node

variable {α : Type}

/-- The note of a node. -/
def note : Node α → α
  | leaf _ a => a
  | array _ a => a
  | access _ _ a => a

/-- What a node is called. -/
def kindName : Node α → String
  | leaf v _ => v.kindName
  | array _ _ => "array literal"
  | access _ _ _ => "access expression"

/-- The name of a reference. -/
def reference? : Node α → Option String
  | leaf (.reference name) _ => some name
  | _ => none

end Node

end TypeExpr
