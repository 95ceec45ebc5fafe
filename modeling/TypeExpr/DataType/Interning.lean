import Std.Data.HashMap
import TypeExpr.DataType.Basic

/-!
# Equality and interning

Two types are the same if they are built the same way from the same parts, where bounds are compared
as `Double.sameBound` does: the two zeros are one bound, and an undefined bound is like itself.  To
intern a list of types is to number them so that the same types, and only these, have one number,
counting from zero in the order of first appearance.
-/

namespace TypeExpr.DataType

/-- Two optional bounds are the same: both are open, or neither is and they are one bound. -/
def sameBounds : Option Double → Option Double → Bool
  | none, none => true
  | some x, some y => x.sameBound y
  | _, _ => false

mutual

/-- The two types are the same. -/
def same : DataType → DataType → Bool
  | plain p, plain q => p == q
  | integer a b, integer c d => a == c && b == d
  | float a b, float c d => sameBounds a c && sameBounds b d
  | pattern ps, pattern qs => ps == qs
  | regexp p, regexp q => p == q
  | array s, array t => s.same t
  | hash k v, hash l w => k.same l && v.same w
  | classes m, classes n => m == n
  | resource r, resource s => r == s
  | enum vs, enum ws => vs == ws
  | variant ss, variant ts => sameAll ss ts
  | _, _ => false

/-- The types of two lists are the same, one by one. -/
def sameAll : List DataType → List DataType → Bool
  | [], [] => true
  | s :: ss, t :: ts => s.same t && sameAll ss ts
  | _, _ => false

end

mutual

/-- A hash code that is the same for the same types. -/
def hashCode : DataType → UInt64
  | plain p => mixHash 1 (Hashable.hash p)
  | integer a b => mixHash 2 (Hashable.hash (a, b))
  | float a b => mixHash 3 (Hashable.hash (a.map Double.normal, b.map Double.normal))
  | pattern ps => mixHash 4 (Hashable.hash ps)
  | regexp p => mixHash 5 (Hashable.hash p)
  | array s => mixHash 6 s.hashCode
  | hash k v => mixHash 7 (mixHash k.hashCode v.hashCode)
  | classes n => mixHash 8 (Hashable.hash n)
  | resource r => mixHash 9 (Hashable.hash r)
  | enum vs => mixHash 10 (Hashable.hash vs)
  | variant ts => mixHash 11 (hashCodes ts)

/-- A hash code of a list of types. -/
def hashCodes : List DataType → UInt64
  | [] => 12
  | t :: ts => mixHash t.hashCode (hashCodes ts)

end

instance : BEq DataType := ⟨same⟩

instance : Hashable DataType := ⟨hashCode⟩

/-- The numbers that types have been given so far. -/
abbrev Numbering := Std.HashMap DataType Nat

/-- The number of a type, which is the next free one if it has none yet. -/
def Numbering.number (n : Numbering) (t : DataType) : Nat × Numbering :=
  match n[t]? with
  | some k => (k, n)
  | none => (n.size, n.insert t n.size)

/-- Numbers the types of a list one after the other. -/
def Numbering.numberAll (n : Numbering) : List DataType → List Nat × Numbering
  | [] => ([], n)
  | t :: ts =>
    let (k, n') := n.number t
    (n'.numberAll ts).map (k :: ·) id

/-- The numbers of the types of a list, and how many of them differ. -/
def intern (ts : List DataType) : List Nat × Nat :=
  (Numbering.numberAll ∅ ts).map id Std.HashMap.size

end TypeExpr.DataType
