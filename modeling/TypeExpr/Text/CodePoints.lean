/-!
# Sets of characters given by ranges

A property of characters is a table of ranges of code points.  The tables themselves stand in the
modules named for the properties; here is only what it means to be in one.
-/

namespace TypeExpr.Text

/-- A set of characters, written as ranges of code points with both ends included. -/
abbrev Ranges := List (Nat × Nat)

/-- The set holds the character. -/
def Ranges.has (s : Ranges) (c : Char) : Bool :=
  s.any fun r => r.1 ≤ c.toNat && c.toNat ≤ r.2

theorem Ranges.has_iff {s : Ranges} {c : Char} :
    s.has c = true ↔ ∃ r ∈ s, r.1 ≤ c.toNat ∧ c.toNat ≤ r.2 := by
  simp [Ranges.has]

end TypeExpr.Text
