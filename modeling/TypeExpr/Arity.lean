/-!
# Arities

How many parameters a name takes.
-/

namespace TypeExpr

/-- A number of parameters that a name takes. -/
inductive Arity where
  | exactly (n : Nat)
  | between (least most : Nat)
  | atLeast (n : Nat)
  deriving DecidableEq

namespace Arity

/-- The arity allows a number of parameters. -/
def admits : Arity → Nat → Bool
  | exactly k, n => n == k
  | between least most, n => least ≤ n && n ≤ most
  | atLeast k, n => k ≤ n

/-- The arity in words. -/
def describe : Arity → String
  | exactly k => toString k
  | between least most => toString least ++ " or " ++ toString most
  | atLeast k => toString k ++ " or more"

end Arity

end TypeExpr
