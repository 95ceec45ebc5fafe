/-!
# Spans

Ranges of byte offsets into a text.  A span says where in the text a thing was written; nothing is
ever decided by it.
-/

namespace TypeExpr

/-- The bytes from offset `start` up to, and without, offset `stop`. -/
structure Span where
  start : Nat
  stop : Nat
  deriving DecidableEq

namespace Span

/-- The empty span at an offset. -/
def point (offset : Nat) : Span := ⟨offset, offset⟩

/-- The smallest span that covers both. -/
def merge (a b : Span) : Span := ⟨min a.start b.start, max a.stop b.stop⟩

/-- The span covers nothing. -/
def isEmpty (s : Span) : Bool := s.stop ≤ s.start

/-- The span of the same thing when `n` bytes are put before its text. -/
def shift (n : Nat) (s : Span) : Span := ⟨n + s.start, n + s.stop⟩

/-- The order in which two spans are joined makes no difference. -/
theorem merge_comm (a b : Span) : a.merge b = b.merge a := by
  simp [merge, Nat.min_comm, Nat.max_comm]

/-- A span joined with itself stays as it is. -/
theorem merge_self (a : Span) : a.merge a = a := by
  simp [merge]

end Span

end TypeExpr
