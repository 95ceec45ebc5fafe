/-!
# Byte offsets

Positions in a text are counted in the bytes of its UTF-8 form, while texts are read as lists of
characters.  `byteLength` is the measure that joins the two, and `splitBytes` cuts a text at an
offset that ends a character: the cut exists exactly if some prefix has that length
(`splitBytes_eq_some_iff`), and then it is that prefix.
-/

namespace TypeExpr.Text

/-- The number of bytes of a text in UTF-8. -/
def byteLength : List Char → Nat
  | [] => 0
  | c :: cs => c.utf8Size + byteLength cs

/-- The text before and after `n` bytes, if a character ends there. -/
def splitBytes : Nat → List Char → Option (List Char × List Char)
  | 0, cs => some ([], cs)
  | _ + 1, [] => none
  | n + 1, c :: cs =>
    if c.utf8Size ≤ n + 1 then
      (splitBytes (n + 1 - c.utf8Size) cs).map fun p => (c :: p.1, p.2)
    else none

/-! ## What they say of each other -/

@[simp] theorem byteLength_nil : byteLength [] = 0 := rfl

@[simp] theorem byteLength_cons (c : Char) (cs : List Char) :
    byteLength (c :: cs) = c.utf8Size + byteLength cs := rfl

/-- Joined texts have the bytes of both. -/
@[simp] theorem byteLength_append (a b : List Char) :
    byteLength (a ++ b) = byteLength a + byteLength b := by
  induction a with
  | nil => simp
  | cons c a ih => simp [ih, Nat.add_assoc]

/-- A row of equal characters has so many times the bytes of one. -/
theorem byteLength_replicate (n : Nat) (c : Char) :
    byteLength (List.replicate n c) = n * c.utf8Size := by
  induction n with
  | zero => simp
  | succ n ih => rw [List.replicate_succ, byteLength_cons, ih, Nat.succ_mul, Nat.add_comm]

/-- A character takes a byte at least, so no text is shorter in bytes than in characters. -/
theorem length_le_byteLength (cs : List Char) : cs.length ≤ byteLength cs := by
  induction cs with
  | nil => simp
  | cons c cs ih =>
    have := c.utf8Size_pos
    simp only [List.length_cons, byteLength_cons]
    omega

/-- Only the empty text has no bytes, since every character has one at least. -/
theorem byteLength_eq_zero {cs : List Char} (h : byteLength cs = 0) : cs = [] := by
  have := length_le_byteLength cs
  exact List.eq_nil_of_length_eq_zero (by omega)

/-- Cutting after a prefix gives that prefix back. -/
theorem splitBytes_append (a b : List Char) : splitBytes (byteLength a) (a ++ b) = some (a, b) := by
  induction a with
  | nil => cases b <;> rfl
  | cons c a ih =>
    have hc := c.utf8Size_pos
    obtain ⟨k, hk⟩ : ∃ k, c.utf8Size + byteLength a = k + 1 :=
      ⟨c.utf8Size + byteLength a - 1, by omega⟩
    have hle : c.utf8Size ≤ k + 1 := by omega
    have hsub : k + 1 - c.utf8Size = byteLength a := by omega
    simp [byteLength_cons, hk, splitBytes, hle, hsub, ih]

/-- The two sides of a cut make up the text, and the first has the bytes asked for. -/
theorem eq_append_of_splitBytes {n : Nat} {cs a b : List Char} (h : splitBytes n cs = some (a, b)) :
    cs = a ++ b ∧ byteLength a = n := by
  induction cs generalizing n a b with
  | nil =>
    cases n with
    | zero => simp only [splitBytes, Option.some.injEq, Prod.mk.injEq] at h; simp [← h.1, ← h.2]
    | succ n => simp [splitBytes] at h
  | cons c cs ih =>
    cases n with
    | zero => simp only [splitBytes, Option.some.injEq, Prod.mk.injEq] at h; simp [← h.1, ← h.2]
    | succ n =>
      simp only [splitBytes] at h
      split at h
      · rename_i hle
        obtain ⟨⟨a', b'⟩, hs, he⟩ := Option.map_eq_some_iff.1 h
        obtain ⟨h1, h2⟩ := ih hs
        simp only [Prod.mk.injEq] at he
        rw [← he.1, ← he.2, h1]
        exact ⟨rfl, by simp only [byteLength_cons, h2]; omega⟩
      · simp at h

/-- A text can be cut at an offset exactly if a prefix ends there, and the cut is that prefix. -/
theorem splitBytes_eq_some_iff {n : Nat} {cs a b : List Char} :
    splitBytes n cs = some (a, b) ↔ cs = a ++ b ∧ byteLength a = n :=
  ⟨eq_append_of_splitBytes, fun h => by rw [h.1, ← h.2]; exact splitBytes_append a b⟩

example : splitBytes 2 "éa".toList = some (['é'], ['a']) := by decide
example : splitBytes 1 "éa".toList = none := by decide

end TypeExpr.Text
