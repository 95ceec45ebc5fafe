/-!
# Words

A word is one or more segments with `::` between them, and perhaps `::` before the first.  The two
kinds of words differ in the characters their segments are made of.  `WordKind.split?` takes the
longest word off the front of a text.
-/

namespace TypeExpr

/-- The characters that words of a kind are made of. -/
structure WordKind where
  /-- May the character begin a segment? -/
  starts : Char → Bool
  /-- May the character stand in a segment? -/
  inside : Char → Bool

/-- A lower-case letter of ASCII. -/
def isLowerLetter (c : Char) : Bool := 'a' ≤ c && c ≤ 'z'

/-- A capital of ASCII. -/
def isCapital (c : Char) : Bool := 'A' ≤ c && c ≤ 'Z'

/-- A digit of ASCII or an underscore. -/
def isDigitOrLine (c : Char) : Bool := ('0' ≤ c && c ≤ '9') || c == '_'

namespace WordKind

/-- Names: segments of lower-case letters, digits and underscores that do not begin with a digit. -/
def name : WordKind where
  starts c := isLowerLetter c || c == '_'
  inside c := isLowerLetter c || isDigitOrLine c

/-- References: segments of letters, digits and underscores that begin with a capital. -/
def reference : WordKind where
  starts := isCapital
  inside c := isCapital c || isLowerLetter c || isDigitOrLine c

/-- What follows the first character of a word, and the rest of the text. -/
def splitRest (k : WordKind) : List Char → List Char × List Char
  | [] => ([], [])
  | [c] => if k.inside c then ([c], []) else ([], [c])
  | c :: d :: cs =>
    if k.inside c then (k.splitRest (d :: cs)).map (c :: ·) id
    else if c = ':' ∧ d = ':' ∧ cs.head?.any k.starts then
      (k.splitRest cs).map (fun w => c :: d :: w) id
    else ([], c :: d :: cs)

/-- The longest word at the front of a text, and the rest of the text. -/
def split? (k : WordKind) : List Char → Option (List Char × List Char)
  | ':' :: ':' :: c :: cs =>
    if k.starts c then some ((k.splitRest cs).map (fun w => ':' :: ':' :: c :: w) id) else none
  | c :: cs =>
    if k.starts c then some ((k.splitRest cs).map (c :: ·) id) else none
  | [] => none

/-! ## A word and what follows it make up the text -/

/-- What is taken for the rest of a word and what is left make up the text. -/
theorem splitRest_append (k : WordKind) (cs : List Char) :
    (k.splitRest cs).1 ++ (k.splitRest cs).2 = cs := by
  fun_induction splitRest k cs <;> simp_all

/-- A word and what follows it make up the text, and no word is empty: it has a first character even
    where it begins with `::`. -/
theorem split?_append {k : WordKind} {cs w rest : List Char} (h : k.split? cs = some (w, rest)) :
    w ++ rest = cs ∧ w ≠ [] := by
  unfold split? at h
  split at h
  · split at h
    · simp only [Option.some.injEq, Prod.map, Prod.mk.injEq, id] at h
      rw [← h.1, ← h.2]
      exact ⟨by simp [splitRest_append], by simp⟩
    · simp at h
  · split at h
    · simp only [Option.some.injEq, Prod.map, Prod.mk.injEq, id] at h
      rw [← h.1, ← h.2]
      exact ⟨by simp [splitRest_append], by simp⟩
    · simp at h
  · simp at h

example : name.split? "a::b9:c".toList = some ("a::b9".toList, ":c".toList) := by decide
example : reference.split? "::Foo::bar".toList = some ("::Foo".toList, "::bar".toList) := by decide
example : name.split? "::::a".toList = none := by decide

end WordKind

end TypeExpr
