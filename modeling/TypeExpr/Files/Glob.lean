import TypeExpr.Files.Basic

/-!
# Patterns for paths

A pattern names many paths.  In a name `?` stands for any character, `*` for any characters, and
`[a-c]` or `[!a-c]` for one character in, or not in, a set; a name `**` stands for any number of
directories.  Everything else stands for itself, a leading dot included, and braces too.

A set has at least one member, and so a bracket that follows the opening one is a member.  Of two
faults the first one counts, and it is looked for in the whole pattern before it is looked for in
each name: only the former sees a set that a slash divides.

A pattern is read into segments once, and matched against names afterwards.  How a segment is
matched is said by a table from the right to the left (`fits`), which takes one step for each part
and each character; the equations below it are those of a matcher that would try all possibilities
(`isMatch_anyChars_cons`, `isMatch_cons`).
-/

namespace TypeExpr.Files

/-- What is wrong with a pattern. -/
inductive PatternFault where
  | wildcards
  | recursiveWildcards
  | range
  deriving DecidableEq

/-- A fault, and the number of characters before it. -/
structure PatternError where
  position : Nat
  fault : PatternFault
  deriving DecidableEq

/-- The fault in words. -/
def PatternFault.message : PatternFault → String
  | wildcards => "wildcards are either regular `*` or recursive `**`"
  | recursiveWildcards => "recursive wildcards must form a single path component"
  | range => "invalid range pattern"

/-- The fault in words, with its position. -/
def PatternError.message (e : PatternError) : String :=
  "Pattern syntax error near position " ++ toString e.position ++ ": " ++ e.fault.message

/-- What a part of a pattern stands for. -/
inductive Wild where
  /-- The character itself. -/
  | exactly (c : Char)
  | anyChar
  | anyChars
  /-- A character between the ends of one of the ranges. -/
  | within (ranges : List (Char × Char))
  /-- A character between the ends of none of the ranges. -/
  | outside (ranges : List (Char × Char))
  | anyDirectories
  deriving DecidableEq

/-! ## Reading -/

/-- The ranges in a set, where a single character is a range with equal ends. -/
def rangesOf : List Char → List (Char × Char)
  | a :: '-' :: b :: cs => (a, b) :: rangesOf cs
  | a :: cs => (a, a) :: rangesOf cs
  | [] => []

/-- The members of the set whose opening bracket has been read, and what follows it. -/
def splitSet : List Char → Option (List Char × List Char)
  | [] => none
  | c :: cs => match cs.dropWhile (· ≠ ']') with
    | [] => none
    | _ :: rest => some (c :: cs.takeWhile (· ≠ ']'), rest)

/-- The set whose opening bracket has been read, and what follows it. -/
def readSet : List Char → Option (Wild × List Char)
  | '!' :: cs => (splitSet cs).map fun (members, rest) => (.outside (rangesOf members), rest)
  | cs => (splitSet cs).map fun (members, rest) => (.within (rangesOf members), rest)

/-- What follows a set is shorter than what follows its opening bracket, so that the reader of a
    pattern ends. -/
theorem length_of_splitSet {cs members rest : List Char} (h : splitSet cs = some (members, rest)) :
    rest.length < cs.length := by
  cases cs with
  | nil => simp [splitSet] at h
  | cons c cs =>
    simp only [splitSet] at h
    split at h
    · simp at h
    · rename_i x r hr
      simp only [Option.some.injEq, Prod.mk.injEq] at h
      have hl := (List.dropWhile_sublist (· ≠ ']') (l := cs)).length_le
      -- The bracket that ends the set was read too, and so what is left is shorter than the text
      -- from it on.
      rw [hr, List.length_cons] at hl
      rw [← h.2, List.length_cons]
      omega

/-- The same when the set may be one of the characters left out. -/
theorem length_of_readSet {cs rest : List Char} {w : Wild} (h : readSet cs = some (w, rest)) :
    rest.length < cs.length := by
  unfold readSet at h
  split at h <;> obtain ⟨⟨m, r⟩, hs, he⟩ := Option.map_eq_some_iff.1 h <;>
    simp only [Prod.mk.injEq] at he <;> have := length_of_splitSet hs <;> rw [← he.2]
  · rw [List.length_cons]; omega
  · exact this

/-- The parts of a pattern, of which `n` characters have been read, `last` the last of them.  A pair
    of asterisks takes the slash behind it along. -/
def readWilds (n : Nat) (last : Option Char) (pattern : List Char) :
    Except PatternError (List Wild) :=
  match pattern with
  | [] => .ok []
  | '?' :: cs => (Wild.anyChar :: ·) <$> readWilds (n + 1) (some '?') cs
  | '*' :: '*' :: '*' :: _ => .error ⟨n + 2, .wildcards⟩
  | '*' :: '*' :: cs =>
    if last.all (· = '/') then
      match cs with
      | [] => .ok [.anyDirectories]
      | c :: cs =>
        if c = '/' then (Wild.anyDirectories :: ·) <$> readWilds (n + 3) (some '/') cs
        else .error ⟨n + 2, .recursiveWildcards⟩
    else .error ⟨n - 1, .recursiveWildcards⟩
  | '*' :: cs => (Wild.anyChars :: ·) <$> readWilds (n + 1) (some '*') cs
  | '[' :: cs => match h : readSet cs with
    | none => .error ⟨n, .range⟩
    | some (w, rest) =>
      have := length_of_readSet h
      (w :: ·) <$> readWilds (n + 1 + (cs.length - rest.length)) (some ']') rest
  | c :: cs => (Wild.exactly c :: ·) <$> readWilds (n + 1) (some c) cs
termination_by pattern.length

/-- The parts of a pattern. -/
def wilds (pattern : List Char) : Except PatternError (List Wild) := readWilds 0 none pattern

/-! ## Matching -/

/-- A character is one that the part stands for. -/
def Wild.admits (c : Char) : Wild → Bool
  | exactly d => c = d
  | anyChar => true
  | within ranges => ranges.any fun r => r.1 ≤ c && c ≤ r.2
  | outside ranges => !ranges.any fun r => r.1 ≤ c && c ≤ r.2
  | anyChars | anyDirectories => false

/-- For each place in a row of truth values, whether one holds there or later. -/
def anyLater : List Bool → List Bool
  | [] => []
  | b :: bs =>
    let later := anyLater bs
    (b || later.headD false) :: later

/-- Whether the parts stand for a name, and for each of the ends of the name, the longest first.
    All ends are looked at together, so asterisks do not multiply the work. -/
def fits : List Wild → List Char → List Bool
  | [], cs => cs.map (fun _ => false) ++ [true]
  | w :: ws, cs =>
    let later := fits ws cs
    if w = .anyChars then anyLater later
    else List.zipWith (fun c b => w.admits c && b) cs later.tail ++ [false]

/-- The parts stand for a name. -/
def isMatch (ws : List Wild) (name : List Char) : Bool := (fits ws name).headD false

theorem length_anyLater (bs : List Bool) : (anyLater bs).length = bs.length := by
  induction bs with
  | nil => rfl
  | cons b bs ih => simp [anyLater, ih]

/-- There is one answer for each end of the name, the empty one included. -/
theorem length_fits (ws : List Wild) (cs : List Char) : (fits ws cs).length = cs.length + 1 := by
  induction ws with
  | nil => simp [fits]
  | cons w ws ih =>
    simp only [fits]
    split
    · rw [length_anyLater, ih]
    · simp [ih]

theorem fits_ne_nil (ws : List Wild) (cs : List Char) : fits ws cs ≠ [] := by
  intro h
  have := length_fits ws cs
  simp [h] at this

/-- The ends of a name are the name itself and the ends of what follows its first character. -/
theorem fits_cons (ws : List Wild) (c : Char) (cs : List Char) :
    fits ws (c :: cs) = isMatch ws (c :: cs) :: fits ws cs := by
  induction ws with
  | nil => simp [isMatch, fits]
  | cons w ws ih =>
    unfold isMatch
    simp only [fits, ih]
    split
    · simp [anyLater]
    · obtain ⟨b, bs, hb⟩ := List.exists_cons_of_ne_nil (fits_ne_nil ws cs)
      simp [hb]

/-! What parts stand for, part by part. -/

theorem isMatch_nil (cs : List Char) : isMatch [] cs = cs.isEmpty := by
  cases cs <;> rfl

theorem isMatch_anyChars_nil (ws : List Wild) : isMatch (.anyChars :: ws) [] = isMatch ws [] := by
  obtain ⟨b, hb⟩ := List.length_eq_one_iff.1 (length_fits ws [])
  simp [isMatch, fits, hb, anyLater]

/-- Any characters are none, or the first one and any more. -/
theorem isMatch_anyChars_cons (ws : List Wild) (c : Char) (cs : List Char) :
    isMatch (.anyChars :: ws) (c :: cs) =
      (isMatch ws (c :: cs) || isMatch (.anyChars :: ws) cs) := by
  show (fits (.anyChars :: ws) (c :: cs)).headD false = _
  simp only [fits, fits_cons, if_true, anyLater, List.headD_cons]
  rfl

theorem isMatch_cons_nil {w : Wild} (h : w ≠ .anyChars) (ws : List Wild) :
    isMatch (w :: ws) [] = false := by
  simp [isMatch, fits, h]

/-- Every other part takes exactly one character, which is one that it stands for. -/
theorem isMatch_cons {w : Wild} (h : w ≠ .anyChars) (ws : List Wild) (c : Char) (cs : List Char) :
    isMatch (w :: ws) (c :: cs) = (w.admits c && isMatch ws cs) := by
  obtain ⟨b, bs, hb⟩ := List.exists_cons_of_ne_nil (fits_ne_nil ws cs)
  show (fits (w :: ws) (c :: cs)).headD false = (w.admits c && (fits ws cs).headD false)
  simp [fits, fits_cons, h, hb]

example : isMatch [.anyChars, .exactly 'a', .anyChars, .exactly 'b'] "aabab".toList = true := by
  decide
example : isMatch [.anyChars, .exactly 'b', .anyChar] "ab".toList = false := by decide

/-! ## Patterns by name -/

/-- What one name of a pattern stands for. -/
inductive Segment where
  /-- The name itself. -/
  | literal (name : List Char)
  /-- Every name that the parts stand for. -/
  | wild (ws : List Wild)
  | anyDirectories
  deriving DecidableEq

/-- The characters that parts stand for, if they all stand for themselves. -/
def literal? : List Wild → Option (List Char)
  | [] => some []
  | .exactly c :: ws => (c :: ·) <$> literal? ws
  | _ :: _ => none

namespace Segment

/-- The segment of a name whose parts are given. -/
def ofWilds (ws : List Wild) : Segment :=
  if ws = [.anyDirectories] then anyDirectories
  else match literal? ws with
    | some name => literal name
    | none => wild ws

/-- A name is one that the segment stands for. -/
def admits (name : List Char) : Segment → Bool
  | literal n => name = n
  | wild ws => isMatch ws name
  | anyDirectories => false

/-- Any number of any directories is any number of them. -/
def collapse : List Segment → List Segment
  | anyDirectories :: anyDirectories :: ss => collapse (anyDirectories :: ss)
  | s :: ss => s :: collapse ss
  | [] => []

end Segment

/-- A pattern for paths. -/
structure Pattern where
  /-- It begins at the top. -/
  absolute : Bool
  segments : List Segment
  /-- It ends with a slash, and stands for directories only. -/
  directoriesOnly : Bool
  deriving DecidableEq

/-- The names in a pattern, without the empty one behind a last slash. -/
def patternNames (pattern : List Char) : List (List Char) :=
  let names := segments pattern
  if names.getLast? = some [] then names.dropLast else names

/-- Reads a pattern. -/
def Pattern.ofText (text : String) : Except PatternError Pattern := do
  let cs := text.toList
  let _ ← wilds cs
  let absolute : Bool := cs.head? = some '/'
  let names := patternNames (if absolute then cs.tail else cs)
  return ⟨absolute, Segment.collapse (← names.mapM fun name => Segment.ofWilds <$> wilds name),
    cs.getLast? = some '/'⟩

example : rangesOf "a-c-".toList = [('a', 'c'), ('-', '-')] := by decide
example : readSet "]].txt".toList = some (.within [(']', ']')], ".txt".toList) := by decide
example : readSet "!a]".toList = some (.outside [('a', 'a')], []) := by decide
example : readSet "!]".toList = none := by decide

end TypeExpr.Files
