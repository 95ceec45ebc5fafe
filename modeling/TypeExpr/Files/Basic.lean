import TypeExpr.Text.Bytes

/-!
# Files

A tree of files and directories, and how a path leads through it.  A path is followed name by name
from the working directory, or from the top if it begins with a slash; `.` stays, `..` goes to the
directory above, and at the top stays too.  Only a directory can be left by a name, `.` and the
empty name behind a last slash included.

A place remembers the directories above it, so that a path is followed by recursion on its names
and the tree needs no links upward.

A pattern for paths is not followed but searched for.  How that is done is a parameter
(`PathSearch`) of all that takes patterns; the one decision that belongs here is which texts are
patterns at all (`Files.isPattern`).
-/

namespace TypeExpr

/-- A file with its bytes, or a directory with its entries in the order of their names. -/
inductive Entry where
  | file (content : ByteArray)
  | directory (entries : List (String × Entry))

/-- Why a path leads to no text. -/
inductive AccessError where
  | missing
  | notADirectory
  | isADirectory
  | nameTooLong
  | notText
  /-- Anything else that keeps a file from being read. -/
  | other (reason : String)
  deriving DecidableEq

/-- The reason in words. -/
def AccessError.message : AccessError → String
  | missing => "No such file or directory (os error 2)"
  | notADirectory => "Not a directory (os error 20)"
  | isADirectory => "Is a directory (os error 21)"
  | nameTooLong => "File name too long (os error 36)"
  | notText => "stream did not contain valid UTF-8"
  | other reason => reason

namespace Files

/-- The names in a path: what stands before, between and behind its slashes. -/
def segments : List Char → List (List Char)
  | [] => [[]]
  | c :: cs =>
    if c = '/' then [] :: segments cs
    else match segments cs with
      | [] => [[c]]
      | s :: ss => (c :: s) :: ss

/-- The bytes that a name may have. -/
def longestName : Nat := 255

/-- The bytes that a path may have. -/
def longestPath : Nat := 4095

/-- A text is taken for a pattern rather than for a path if it has one of these characters. -/
def isPattern (text : String) : Bool :=
  text.toList.any fun c => c = '*' || c = '?' || c = '[' || c = '\x7b'

/-- The path is short enough to be followed. -/
def isShort (path : String) : Bool := Text.byteLength path.toList ≤ longestPath

end Files

namespace Entry

/-- The entry is a directory. -/
def isDirectory : Entry → Bool
  | file _ => false
  | directory _ => true

/-- The entries of a directory, and none of a file. -/
def entries : Entry → List (String × Entry)
  | file _ => []
  | directory es => es

/-- An entry in its place among others.  It takes the place of one of its name. -/
def insertInto (name : String) (e : Entry) : List (String × Entry) → List (String × Entry)
  | [] => [(name, e)]
  | (n, x) :: es =>
    if name = n then (name, e) :: es
    else if name < n then (name, e) :: (n, x) :: es
    else (n, x) :: insertInto name e es

/-- The tree with an entry put at a path, whose directories are made where they are missing. -/
def put (e : Entry) : List String → Entry → Entry
  | [], _ => e
  | name :: names, tree =>
    directory (insertInto name (put e names ((tree.entries.lookup name).getD (directory [])))
      tree.entries)

end Entry

/-- An entry of a tree, and the directories above it, the nearest first. -/
structure Place where
  entry : Entry
  above : List Entry

namespace Place

/-- The top of the tree. -/
def top (p : Place) : Place := ⟨p.above.getLast?.getD p.entry, []⟩

/-- The directory that holds the entry; the top holds itself. -/
def up (p : Place) : Place :=
  match p.above with
  | [] => p
  | e :: es => ⟨e, es⟩

/-- Where a name leads to. -/
def step (p : Place) (name : String) : Except AccessError Place :=
  if !p.entry.isDirectory then .error .notADirectory
  else if name = "" ∨ name = "." then .ok p
  else if name = ".." then .ok p.up
  else if Files.longestName < Text.byteLength name.toList then .error .nameTooLong
  else match p.entry.entries.lookup name with
    | none => .error .missing
    | some e => .ok ⟨e, p.entry :: p.above⟩

/-- Where a path leads to from a working directory. -/
def follow (here : Place) (path : String) : Except AccessError Place :=
  let cs := path.toList
  if cs = [] then .error .missing
  else if !Files.isShort path then .error .nameTooLong
  else ((Files.segments cs).map String.ofList).foldlM step
    (if cs.head? = some '/' then here.top else here)

/-- The text of the file that a path leads to. -/
def read (here : Place) (path : String) : Except AccessError String := do
  match (← here.follow path).entry with
  | .directory _ => .error .isADirectory
  | .file content => match String.fromUTF8? content with
    | none => .error .notText
    | some text => .ok text

end Place

/-- How paths are searched for.  No law is asked of it: what has been found may be of no use in any
    way, and may even be no path of the tree. -/
class PathSearch where
  /-- What is wrong with a pattern, in words; or else what is found for it from a working directory,
      one after another: a path, or, in words, why a part of the tree could not be searched. -/
  find : Place → String → Except String (List (Except String String))

/-! ## What they say of each other -/

@[simp] theorem Place.up_top (p : Place) : p.top.up = p.top := rfl

/-- Bytes are read as a text exactly if they are those of that text. -/
theorem fromUTF8?_eq_some_iff {bytes : ByteArray} {text : String} :
    String.fromUTF8? bytes = some text ↔ text.toUTF8 = bytes := by
  unfold String.fromUTF8?
  constructor
  · intro h
    split at h
    · cases h
      rfl
    · cases h
  · rintro rfl
    exact dif_pos text.isValidUTF8

/-- Bytes are no text exactly if no text has them as its bytes. -/
theorem fromUTF8?_eq_none_iff {bytes : ByteArray} :
    String.fromUTF8? bytes = none ↔ ∀ text : String, text.toUTF8 ≠ bytes := by
  rw [Option.eq_none_iff_forall_ne_some]
  exact forall_congr' fun text => not_congr fromUTF8?_eq_some_iff

/-- An entry is found under the name it was put at. -/
theorem Entry.lookup_insertInto (name : String) (e : Entry) (es : List (String × Entry)) :
    (insertInto name e es).lookup name = some e := by
  induction es with
  | nil => simp [insertInto]
  | cons p es ih =>
    obtain ⟨n, x⟩ := p
    unfold insertInto
    split
    · simp
    · split
      · simp
      · rename_i h _
        have hn : (name == n) = false := by simpa using h
        simp [List.lookup_cons, hn, ih]

example : Files.segments "a//b/".toList = [['a'], [], ['b'], []] := by decide

end TypeExpr
