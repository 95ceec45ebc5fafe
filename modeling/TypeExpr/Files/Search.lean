import TypeExpr.Files.Glob

/-!
# The paths that a pattern stands for

A search goes through the names of a pattern from the working directory, or from the top.  A name
that stands for itself is entered if it is there; any other is compared with the entries of the
directory, in their order, so that the paths are found in order.  The names `.` and `..` are no
entries: of the names that are not literal, only one that begins with a dot can stand for them, and
they are found before the entries, `..` first.

What is found is shown by the path that led to it, in which the working directory itself has no part
unless there is nothing else.  A path can grow too long to be followed.  Then a literal name that it
leads to is not there, and what lies behind `.` or `..` is not known to be a directory; but an entry
that was seen in a directory is known for what it is, and if such an entry is a directory that
cannot be listed, the search has failed there.

This is the search that the program runs with.  What is proved of checks holds for any other one as
well (`PathSearch`).
-/

namespace TypeExpr

namespace Files

/-- A place that a search has come to, its name, and the path by which it is shown. -/
structure Site where
  shown : String
  name : String
  place : Place
  /-- It is known to be a directory. -/
  isDirectory : Bool

/-- A directory that cannot be listed, because its path is too long. -/
structure ListingError where
  directory : String
  deriving DecidableEq

/-- The reason in words. -/
def ListingError.message (e : ListingError) : String :=
  "attempting to read `" ++ e.directory ++ "` resulted in an error: " ++
    AccessError.nameTooLong.message

/-- What a search has come to. -/
abbrev Found := Except ListingError Site

/-- Goes on from what has been found. -/
def Found.andThen (next : Site → List Found) : Found → List Found
  | .error e => [.error e]
  | .ok s => next s

/-- Whether something found is to be kept; a failure always is. -/
def Found.holds (p : Site → Bool) : Found → Bool
  | .error _ => true
  | .ok s => p s

/-- A path with a name behind it. -/
def join (path name : String) : String :=
  if path.toList.getLast? = some '/' then path ++ name else path ++ "/" ++ name

/-- A path is one spelling or another of the working directory. -/
def isHere (path : String) : Bool :=
  path.toList.head? = some '.' && (segments path.toList).all fun s => s = [] || s = ['.']

/-- The path by which an entry of a directory is shown. -/
def showIn (path name : String) : String := if isHere path then name else join path name

mutual

/-- What is below an entry, each directory before its entries. -/
def below (path : String) (above : List Entry) : Entry → List Found
  | .file _ => []
  | .directory es =>
    if isShort path then amongst path (.directory es :: above) es else [.error ⟨path⟩]

/-- Some entries of a directory, and what is below them. -/
def amongst (path : String) (above : List Entry) : List (String × Entry) → List Found
  | [] => []
  | (name, e) :: es =>
    .ok ⟨showIn path name, name, ⟨e, above⟩, e.isDirectory⟩ :: below (showIn path name) above e ++
      amongst path above es

end

namespace Site

/-- A place that was reached by a path. -/
def reached (path name : String) (place : Place) : Site :=
  ⟨path, name, place, isShort path && place.entry.isDirectory⟩

/-- What is below a site. -/
def descendants (s : Site) : List Found :=
  if s.isDirectory then below s.shown s.place.above s.place.entry else []

/-- The entries of a site. -/
def children (s : Site) : List Site :=
  s.place.entry.entries.map fun (name, e) =>
    ⟨showIn s.shown name, name, ⟨e, s.place.entry :: s.place.above⟩, e.isDirectory⟩

/-- Where a name leads to, shown by a given path. -/
def step? (s : Site) (path name : String) : Option Site :=
  match s.place.step name with
  | .error _ => none
  | .ok p => some (reached path name p)

/-- Where a literal name leads to.  The empty name adds a slash, which the working directory cannot
    have.  A directory has `.` and `..` whatever its path; every other name has to be looked up. -/
def enter? (s : Site) (name : String) : Option Site :=
  let path := showIn s.shown name
  if name = "." ∨ name = ".." then if s.isDirectory then s.step? path name else none
  else if isHere s.shown && name = "" then none
  else if isShort path then s.step? path name
  else none

/-- The directory above and the site itself, as far as a name that begins with a dot stands for
    them. -/
def dots (s : Site) (ws : List Wild) : List Site :=
  if ws.head? = some (.exactly '.') then
    ([['.', '.'], ['.']].filter (isMatch ws)).filterMap fun name =>
      s.step? (join s.shown (String.ofList name)) (String.ofList name)
  else []

/-- What the names that parts stand for lead to. -/
def matching (s : Site) (ws : List Wild) : List Found :=
  if !s.isDirectory then []
  else if !isShort s.shown then [.error ⟨s.shown⟩]
  else (s.dots ws ++ s.children.filter fun c => isMatch ws c.name.toList).map .ok

end Site

/-- What a site leads to by the names of a pattern. -/
def search : List Segment → Site → List Found
  | [], s => [.ok s]
  | .literal name :: ss, s => match s.enter? (String.ofList name) with
    | none => []
    | some s => search ss s
  | .wild ws :: ss, s => (s.matching ws).flatMap (Found.andThen (search ss))
  | [.anyDirectories], s => s.descendants.filter (Found.holds Site.isDirectory)
  | .anyDirectories :: next :: ss, s =>
    (s.descendants.filter (Found.holds fun d => next.admits d.name.toList)).flatMap
      (Found.andThen (search ss))

/-- The paths that a pattern stands for, as seen from a working directory, and the directories that
    could not be listed on the way to them. -/
def Pattern.paths (p : Pattern) (here : Place) : List (Except ListingError String) :=
  let start : Site := if p.absolute then .reached "/" "" here.top else .reached "." "" here
  ((search p.segments start).filter (Found.holds fun s => !p.directoriesOnly || s.isDirectory)).map
    (·.map Site.shown)

end Files

namespace Program

/-- The program looks for the paths that a pattern matches. -/
scoped instance matchingPaths : PathSearch where
  find here text :=
    match Files.Pattern.ofText text with
    | .error e => .error e.message
    | .ok p => .ok ((p.paths here).map (·.mapError Files.ListingError.message))

/-- A text that is a pattern is searched for as that pattern. -/
theorem find_of_ofText {here : Place} {text : String} {p : Files.Pattern}
    (h : Files.Pattern.ofText text = .ok p) : PathSearch.find here text =
      .ok ((p.paths here).map (·.mapError Files.ListingError.message)) := by
  simp only [PathSearch.find, h]

end Program

end TypeExpr
