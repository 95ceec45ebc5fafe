import TypeExpr.Command.Arguments
import TypeExpr.Command.Check
import TypeExpr.Files.Search
import TypeExpr.Regex.Check

/-!
# The program

Reads its arguments and the files that they name, and writes the outcome.  A pattern is matched
against a survey of the disk: the names below its literal beginning, as deep as it can lead.

All of what is written is decided by the library; what is here gets hold of the arguments and of the
files, and writes what it is told to.  When the outcome is a crash, the program ends with the status
that a crash has, and with nothing written but what had been written before.
-/

namespace TypeExpr.Program

/-- The number of an error, whose sign may have been turned round. -/
def errorNumber (code : UInt32) : Nat := min code.toNat (0 - code).toNat

/-- Why a file could not be read. -/
def accessError : IO.Error → AccessError
  | .noFileOrDirectory _ _ _ => .missing
  | .inappropriateType _ code _ => if errorNumber code = 21 then .isADirectory else .notADirectory
  | .invalidArgument name code reason =>
    if errorNumber code = 36 then .nameTooLong
    else .other (toString (IO.Error.invalidArgument name code reason))
  | e => .other (toString e)

/-- The text of a file. -/
def readText (path : String) : ExceptT Command.InputError IO String := do
  match ← (IO.FS.readBinFile path).toBaseIO with
  | .error e => throw (.unreadable path (accessError e))
  | .ok bytes => match String.fromUTF8? bytes with
    | none => throw (.unreadable path .notText)
    | some text => return text

/-- An entry of the disk with the names of what is below it, to a depth. -/
def survey (depth : Nat) (e : IO.FS.DirEntry) : IO Entry := do
  if !(← e.path.isDir) then return .file ByteArray.empty
  match depth with
  | 0 => return .directory []
  | depth + 1 =>
    let mut entries := []
    for child in (← e.path.readDir.toBaseIO).toOption.getD #[] do
      entries := Entry.insertInto child.fileName (← survey depth child) entries
    return .directory entries

/-- The names in a path from the top. -/
def namesOf (path : String) : List String :=
  ((Files.segments path.toList).map String.ofList).filter fun name => name ≠ "" && name ≠ "."

/-- The entry of the disk that some names lead to from the top, with what is below it. -/
def surveyAt (depth : Nat) (names : List String) : IO Entry :=
  survey depth ⟨"/", "/".intercalate names⟩

/-- The tree with an entry of the disk shown where nothing was. -/
def reveal (tree : Entry) (names : List String) : IO Entry := do
  match names.foldlM Place.step ⟨tree, []⟩ with
  | .ok _ => return tree
  | .error _ => return Entry.put (← surveyAt 0 names) names tree

/-- The names from the top that a path leads to, if it leads anywhere.  Only a path that goes upward
    has to be resolved. -/
def locate? (here : List String) (path : String) : IO (Option (List String)) := do
  match ← (IO.FS.realPath path).toBaseIO with
  | .error _ => return none
  | .ok real =>
    let names := namesOf path
    if names.contains ".." then return some (namesOf real.toString)
    else return some (if path.toList.head? = some '/' then names else here ++ names)

/-- How deep below its literal beginning a pattern can lead. -/
def depthOf (rest : List Files.Segment) : Nat :=
  if rest.contains .anyDirectories then 64 else rest.length

/-- The working directory, with as much of the tree as a pattern can see: every directory on the way
    to the end of its literal beginning, and what is there. -/
def surroundings (p : Files.Pattern) : IO Place := do
  let literal : Files.Segment → Option String
    | .literal name => some (String.ofList name)
    | _ => none
  let first := p.segments.takeWhile fun s => (literal s).isSome
  let rest := p.segments.drop first.length
  let upward := rest.countP fun s => s.admits ['.', '.']
  let here := namesOf (← IO.FS.realPath ".").toString
  let path (n : Nat) :=
    (if p.absolute then "/" else "./") ++ "/".intercalate ((first.take n).filterMap literal)
  let mut tree := Entry.directory []
  if let some names ← locate? here (path first.length) then
    let base := names.take (names.length - upward)
    tree := Entry.put (← surveyAt (depthOf rest + upward) base) base tree
  for n in List.range first.length do
    if let some names ← locate? here (path n) then
      tree ← reveal tree names
  tree ← reveal tree here
  return (here.foldlM Place.step ⟨tree, []⟩).toOption.getD ⟨tree, []⟩

/-- The paths that an input stands for. -/
def findPaths (input : String) : ExceptT Command.InputError IO (List String) := do
  let here ← match Files.Pattern.ofText input with
    | .ok p => surroundings p
    | .error _ => pure ⟨.directory [], []⟩
  ExceptT.mk (pure (Command.inputPaths here input))

/-- Does what is asked for. -/
def run (r : Command.Request) : IO Command.Outcome := do
  match r.task with
  | .parse format specifications =>
    let color := !r.plain && (← (← IO.getStderr).isTty)
    return Command.parse format color specifications
  | .check inputs => return Command.conclude (← (Command.gather findPaths readText inputs).run)

end TypeExpr.Program

/-- Writes the outcome of what the arguments ask for, or how they are written. -/
def main (arguments : List String) : IO UInt32 := do
  match TypeExpr.Command.Request.ofArguments? arguments with
  | none =>
    (← IO.getStderr).putStr TypeExpr.Command.usage
    return 2
  | some r =>
    let o ← TypeExpr.Program.run r
    (← IO.getStdout).putStr o.output
    (← IO.getStderr).putStr o.complaints
    return UInt32.ofNat o.status
