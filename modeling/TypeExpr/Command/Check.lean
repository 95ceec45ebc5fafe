import TypeExpr.Command.Basic
import TypeExpr.Files.Basic
import TypeExpr.Node.Denotation
import TypeExpr.Text.Blank

/-!
# Checking files

A file to be checked has one specification on a line; blank lines, and those that begin with `#`
once they are trimmed, have none.  Every line that denotes no type is written with its file and its
number, and a summary comes last.

First all inputs are turned into paths, then all files are read, and only then is any line looked
at, so that an input of no use leaves nothing behind but its complaint.
-/

namespace TypeExpr.Command

/-- A specification in a file, and where it stands, the lines counted from one. -/
structure SpecLine where
  path : String
  number : Nat
  text : String
  deriving DecidableEq

/-- Why an input is of no use. -/
inductive InputError where
  | badPattern (pattern reason : String)
  | noMatch (pattern : String)
  | unlisted (reason : String)
  | unreadable (path : String) (error : AccessError)
  deriving DecidableEq

/-- The reason in words. -/
def InputError.message : InputError → String
  | badPattern pattern reason => "bad glob pattern " ++ pattern ++ ": " ++ reason
  | noMatch pattern => "glob pattern matched no files: " ++ pattern
  | unlisted reason => reason
  | unreadable path e => "failed to read " ++ path ++ ": " ++ e.message

/-- The paths that an input stands for.  One part of the tree that could not be searched spoils them
    all. -/
def inputPaths [PathSearch] (here : Place) (input : String) : Except InputError (List String) :=
  if Files.isPattern input then
    match PathSearch.find here input with
    | .error reason => .error (.badPattern input reason)
    | .ok [] => .error (.noMatch input)
    | .ok found => (found.mapM id).mapError .unlisted
  else .ok [input]

/-- The text of the file that a path leads to. -/
def inputText (here : Place) (path : String) : Except InputError String :=
  match here.read path with
  | .error e => .error (.unreadable path e)
  | .ok text => .ok text

/-- A line has a specification. -/
def hasSpec (line : List Char) : Bool :=
  let cs := Text.trim line
  !cs.isEmpty && cs.head? != some '#'

/-- The specifications in a file. -/
def specLines (path : String) (content : String) : List SpecLine :=
  (((Text.lines content.toList).zipIdx 1).filter fun (line, _) => hasSpec line).map
    fun (line, n) => ⟨path, n, String.ofList (Text.trim line)⟩

/-- What is written of a specification that denotes no type. -/
def SpecLine.complaint? [PatternLanguage] (s : SpecLine) : Option String :=
  match TypeExpr.parse s.text with
  | .ok _ => none
  | .error f => some (s.path ++ ":" ++ toString s.number ++ ": " ++ f.message ++ "\n")

/-- The last line of a check. -/
def summary (checked failed : Nat) : String :=
  "checked " ++ toString checked ++ " specifications, " ++ toString failed ++ " failed\n"

/-- Checks specifications. -/
def checkLines [PatternLanguage] (ls : List SpecLine) : Outcome :=
  let complaints := ls.filterMap SpecLine.complaint?
  ⟨String.join complaints ++ summary ls.length complaints.length, "",
    if complaints.isEmpty then .success else .failure⟩

/-- Checks files by their texts. -/
def checkTexts [PatternLanguage] (files : List (String × String)) : Outcome :=
  checkLines (files.flatMap fun (path, content) => specLines path content)

/-- The files that some inputs stand for, with their texts, given how paths are found and how texts
    are read: nothing is read before everything is found. -/
def gather {m : Type → Type} [Monad m] (find : String → m (List String)) (read : String → m String)
    (inputs : List String) : m (List (String × String)) := do
  let paths ← inputs.mapM find
  paths.flatten.mapM fun path => do return (path, ← read path)

/-- The outcome of a check, once its files have been gathered or an input is of no use. -/
def conclude [PatternLanguage] : Except InputError (List (String × String)) → Outcome
  | .error e => Outcome.refused e.message
  | .ok files => checkTexts files

/-- Checks the files that some inputs stand for. -/
def check [PatternLanguage] [PathSearch] (here : Place) (inputs : List String) : Outcome :=
  conclude (gather (inputPaths here) (inputText here) inputs)

end TypeExpr.Command
