import TypeExpr.Command.Parse

/-!
# Arguments of the command line

What the arguments ask for.  The flags of the whole program may stand anywhere before `--`, behind
which everything is a specification.

Arguments that ask for nothing, such as a flag that there is not, are answered with how arguments
are written (`usage`).
-/

namespace TypeExpr.Command

/-- What is asked for. -/
inductive Task where
  | parse (format : Format) (specifications : List String)
  | check (inputs : List String)
  deriving DecidableEq

/-- A task, and whether colors are unwanted. -/
structure Request where
  task : Task
  plain : Bool
  deriving DecidableEq

/-- The format of a name. -/
def Format.ofName? : String → Option Format
  | "text" => some .text
  | "json" => some .json
  | "debug" => some .outline
  | _ => none

/-- An argument that is no value. -/
def isOption (argument : String) : Bool :=
  argument.toList.head? = some '-' && argument != "-"

/-- What follows a beginning of an argument. -/
def after? (start argument : String) : Option String :=
  (start.toList.isPrefixOf? argument.toList).map String.ofList

/-- The task of parsing, some specifications of which have been read, last one first. -/
def parseTask (format : Format) (read : List String) : List String → Option Task
  | [] => if read.isEmpty then none else some (.parse format read.reverse)
  | "--" :: rest =>
    if read.isEmpty && rest.isEmpty then none else some (.parse format (read.reverse ++ rest))
  | "--format" :: name :: rest => do parseTask (← Format.ofName? name) read rest
  | a :: rest => match after? "--format=" a with
    | some name => do parseTask (← Format.ofName? name) read rest
    | none => if isOption a then none else parseTask format (a :: read) rest

/-- The task of checking, some inputs of which have been read, last one first.  Inputs follow their
    option. -/
def checkTask (expected : Bool) (read : List String) : List String → Option Task
  | [] => if read.isEmpty then none else some (.check read.reverse)
  | a :: rest =>
    if a = "-i" ∨ a = "--input" then checkTask true read rest
    else match after? "--input=" a with
      | some input => checkTask true (input :: read) rest
      | none => if isOption a || !expected then none else checkTask true (a :: read) rest

/-- The flags of the whole program among some arguments: whether colors are unwanted, and the other
    arguments. -/
def splitFlags : List String → Bool × List String
  | [] => (false, [])
  | "--" :: rest => (false, "--" :: rest)
  | a :: rest =>
    let (plain, others) := splitFlags rest
    if a = "--no-color" then (true, others)
    else if a = "-v" ∨ a = "--verbose" then (plain, others)
    else (plain, a :: others)

/-- What some arguments ask for. -/
def Request.ofArguments? (arguments : List String) : Option Request :=
  let (plain, others) := splitFlags arguments
  match others with
  | "parse" :: rest => (parseTask .text [] rest).map (⟨·, plain⟩)
  | "check" :: rest => (checkTask false [] rest).map (⟨·, plain⟩)
  | _ => none

/-- How the arguments are written. -/
def usage : String :=
  "usage: type-spec [-v] parse [--format text|json|debug] [--no-color] [--] SPEC...\n" ++
  "       type-spec [-v] check -i INPUT...\n"

example : Request.ofArguments? ["-v", "parse", "--format", "json", "--", "--no-color"] =
    some ⟨.parse .json ["--no-color"], false⟩ := by decide +kernel
example : Request.ofArguments? ["check", "-i", "a", "b", "--no-color", "-i", "c"] =
    some ⟨.check ["a", "b", "c"], true⟩ := by decide +kernel

end TypeExpr.Command
