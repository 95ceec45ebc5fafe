import TypeExpr.Command.Basic
import TypeExpr.DataType.Json
import TypeExpr.DataType.Outline
import TypeExpr.Node.Denotation
import TypeExpr.Report

/-!
# Parsing specifications

Each specification is parsed by itself.  The types are written in the order of their specifications,
and so are the reports of those that denote none; the command fails if there is any.  It crashes at
the first one that denotes none and has no report, and what was written before stays.
-/

namespace TypeExpr.Command

/-- How a type is written. -/
inductive Format where
  /-- As a specification. -/
  | text
  | json
  /-- With the names of its fields. -/
  | outline
  deriving DecidableEq

/-- A type in a format. -/
def Format.write (t : DataType) : Format → String
  | text => t.render
  | json => t.toPrettyJson
  | outline => t.outline.pretty 0

/-- What one specification leaves behind. -/
def parseOne [PatternLanguage] (format : Format) (color : Bool) (specification : String) :
    Outcome :=
  match TypeExpr.parse specification with
  | .ok t => ⟨format.write t ++ "\n", "", .success⟩
  | .error f => match f.report? specification color with
    | some report => ⟨"", report, .failure⟩
    | none => ⟨"", "", .crash⟩

/-- Parses specifications and writes the types they denote. -/
def parse [PatternLanguage] (format : Format) (color : Bool) (specifications : List String) :
    Outcome :=
  Outcome.all (specifications.map (parseOne format color))

end TypeExpr.Command
