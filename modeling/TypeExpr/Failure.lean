import TypeExpr.Arity
import TypeExpr.Text.Source

/-!
# Failures

Why a specification denotes no type.  A failure quotes the part of the text that it blames, and says
where that part is.

There are four causes. Three of them are about a name; the fourth is that the specification is not
valid, with a detail if it could not be read at all.
-/

namespace TypeExpr

/-- What is wrong with a specification. -/
inductive Failure.Cause where
  /-- It is no expression, or one that denotes no type; the detail says more where more is known. -/
  | invalidSpecification (detail : Option String)
  /-- A name has too few or too many parameters. -/
  | invalidParameterCount (typeName : String) (required : Arity) (given : Nat)
  /-- A name has parameters and takes none. -/
  | unparameterizedType
  /-- A name is reserved and has no type behind it. -/
  | unknownType
  deriving DecidableEq

/-- A cause, the text it is blamed on, and where that is. -/
structure Failure where
  cause : Failure.Cause
  text : String
  span : Span
  deriving DecidableEq

/-- The name of the kind of cause. -/
def Failure.Cause.kindName : Failure.Cause → String
  | invalidSpecification _ => "InvalidSpecification"
  | invalidParameterCount _ _ _ => "InvalidParameterCount"
  | unparameterizedType => "UnparameterizedType"
  | unknownType => "UnknownType"

namespace Failure

/-- The failure in words. -/
def message (f : Failure) : String :=
  let quoted := "<" ++ f.text ++ ">"
  match f.cause with
  | .invalidSpecification detail =>
    "The expression " ++ quoted ++ " is not a valid type specification." ++
      detail.elim "" (" " ++ ·)
  | .invalidParameterCount typeName required given =>
    "Invalid number of type parameters specified: " ++ typeName ++ " requires " ++
      required.describe ++ ", " ++ toString given ++ " provided in " ++ quoted
  | .unparameterizedType => "Not a parameterized type " ++ quoted
  | .unknownType => "Unknown type " ++ quoted

/-- The failure of a span of a text. -/
def ofSpan (text : String) (cause : Cause) (span : Span) : Failure :=
  ⟨cause, String.ofList (Text.slice text.toList span), span⟩

/-- The failure of a whole text. -/
def ofWhole (text : String) (detail : Option String) : Failure :=
  ⟨.invalidSpecification detail, text, ⟨0, Text.byteLength text.toList⟩⟩

end Failure

end TypeExpr
