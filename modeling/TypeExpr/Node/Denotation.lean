import TypeExpr.DataType.Basic
import TypeExpr.Failure
import TypeExpr.Node.Parser

/-!
# What an expression denotes

A leaf denotes a text, a number, a pattern, the open bound, or a type.  An access applies a name to
arguments: the arguments are evaluated from left to right, then their number is checked against the
name (`TypeName.refusal?`), then their kinds (`TypeName.build`), so the first thing that is wrong in
this order is what is reported.  A fault carries the note of the node that it is blamed on and
nothing else of the tree.

How many accesses a node stands inside is counted on the way down, along arguments only, and an
access inside too many of them is refused before anything else is looked at.  The notes are
arbitrary.  In a tree that was read they are spans, and elsewhere they may be positions or nothing
at all; evaluation never asks which.

All ways to take an argument are functions from values (`Value.type?` and so on), and an argument
that cannot be taken is blamed in one place (`Argument.take`).  So there is one function for each
kind of argument and one for each number of arguments, and a name is a choice among these.
-/

namespace TypeExpr

variable {α : Type}

/-- What an expression can denote; only a type can stand on its own. -/
inductive Value where
  | type (type : DataType)
  | string (value : String)
  | integer (value : Int64)
  | float (value : Double)
  | regex (pattern : String)
  | unbounded

/-- What is wrong with an expression, and the note of the node that is blamed. -/
structure Fault (α : Type) where
  cause : Failure.Cause
  note : α

/-- The fault of a node that denotes nothing, or nothing that is of use where it stands. -/
def Fault.invalid (note : α) : Fault α := ⟨.invalidSpecification none, note⟩

/-- An argument: its value and the note of its node. -/
structure Argument (α : Type) where
  value : Value
  note : α

/-! ## What an argument can be taken for -/

namespace Value

/-- Any type. -/
def type? : Value → Option DataType
  | type t => some t
  | _ => none

/-- A type that collections can hold. -/
def structural? : Value → Option DataType
  | type t => if t.isStructural then some t else none
  | _ => none

/-- A text. -/
def string? : Value → Option String
  | string s => some s
  | _ => none

/-- A pattern: a text, a pattern literal, or the pattern of a `Regexp` type. -/
def pattern? : Value → Option String
  | string s => some s
  | regex p => some p
  | type (.regexp (some p)) => some p
  | _ => none

/-- A kind of resource: a text, or a resource type without a title. -/
def resourceKind? : Value → Option String
  | string s => some s
  | type (.resource (some ⟨name, none⟩)) => some name
  | _ => none

/-- The title of a resource: a text, or an integer as it is written in decimal. -/
def title? : Value → Option String
  | string s => some s
  | integer n => some (toString n.toInt)
  | _ => none

/-- A bound of a range of integers, which may be open. -/
def integerBound? : Value → Option (Option Int64)
  | integer n => some (some n)
  | unbounded => some none
  | _ => none

/-- A bound of a range of numbers, which may be open. -/
def floatBound? : Value → Option (Option Double)
  | integer n => some (some (.ofInt n.toInt))
  | float x => some (some x)
  | unbounded => some none
  | _ => none

end Value

/-- Takes an argument for something; it is blamed if it cannot be that. -/
def Argument.take {β : Type} (read : Value → Option β) (a : Argument α) : Except (Fault α) β :=
  match read a.value with
  | some b => .ok b
  | none => .error (.invalid a.note)

/-! ## Applying a name to arguments -/

/-- How many parameters a type takes. -/
def Former.arity : Former → Arity
  | integer | float | hash | resource => .between 1 2
  | array | classes | regexp => .exactly 1
  | enum | pattern | variant => .atLeast 2

namespace TypeName

/-- Why a name cannot have a number of parameters.  A single parameter does not make `Pattern` a
    parameterised type. -/
def refusal? (name : TypeName) (given : Nat) : Option Failure.Cause :=
  let check (required : Arity) :=
    if required.admits given then none
    else some (.invalidParameterCount name.title required given)
  match name with
  | plain _ => some .unparameterizedType
  | ruby | type => some .unknownType
  | former .pattern => if given = 1 then some .unparameterizedType else check Former.pattern.arity
  | former f => check f.arity
  | other _ => check (.exactly 1)

/-- The type that a name and arguments make, if there are as many as the name takes. -/
def build (note : α) : TypeName → List (Argument α) → Except (Fault α) DataType
  | former .array, [e] => do return .array (← e.take Value.structural?)
  | former .hash, [v] => do return .hashOf (← v.take Value.structural?)
  | former .hash, [k, v] => do
    let key ← k.take Value.structural?
    let value ← v.take Value.structural?
    return .hash key value
  | former .classes, [n] => do return .classOf (some (← n.take Value.string?))
  | former .resource, [k] => do return .resourceOf (some (← k.take Value.resourceKind?)) none
  | former .resource, [k, t] => do
    let kind ← k.take Value.resourceKind?
    let title ← t.take Value.title?
    return .resourceOf (some kind) (some title)
  | former .regexp, [p] => do return .regexp (some (← p.take Value.pattern?))
  | former .enum, vs => do return .enum (← vs.mapM (·.take Value.string?))
  | former .pattern, ps => do return .pattern (← ps.mapM (·.take Value.pattern?))
  | former .variant, ts => do return .variant (← ts.mapM (·.take Value.type?))
  | former .integer, [p] => do
    let bound ← p.take Value.integerBound?
    return .integer bound bound
  | former .integer, [a, b] => do
    let min ← a.take Value.integerBound?
    let max ← b.take Value.integerBound?
    return .integer min max
  | former .float, [p] => do
    let bound ← p.take Value.floatBound?
    return .float bound bound
  | former .float, [a, b] => do
    let min ← a.take Value.floatBound?
    let max ← b.take Value.floatBound?
    return .float min max
  | other kind, [t] => do return .resourceOf (some kind) (some (← t.take Value.title?))
  | _, _ => .error (.invalid note)

/-- The type that a name applied to arguments denotes; `note` is that of the access. -/
def apply (note : α) (name : TypeName) (arguments : List (Argument α)) :
    Except (Fault α) DataType :=
  match name.refusal? arguments.length with
  | some cause => .error ⟨cause, note⟩
  | none => name.build note arguments

/-- The type that a name without arguments denotes. -/
def bare (note : α) : TypeName → Except (Fault α) DataType
  | plain p => .ok (.plain p)
  | former f => .ok (.ofFormer f)
  | ruby | type => .error ⟨.unknownType, note⟩
  | other kind => .ok (.resourceOf (some kind) none)

end TypeName

/-! ## Evaluating a tree -/

/-- What a leaf denotes. -/
def Leaf.denote (note : α) : Leaf → Except (Fault α) Value
  | .name s | .string s => .ok (.string s)
  | .reference r => (TypeName.bare note (.ofLower r)).map .type
  | .integer n => .ok (.integer n)
  | .float x => .ok (.float x)
  | .regex p => .ok (.regex p)
  | .unbounded => .ok .unbounded
  | .boolean _ | .undefined => .error (.invalid note)

namespace Node

mutual

/-- What a node denotes that stands inside `depth` accesses.  Below `maxDepth` of them an access
    denotes nothing. -/
def denote (depth : Nat) : Node α → Except (Fault α) Value
  | leaf v a => v.denote a
  | array _ a => .error (.invalid a)
  | access target arguments a =>
    match target.reference? with
    | none => .error (.invalid target.note)
    | some name =>
      if maxDepth ≤ depth then .error (.invalid a)
      else do
        let values ← denoteAll (depth + 1) arguments
        return .type (← TypeName.apply a (.ofLower name) values)

/-- What arguments denote, from left to right. -/
def denoteAll (depth : Nat) : List (Node α) → Except (Fault α) (List (Argument α))
  | [] => .ok []
  | n :: ns => do
    let value ← denote depth n
    return ⟨value, n.note⟩ :: (← denoteAll depth ns)

end

/-- The type that an expression denotes.  A fault quotes what its node covers in the text; a value
    that is no type is blamed on the whole text. -/
def interpret (root : Node Span) (text : String) : Except Failure DataType :=
  match root.denote 0 with
  | .error fault => .error (.ofSpan text fault.cause fault.note)
  | .ok (.type t) => .ok t
  | .ok _ => .error (.ofWhole text none)

end Node

/-- The detail of a failure that a syntax error in a text causes. -/
def SyntaxError.detail (e : SyntaxError) (text : String) : String :=
  let p := Text.position text.toList e.span.start
  "(syntax error at " ++ toString p.line ++ ":" ++ toString p.column ++ ": " ++ e.message ++ ")"

/-- The type that a specification denotes. -/
def parse [PatternLanguage] (text : String) : Except Failure DataType :=
  match Node.ofText text with
  | .error e => .error (.ofWhole text (some (e.detail text)))
  | .ok none => .error (.ofWhole text none)
  | .ok (some root) => root.interpret text

end TypeExpr
