import TypeExpr.DataType.Basic
import TypeExpr.Decimal.Layout
import TypeExpr.Text.Quoted
import TypeExpr.Token.Word

/-!
# The canonical text of a type

Every type is written as a specification of itself.  Open bounds are `default`, strings are in
apostrophes, and a name stands without quotes exactly if it would be read as the same name: the name
of a class if it is a plain word and no keyword, the kind of a resource if it can be capitalised to
a reference that is not reserved.
-/

namespace TypeExpr

/-- In a specification a bound keeps its decimal place, so that it is read as a decimal number. -/
def canonicalNotation : DecimalNotation := ⟨.up, fun order => -4 ≤ order && order < 16, true, false⟩

/-- The words that are not read as names. -/
def keywords : List String := ["default", "true", "false", "undef"]

/-- The text is one word of the kind, without `::` in front. -/
def WordKind.isPlain (k : WordKind) (cs : List Char) : Bool :=
  cs.head? != some ':' && k.split? cs == some (cs, [])

/-- The segments that a reference has in lower case. -/
def WordKind.lowerReference : WordKind where
  starts := isLowerLetter
  inside c := isLowerLetter c || isDigitOrLine c

/-- The name of a class as an argument. -/
def nameArgument (name : String) : String :=
  if WordKind.name.isPlain name.toList && !keywords.contains name then name else Text.quote name

/-- The reference that is read as the given kind of resource, if there is one. -/
def asReference? (typeName : String) : Option String :=
  if WordKind.lowerReference.isPlain typeName.toList && !(TypeName.ofLower typeName).isReserved then
    some (String.ofList (Text.capitalize typeName.toList))
  else none

/-- A name with arguments in brackets. -/
def applied (name : String) (arguments : List String) : String :=
  name ++ "[" ++ ", ".intercalate arguments ++ "]"

/-- A bound, or the word for none. -/
def boundText {α : Type} (text : α → String) : Option α → String
  | some b => text b
  | none => "default"

/-- A resource type as text. -/
def ResourceRef.render (r : ResourceRef) : String :=
  match asReference? r.typeName, r.title with
  | some reference, none => reference
  | some reference, some title => applied reference [Text.quote title]
  | none, none => applied Former.resource.title [Text.quote r.typeName]
  | none, some title => applied Former.resource.title [Text.quote r.typeName, Text.quote title]

namespace DataType

mutual

/-- The canonical text of a type. -/
def render : DataType → String
  | plain p => p.title
  | integer none none => Former.integer.title
  | integer min max =>
    let bound := boundText fun n : Int64 => toString n.toInt
    applied Former.integer.title [bound min, bound max]
  | float none none => Former.float.title
  | float min max =>
    let bound := boundText (Double.text canonicalNotation)
    applied Former.float.title [bound min, bound max]
  | pattern [] => Former.pattern.title
  | pattern patterns => applied Former.pattern.title (patterns.map Text.quote)
  | regexp none => Former.regexp.title
  | regexp (some p) => applied Former.regexp.title [Text.quote p]
  | array element => applied Former.array.title [element.render]
  | hash key value => applied Former.hash.title [key.render, value.render]
  | classes none => Former.classes.title
  | classes (some name) => applied Former.classes.title [nameArgument name]
  | resource none => Former.resource.title
  | resource (some r) => r.render
  | enum [] => Former.enum.title
  | enum values => applied Former.enum.title (values.map Text.quote)
  | variant [] => Former.variant.title
  | variant (t :: ts) => applied Former.variant.title (t.render :: renderAll ts)

/-- The canonical texts of types. -/
def renderAll : List DataType → List String
  | [] => []
  | t :: ts => t.render :: renderAll ts

end

theorem renderAll_eq_map (ts : List DataType) : renderAll ts = ts.map render := by
  induction ts with
  | nil => rfl
  | cons t ts ih => simp [renderAll, ih]

end DataType

end TypeExpr
