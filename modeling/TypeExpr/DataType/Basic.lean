import TypeExpr.Double
import TypeExpr.TypeName

/-!
# Data types

What a specification denotes: numbers with bounds, texts that match patterns or come from a list,
collections, catalogue entries such as classes and resources, and unions.  Values of `DataType`
can be compared, written out and used as keys; they keep no trace of the text they came from.
-/

namespace TypeExpr

/-- A kind of resource, and perhaps the title of one resource of that kind. -/
structure ResourceRef where
  typeName : String
  title : Option String
  deriving DecidableEq, Hashable

/-- A data type. -/
inductive DataType where
  | plain (type : Plain)
  | integer (min max : Option Int64)
  | float (min max : Option Double)
  | pattern (patterns : List String)
  | regexp (pattern : Option String)
  | array (element : DataType)
  | hash (key value : DataType)
  | classes (name : Option String)
  | resource (reference : Option ResourceRef)
  | enum (values : List String)
  | variant (types : List DataType)

namespace DataType

/-- The name of the kind of type it is. -/
def kindName : DataType → String
  | plain p => p.title
  | integer _ _ => Former.integer.title
  | float _ _ => Former.float.title
  | pattern _ => Former.pattern.title
  | regexp _ => Former.regexp.title
  | array _ => Former.array.title
  | hash _ _ => Former.hash.title
  | classes _ => Former.classes.title
  | resource _ => Former.resource.title
  | enum _ => Former.enum.title
  | variant _ => Former.variant.title

/-- Elements, keys and values of collections have to be of such a type: any but `Undef`. -/
def isStructural : DataType → Bool
  | plain .undef => false
  | _ => true

/-! ## Making types -/

/-- A name in lower case. -/
def lowerName (name : String) : String := String.ofList (Text.lower name.toList)

/-- The class of a name, or any class.  The names of classes do not depend on case. -/
def classOf (name : Option String) : DataType := classes (name.map lowerName)

/-- The resources of a kind, or the one among them that has a title, or any resource.  The names of
    kinds do not depend on case; without one a title says nothing. -/
def resourceOf (typeName title : Option String) : DataType :=
  resource (typeName.map fun t => ⟨lowerName t, title⟩)

/-- A hash whose keys can be any literal. -/
def hashOf (value : DataType) : DataType := hash (plain .literal) value

/-- The type of a parameterised name that stands without parameters. -/
def ofFormer : Former → DataType
  | .integer => integer none none
  | .float => float none none
  | .enum => enum []
  | .pattern => pattern []
  | .regexp => regexp none
  | .array => array (plain .data)
  | .hash => hashOf (plain .data)
  | .classes => classes none
  | .resource => resource none
  | .variant => variant []

end DataType

end TypeExpr
