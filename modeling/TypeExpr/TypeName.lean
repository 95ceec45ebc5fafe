import TypeExpr.Text.Case

/-!
# Type names

The names that a reference can have.  Twenty-one are reserved; every other name is that of a kind of
resource.  Names are looked up in lower case.

Names that form types from arguments are told apart by one inductive type (`Former`), and so are
those that stand for a type without arguments; everything that is asked of a name, such as its title
or how many arguments it takes, is a function on these.
-/

namespace TypeExpr

/-- The types that take no parameters. -/
inductive Plain where
  | numeric | string | boolean | data | literal | undef | object | collection | catalogEntry
  deriving DecidableEq, Hashable

/-- The types that take parameters. -/
inductive Former where
  | integer | float | enum | pattern | regexp | array | hash | classes | resource | variant
  deriving DecidableEq

/-- What a name refers to. -/
inductive TypeName where
  | plain (type : Plain)
  | former (type : Former)
  /-- Reserved, and without a type behind it. -/
  | ruby
  /-- Reserved, and without a type behind it. -/
  | type
  /-- A kind of resource. -/
  | other (name : String)
  deriving DecidableEq

/-- How the name is written. -/
def Plain.title : Plain → String
  | numeric => "Numeric"
  | string => "String"
  | boolean => "Boolean"
  | data => "Data"
  | literal => "Literal"
  | undef => "Undef"
  | object => "Object"
  | collection => "Collection"
  | catalogEntry => "CatalogEntry"

/-- How the name is written. -/
def Former.title : Former → String
  | integer => "Integer"
  | float => "Float"
  | enum => "Enum"
  | pattern => "Pattern"
  | regexp => "Regexp"
  | array => "Array"
  | hash => "Hash"
  | classes => "Class"
  | resource => "Resource"
  | variant => "Variant"

namespace TypeName

/-- What a name in lower case refers to. -/
def ofLower : String → TypeName
  | "integer" => former .integer
  | "float" => former .float
  | "numeric" => plain .numeric
  | "string" => plain .string
  | "enum" => former .enum
  | "boolean" => plain .boolean
  | "pattern" => former .pattern
  | "regexp" => former .regexp
  | "data" => plain .data
  | "array" => former .array
  | "hash" => former .hash
  | "class" => former .classes
  | "resource" => former .resource
  | "collection" => plain .collection
  | "literal" => plain .literal
  | "catalogentry" => plain .catalogEntry
  | "undef" => plain .undef
  | "object" => plain .object
  | "variant" => former .variant
  | "ruby" => ruby
  | "type" => type
  | name => other name

/-- The name is not that of a kind of resource. -/
def isReserved : TypeName → Bool
  | other _ => false
  | _ => true

/-- How the name is written. -/
def title : TypeName → String
  | plain p => p.title
  | former f => f.title
  | ruby => "Ruby"
  | type => "Type"
  | other name => String.ofList (Text.capitalize name.toList)

end TypeName

end TypeExpr
