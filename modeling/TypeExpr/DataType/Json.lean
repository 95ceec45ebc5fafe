import TypeExpr.DataType.Basic
import TypeExpr.Decimal.Layout
import TypeExpr.Text.Escape

/-!
# Types as JSON

A type is an object whose first field, `kind`, names its kind; the other fields hold its parameters
in a fixed order.  What is open or absent is `null`, and so are bounds that JSON has no numbers for.
Documents are written on one line, or over several with two spaces per level.

Numbers are written with as many digits as it takes to read them back.  A double that is whole has a
decimal place, so that it is not taken for an integer.
-/

namespace TypeExpr

/-- In JSON a tie goes to the even digit, and a positive exponent has a sign. -/
def jsonNotation : DecimalNotation := ⟨.even, fun order => -5 ≤ order && order < 16, true, true⟩

/-- A JSON document, with numbers as written and fields in order. -/
inductive Document where
  | null
  | number (digits : String)
  | text (value : String)
  | list (items : List Document)
  | object (fields : List (String × Document))

namespace Document

mutual

/-- The document on one line, without blanks. -/
def compact : Document → String
  | null => "null"
  | number ds => ds
  | text s => Text.jsonText s
  | list items => "[" ++ ",".intercalate (compactAll items) ++ "]"
  | object fields => "\x7b" ++ ",".intercalate (compactFields fields) ++ "\x7d"

/-- The items of a list. -/
def compactAll : List Document → List String
  | [] => []
  | d :: ds => d.compact :: compactAll ds

/-- The fields of an object. -/
def compactFields : List (String × Document) → List String
  | [] => []
  | (name, d) :: fs => (Text.jsonText name ++ ":" ++ d.compact) :: compactFields fs

end

/-- A line break and the blanks in front of a line at a depth. -/
def lineBreak (depth : Nat) : String := "\n" ++ "".pushn ' ' (2 * depth)

/-- Entries between brackets, each on a line of its own; without entries the brackets touch. -/
def block (depth : Nat) (opening closing : String) (entries : List String) : String :=
  if entries = [] then opening ++ closing
  else opening ++ lineBreak (depth + 1) ++
    ("," ++ lineBreak (depth + 1)).intercalate entries ++ lineBreak depth ++ closing

mutual

/-- The document over several lines, where the first is at the given depth. -/
def pretty (depth : Nat) : Document → String
  | null => "null"
  | number ds => ds
  | text s => Text.jsonText s
  | list items => block depth "[" "]" (prettyAll (depth + 1) items)
  | object fields => block depth "\x7b" "\x7d" (prettyFields (depth + 1) fields)

/-- The items of a list. -/
def prettyAll (depth : Nat) : List Document → List String
  | [] => []
  | d :: ds => d.pretty depth :: prettyAll depth ds

/-- The fields of an object. -/
def prettyFields (depth : Nat) : List (String × Document) → List String
  | [] => []
  | (name, d) :: fs => (Text.jsonText name ++ ": " ++ d.pretty depth) :: prettyFields depth fs

end

/-- The document of what may be absent. -/
def ofOption {α : Type} (document : α → Document) : Option α → Document
  | some a => document a
  | none => null

/-- The document of an integer. -/
def ofInt64 (n : Int64) : Document := number (toString n.toInt)

/-- The document of a double; only finite ones are numbers. -/
def ofDouble (x : Double) : Document := if x.isFinite then number (x.text jsonNotation) else null

end Document

namespace DataType

open Document (ofOption ofInt64 ofDouble)

mutual

/-- The type as a document. -/
def document : DataType → Document
  | plain p => .object [("kind", .text p.title)]
  | integer min max => .object
      [("kind", .text "Integer"), ("min", ofOption ofInt64 min), ("max", ofOption ofInt64 max)]
  | float min max => .object
      [("kind", .text "Float"), ("min", ofOption ofDouble min), ("max", ofOption ofDouble max)]
  | pattern patterns => .object
      [("kind", .text "Pattern"), ("patterns", .list (patterns.map .text))]
  | regexp p => .object [("kind", .text "Regexp"), ("pattern", ofOption .text p)]
  | array element => .object [("kind", .text "Array"), ("element", element.document)]
  | hash key value => .object
      [("kind", .text "Hash"), ("key", key.document), ("value", value.document)]
  | classes name => .object [("kind", .text "Class"), ("name", ofOption .text name)]
  | resource reference => .object
      [("kind", .text "Resource"), ("reference", ofOption (fun r => .object
        [("type_name", .text r.typeName), ("title", ofOption .text r.title)]) reference)]
  | enum values => .object [("kind", .text "Enum"), ("values", .list (values.map .text))]
  | variant types => .object [("kind", .text "Variant"), ("types", .list (documents types))]

/-- Types as documents. -/
def documents : List DataType → List Document
  | [] => []
  | t :: ts => t.document :: documents ts

end

/-- The type as JSON on one line. -/
def toJson (t : DataType) : String := t.document.compact

/-- The type as JSON over several lines. -/
def toPrettyJson (t : DataType) : String := t.document.pretty 0

end DataType

end TypeExpr
