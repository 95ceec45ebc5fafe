import TypeExpr.DataType.Basic
import TypeExpr.DataType.Render
import TypeExpr.Text.Escape

/-!
# Types as outlines

An outline shows how a value is built: the constructor, and its fields by name.  It is written on
one line, or over several with four spaces per level and a comma after every entry.

A type has its fields between braces, a list has its items between brackets, and what may be absent
stands between parentheses if it is there.
-/

namespace TypeExpr

/-- How a value is built. -/
inductive Outline where
  /-- A value without parts, or a constructor without fields. -/
  | atom (text : String)
  | list (items : List Outline)
  /-- A constructor with an unnamed part. -/
  | wrapped (name : String) (part : Outline)
  /-- A constructor with named fields. -/
  | record (name : String) (fields : List (String × Outline))

namespace Outline

mutual

/-- The outline on one line. -/
def line : Outline → String
  | atom s => s
  | list items => "[" ++ ", ".intercalate (lineAll items) ++ "]"
  | wrapped name part => name ++ "(" ++ part.line ++ ")"
  | record name fields => name ++ " \x7b " ++ ", ".intercalate (lineFields fields) ++ " \x7d"

/-- The items of a list. -/
def lineAll : List Outline → List String
  | [] => []
  | o :: os => o.line :: lineAll os

/-- The fields of a record. -/
def lineFields : List (String × Outline) → List String
  | [] => []
  | (name, o) :: fs => (name ++ ": " ++ o.line) :: lineFields fs

end

/-- Entries between brackets, each on a line of its own with a comma after it. -/
def block (depth : Nat) (opening closing : String) (entries : List String) : String :=
  opening ++ "\n" ++ "".intercalate (entries.map ("".pushn ' ' (4 * (depth + 1)) ++ · ++ ",\n")) ++
    "".pushn ' ' (4 * depth) ++ closing

mutual

/-- The outline over several lines, where the first is at the given depth. -/
def pretty (depth : Nat) : Outline → String
  | atom s => s
  | list [] => "[]"
  | list (o :: os) => block depth "[" "]" (o.pretty (depth + 1) :: prettyAll (depth + 1) os)
  | wrapped name part => name ++ block depth "(" ")" [part.pretty (depth + 1)]
  | record name fields => name ++ block depth " \x7b" "\x7d" (prettyFields (depth + 1) fields)

/-- The items of a list. -/
def prettyAll (depth : Nat) : List Outline → List String
  | [] => []
  | o :: os => o.pretty depth :: prettyAll depth os

/-- The fields of a record. -/
def prettyFields (depth : Nat) : List (String × Outline) → List String
  | [] => []
  | (name, o) :: fs => (name ++ ": " ++ o.pretty depth) :: prettyFields depth fs

end

/-- The outline of what may be absent. -/
def ofOption {α : Type} (outline : α → Outline) : Option α → Outline
  | some a => wrapped "Some" (outline a)
  | none => atom "None"

/-- The outline of a text. -/
def ofText (s : String) : Outline := atom (Text.showText s)

end Outline

namespace DataType

open Outline (ofOption ofText)

mutual

/-- The type as an outline. -/
def outline : DataType → Outline
  | plain p => .atom p.title
  | integer min max =>
    let bound := ofOption fun n : Int64 => .atom (toString n.toInt)
    .record "Integer" [("min", bound min), ("max", bound max)]
  | float min max =>
    let bound := ofOption fun x : Double => .atom (x.text canonicalNotation)
    .record "Float" [("min", bound min), ("max", bound max)]
  | pattern patterns => .record "Pattern" [("patterns", .list (patterns.map ofText))]
  | regexp p => .record "Regexp" [("pattern", ofOption ofText p)]
  | array element => .record "Array" [("element", element.outline)]
  | hash key value => .record "Hash" [("key", key.outline), ("value", value.outline)]
  | classes name => .record "Class" [("name", ofOption ofText name)]
  | resource reference => .record "Resource" [("reference", ofOption (fun r => .record "ResourceRef"
      [("type_name", ofText r.typeName), ("title", ofOption ofText r.title)]) reference)]
  | enum values => .record "Enum" [("values", .list (values.map ofText))]
  | variant types => .record "Variant" [("types", .list (outlines types))]

/-- Types as outlines. -/
def outlines : List DataType → List Outline
  | [] => []
  | t :: ts => t.outline :: outlines ts

end

end DataType

end TypeExpr
