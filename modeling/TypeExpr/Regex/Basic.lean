/-!
# Patterns

The tree of a regular expression, as far as it decides whether the expression is one: which
characters a class holds, or how often something repeats, is not kept.  `height` counts the levels
of the tree, of which there may only be so many.

A pattern is read as characters or, where the flag `u` is switched off, as bytes.  Read as bytes it
must not be able to match what is no character of UTF-8: `isLegal` follows the flag through the
pattern and looks at every part in the light of it.
-/

namespace TypeExpr

namespace Regex

/-- A character as a pattern writes it: itself, or escaped in some way. -/
structure Written where
  char : Char
  /-- Written as `\x` and two digits, which is a byte where a pattern is read as bytes. -/
  asByte : Bool

/-- A part of a class that has no parts of its own. -/
inductive Atom where
  | char (c : Written)
  | range (first last : Written)
  /-- One of `\d`, `\s` and `\w`, or the complement of one. -/
  | shorthand (negated : Bool)
  /-- A named class of ASCII such as `[:alpha:]`, or the complement of one. -/
  | named (negated : Bool)
  /-- A property of characters, or its complement; is it a known one? -/
  | property (known : Bool)

/-- What stands between the brackets of a class. -/
inductive Class where
  | atom (a : Atom)
  /-- Several parts, or none, side by side. -/
  | union (parts : List Class)
  /-- A class in a class. -/
  | nested (negated : Bool) (inside : Class)
  /-- An intersection or a difference. -/
  | operation (left right : Class)

/-- The flags that change how a pattern is read, as far as they are switched on or off. -/
structure Flags where
  /-- Blanks and comments do not count. -/
  spaced : Option Bool
  /-- The pattern is read as characters. -/
  unicode : Option Bool

end Regex

/-- A regular expression. -/
inductive Regex where
  | empty
  | flags (change : Regex.Flags)
  | char (c : Regex.Written)
  /-- The full stop, for any character. -/
  | dot
  /-- A condition on a place, such as `^` or `\b`. -/
  | assertion
  | shorthand (negated : Bool)
  | property (known : Bool)
  | bracketed (negated : Bool) (inside : Regex.Class)
  | repetition (repeated : Regex)
  | group (change : Regex.Flags) (inside : Regex)
  | alternation (choices : List Regex)
  | concatenation (parts : List Regex)

namespace Regex

/-! ## Height -/

mutual

/-- The levels of a class below its brackets. -/
def Class.height : Class → Nat
  | .atom _ => 0
  | .union [] => 0
  | .union (c :: cs) => 1 + max c.height (Class.heights cs)
  | .nested _ c => 1 + c.height
  | .operation l r => 1 + max l.height r.height

/-- The levels of the highest of some classes. -/
def Class.heights : List Class → Nat
  | [] => 0
  | c :: cs => max c.height (Class.heights cs)

end

mutual

/-- The levels of a pattern. -/
def height : Regex → Nat
  | bracketed _ c => 1 + c.height
  | repetition r => 1 + r.height
  | group _ r => 1 + r.height
  | alternation rs => 1 + heights rs
  | concatenation rs => 1 + heights rs
  | _ => 0

/-- The levels of the highest of some patterns. -/
def heights : List Regex → Nat
  | [] => 0
  | r :: rs => max r.height (heights rs)

end

/-! ## Characters and bytes -/

/-- A written character that can be matched where a pattern is read as bytes: it stands for a
    character all the same, and not for a byte that is none. -/
def Written.isLegal (unicode : Bool) (c : Written) : Bool :=
  unicode || !c.asByte || c.char.toNat < 0x80

/-- A written character that can stand in a class: where a pattern is read as bytes, only ASCII. -/
def Written.isLegalInClass (unicode : Bool) (c : Written) : Bool :=
  unicode || c.char.toNat < 0x80

/-- A part of a class that can be matched. -/
def Atom.isLegal (unicode : Bool) : Atom → Bool
  | char c => c.isLegalInClass unicode
  | range a b => a.isLegalInClass unicode && b.isLegalInClass unicode
  | shorthand negated => unicode || !negated
  | named negated => unicode || !negated
  | property known => unicode && known

mutual

/-- A class that can be matched.  As bytes, a complement always has bytes that are no characters. -/
def Class.isLegal (unicode : Bool) : Class → Bool
  | .atom a => a.isLegal unicode
  | .union cs => Class.areLegal unicode cs
  | .nested negated c => c.isLegal unicode && (unicode || !negated)
  | .operation l r => l.isLegal unicode && r.isLegal unicode

/-- Classes that can all be matched. -/
def Class.areLegal (unicode : Bool) : List Class → Bool
  | [] => true
  | c :: cs => c.isLegal unicode && Class.areLegal unicode cs

end

mutual

/-- Goes through a pattern with the flag `u` as it stands before it; gives the flag as it stands
    behind it, or nothing if the pattern can match what is no character. -/
def unicodeAfter? (unicode : Bool) : Regex → Option Bool
  | flags f => some (f.unicode.getD unicode)
  | char c => if c.isLegal unicode then some unicode else none
  | dot => if unicode then some unicode else none
  | shorthand negated => if unicode || !negated then some unicode else none
  | property known => if unicode && known then some unicode else none
  | bracketed negated c =>
    if c.isLegal unicode && (unicode || !negated) then some unicode else none
  | repetition r => unicodeAfter? unicode r
  | group f r => (unicodeAfter? (f.unicode.getD unicode) r).map fun _ => unicode
  | alternation rs => unicodeAfterAll? unicode rs
  | concatenation rs => unicodeAfterAll? unicode rs
  | empty | assertion => some unicode

/-- Goes through patterns one after the other. -/
def unicodeAfterAll? (unicode : Bool) : List Regex → Option Bool
  | [] => some unicode
  | r :: rs => (unicodeAfter? unicode r).bind fun u => unicodeAfterAll? u rs

end

/-- The pattern can match characters only. -/
def isLegal (r : Regex) : Bool := (r.unicodeAfter? true).isSome

end Regex

end TypeExpr
