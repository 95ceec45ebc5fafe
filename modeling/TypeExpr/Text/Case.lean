import TypeExpr.Text.CaseTable

/-!
# Upper and lower case

Names are compared in lower case and displayed with a capital.  Both maps may lengthen a text: the
dotted capital I becomes two characters, and the sharp s has a capital of two.  One rule looks
beyond a character: a capital sigma at the end of a word becomes the final sigma.  It is at the end
of a word if, going left over ignorable characters, a cased one comes first, and going right none
does.
-/

namespace TypeExpr.Text

/-- Going over ignorable characters, a cased one comes first. -/
def reachesCased (cs : List Char) : Bool :=
  match cs.dropWhile caseIgnorableRanges.has with
  | c :: _ => casedRanges.has c
  | [] => false

/-- The lower-case form of a character on its own. -/
def lowerChar (c : Char) : List Char :=
  if c = 'İ' then ['i', '\u0307'] else [CaseRow.apply lowerRows c]

/-- The lower-case form of a text, where `before` holds the characters already passed, last one
    first. -/
def lowerAfter (before : List Char) : List Char → List Char
  | [] => []
  | c :: cs =>
    (if c = 'Σ' then [if reachesCased before && !reachesCased cs then 'ς' else 'σ']
      else lowerChar c) ++ lowerAfter (c :: before) cs

/-- The lower-case form of a text. -/
def lower (cs : List Char) : List Char := lowerAfter [] cs

/-- The upper-case form of a character. -/
def upperChar (c : Char) : List Char :=
  match upperExpansions.lookup c.toNat with
  | some ns => ns.map Char.ofNat
  | none => [CaseRow.apply upperRows c]

/-- A qualified name with a capital at the start of each segment; `atStart` tells whether a segment
    starts here. -/
def capitalizeFrom (atStart : Bool) : List Char → List Char
  | [] => []
  | [c] => if atStart then upperChar c else [c]
  | c :: d :: cs =>
    if c = ':' ∧ d = ':' then c :: d :: capitalizeFrom true cs
    else (if atStart then upperChar c else [c]) ++ capitalizeFrom false (d :: cs)

/-- A qualified name with a capital at the start of each of its `::` segments. -/
def capitalize (cs : List Char) : List Char := capitalizeFrom true cs

example : lower "MyThing".toList = "mything".toList := by decide +kernel
example : lower "ΟΔΥΣΣΕΥΣ.".toList = "οδυσσευς.".toList := by decide +kernel
example : capitalize "apache::vhost".toList = "Apache::Vhost".toList := by decide +kernel
example : capitalize "ßß::a:b".toList = "SSß::A:b".toList := by decide +kernel

end TypeExpr.Text
