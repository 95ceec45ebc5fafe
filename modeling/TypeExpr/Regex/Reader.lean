import TypeExpr.Regex.Basic
import TypeExpr.Regex.Property
import TypeExpr.Text.Alphanumeric
import TypeExpr.Text.Trivia

/-!
# Reading a pattern

Turns the text of a regular expression into its tree, if it has one.  Reading goes from left to
right; the state is what is left of the text, whether blanks and comments count, and the names of
the groups so far, of which no two may be equal.

Groups in groups and classes in classes are read by recursion.  Every step takes a character at
least, so the length of the text is fuel enough; `read?` provides it.

What is kept of a pattern is what decides whether it is one: how deep it is, and whether it can
match what is no text.  Which characters a class has in it is read and forgotten.
-/

namespace TypeExpr.Regex

open Text (isBlank isAlphabetic isAlphanumeric dropTrivia)

/-- How far a pattern has been read. -/
structure ReadState where
  rest : List Char
  /-- Blanks and comments do not count. -/
  spaced : Bool
  /-- The names of groups, last one first. -/
  names : List (List Char)

/-- A part of reading, which may fail. -/
abbrev Reader := StateT ReadState Option

namespace Reader

/-! ## Characters -/

/-- No pattern begins like this. -/
def fail {α : Type} : Reader α := fun _ => none

/-- Goes on only if a condition holds. -/
def require (p : Prop) [Decidable p] : Reader Unit := if p then pure () else fail

/-- What is left of the text. -/
def rest : Reader (List Char) := return (← get).rest

/-- The next character, if there is one. -/
def peek? : Reader (Option Char) := return (← rest).head?

/-- The next character; there has to be one. -/
def peek : Reader Char := do
  match ← peek? with
  | some c => return c
  | none => fail

/-- Leaves a number of characters behind. -/
def bump (n : Nat) : Reader Unit := modify fun s => { s with rest := s.rest.drop n }

/-- Leaves blanks and comments behind, where they do not count. -/
def skip : Reader Unit :=
  modify fun s => if s.spaced then { s with rest := dropTrivia s.rest } else s

/-- Leaves a character behind and what does not count after it. -/
def step : Reader Unit := do
  bump 1
  skip

/-- Leaves a character behind and what does not count after it; something has to follow. -/
def stepInside : Reader Unit := do
  step
  let _ ← peek

/-- Takes a text if it is next. -/
def take? (text : String) : Reader Bool := do
  if text.toList.isPrefixOf (← rest) then
    bump text.length
    return true
  else return false

/-- Takes characters of a kind, `limit` at most, passing over what does not count between them. -/
def takeWhile (p : Char → Bool) : Nat → Reader (List Char)
  | 0 => return []
  | limit + 1 => do
    match ← peek? with
    | some c =>
      if p c then
        step
        return c :: (← takeWhile p limit)
      else return []
    | none => return []

/-- Takes all characters of a kind that are next. -/
def takeAll (p : Char → Bool) : Reader (List Char) := do takeWhile p (← rest).length

/-! ## Escapes -/

/-- What an escape, or a single character, stands for. -/
inductive Primitive where
  | char (c : Written)
  | dot
  | assertion
  | shorthand (negated : Bool)
  | property (known : Bool)

/-- A digit in hexadecimal. -/
def isHex (c : Char) : Bool :=
  ('0' ≤ c && c ≤ '9') || ('a' ≤ c && c ≤ 'f') || ('A' ≤ c && c ≤ 'F')

/-- The value of a digit in hexadecimal. -/
def hexValue (c : Char) : Nat :=
  if c ≤ '9' then c.toNat - '0'.toNat else c.toLower.toNat - 'a'.toNat + 10

/-- The character of a number in hexadecimal. -/
def hexChar (digits : List Char) : Reader Char := do
  let n := digits.foldl (fun n c => 16 * n + hexValue c) 0
  require (n.isValidChar)
  return Char.ofNat n

/-- Reads `\x`, `\u` or `\U` from the letter on: so many digits, or any number in braces. -/
def hexadecimal (digits : Nat) : Reader Primitive := do
  stepInside
  if (← peek) = '{' then
    step
    let ds ← takeAll isHex
    require (ds ≠ [] ∧ (← peek) = '}')
    step
    return .char ⟨← hexChar ds, false⟩
  else
    let ds ← takeWhile isHex digits
    require (ds.length = digits)
    return .char ⟨← hexChar ds, digits = 2⟩

/-- Reads `\p` or `\P` from the letter on: one letter, or a query in braces. -/
def property : Reader Primitive := do
  stepInside
  let c ← peek
  if c = '{' then
    step
    let query ← takeAll (· != '}')
    require ((← peek) = '}')
    bump 1
    return .property (isKnownQuery query)
  else
    require (c ≠ '\\')
    step
    return .property (isKnownProperty [c])

/-- Reads what may follow `\b`: a kind of word boundary in braces.  Braces that hold something else
    than a word are left alone, since they say how often to repeat. -/
def boundary : Reader Unit := do
  if (← peek?) = some '{' then
    let before ← get
    let isName (c : Char) : Bool := c.isAlpha || c == '-'
    stepInside
    if isName (← peek) then
      let name ← takeAll isName
      require ((← peek) = '}')
      require (String.ofList name ∈ ["start", "end", "start-half", "end-half"])
      bump 1
    else set before

/-- A character of ASCII that stands for itself behind a backslash: neither letter nor digit. -/
def isEscapable (c : Char) : Bool := c.toNat < 0x80 && !c.isAlphanum

/-- The control character that a letter stands for behind a backslash. -/
def control? : Char → Option Char
  | 'a' => some '\x07'
  | 't' => some '\t'
  | 'n' => some '\n'
  | 'v' => some '\x0b'
  | 'f' => some '\x0c'
  | 'r' => some '\r'
  | _ => none

/-- Reads an escape, beginning with its backslash. -/
def escape : Reader Primitive := do
  bump 1
  let c ← peek
  match c with
  | 'x' => hexadecimal 2
  | 'u' => hexadecimal 4
  | 'U' => hexadecimal 8
  | 'p' | 'P' => property
  | 'd' | 's' | 'w' => bump 1; return .shorthand false
  | 'D' | 'S' | 'W' => bump 1; return .shorthand true
  | 'A' | 'z' | 'B' | '<' | '>' => bump 1; return .assertion
  | 'b' => bump 1; boundary; return .assertion
  | _ =>
    match control? c with
    | some control => bump 1; return .char ⟨control, false⟩
    | none =>
      require (isEscapable c)
      bump 1
      return .char ⟨c, false⟩

/-! ## Classes -/

/-- The classes of ASCII that have names. -/
def namedClasses : List String :=
  ["alnum", "alpha", "ascii", "blank", "cntrl", "digit", "graph", "lower", "print", "punct",
   "space", "upper", "word", "xdigit"]

/-- A named class such as `[:alpha:]` or `[:^alpha:]` at the front of a text: is it a complement,
    and the rest of the text. -/
def named? (text : List Char) : Option (Bool × List Char) :=
  match text with
  | '[' :: ':' :: cs =>
    let negated := cs.head? = some '^'
    let body := if negated then cs.tail else cs
    let name := body.takeWhile (· != ':')
    match body.dropWhile (· != ':') with
    | ':' :: ']' :: after =>
      if namedClasses.contains (String.ofList name) then some (negated, after) else none
    | _ => none
  | _ => none

/-- One character of a class, or an escape. -/
def classPrimitive : Reader Primitive := do
  let c ← peek
  if c = '\\' then escape
  else
    bump 1
    return .char ⟨c, false⟩

/-- A primitive as a part of a class. -/
def atom : Primitive → Reader Class
  | .char c => return .atom (.char c)
  | .shorthand negated => return .atom (.shorthand negated)
  | .property known => return .atom (.property known)
  | .dot | .assertion => fail

/-- The character behind the next one, where a single mark may open a comment between them. -/
def second? : Reader (Option Char) := do
  let tail := (← rest).tail
  if !(← get).spaced then return tail.head?
  match tail.dropWhile isBlank with
  | '#' :: cs => return (cs.dropWhile isBlank).head? <|> tail.head?
  | cs => return cs.head? <|> tail.head?

/-- Reads a character, an escape, or a range from one character to another that is not before it.
    A hyphen makes no range in front of another hyphen or of the end of the class. -/
def classRange : Reader Class := do
  let first ← classPrimitive
  skip
  let c ← peek
  let next ← second?
  if c ≠ '-' ∨ next = some ']' ∨ next = some '-' then atom first
  else
    stepInside
    match first, ← classPrimitive with
    | .char a, .char b =>
      require (a.char ≤ b.char)
      return .atom (.range a b)
    | _, _ => fail

/-- The parts of a class side by side, given back to front. -/
def unite : List Class → Class
  | [c] => c
  | cs => .union cs.reverse

/-- The operands of a class so far, with one more. -/
def operate (left : Option Class) (right : Class) : Class :=
  match left with
  | some l => .operation l right
  | none => right

/-- The hyphens that a class begins with. -/
def hyphens : Nat → Reader (List Class)
  | 0 => return []
  | n + 1 => do
    if (← peek) = '-' then
      stepInside
      return .atom (.char ⟨'-', false⟩) :: (← hyphens n)
    else return []

/-- Reads the beginning of a class: is it a complement, and the hyphens or the closing bracket that
    stand for themselves there. -/
def classOpening : Reader (Bool × List Class) := do
  stepInside
  let negated := (← peek) = '^'
  if negated then stepInside
  let dashes ← hyphens (← rest).length
  if dashes.isEmpty && (← peek) == ']' then
    stepInside
    return (negated, [.atom (.char ⟨']', false⟩)])
  else return (negated, dashes)

/-- Reads a class from behind its beginning, where `left` is what an operation has to its left and
    `parts` are the parts read since, last one first. -/
def classBody : Nat → Option Class → List Class → Reader Class
  | 0, _, _ => fail
  | fuel + 1, left, parts => do
    skip
    match ← rest with
    | [] => fail
    | ']' :: _ =>
      bump 1
      return operate left (unite parts)
    | '&' :: '&' :: _ | '-' :: '-' :: _ | '~' :: '~' :: _ =>
      bump 2
      classBody fuel (some (operate left (unite parts))) []
    | '[' :: cs =>
      match named? ('[' :: cs) with
      | some (negated, after) =>
        modify fun s => { s with rest := after }
        classBody fuel left (.atom (.named negated) :: parts)
      | none =>
        let (negated, opening) ← classOpening
        let inside ← classBody fuel none opening
        classBody fuel left (.nested negated inside :: parts)
    | _ => classBody fuel left ((← classRange) :: parts)

/-- Reads a class from its opening bracket on. -/
def bracketed : Reader Regex := do
  let (negated, opening) ← classOpening
  return .bracketed negated (← classBody ((← rest).length + 1) none opening)

/-! ## Repetitions -/

/-- Reads a number in decimal that fits 32 bits, and the blanks around it. -/
def decimal : Reader Nat := do
  modify fun s => { s with rest := s.rest.dropWhile isBlank }
  let ds ← takeAll Char.isDigit
  modify fun s => { s with rest := s.rest.dropWhile isBlank }
  skip
  let n := ds.foldl (fun n c => 10 * n + (c.toNat - '0'.toNat)) 0
  require (ds ≠ [] ∧ n < UInt32.size)
  return n

/-- Reads how often to repeat, in braces: a least number, and perhaps a most one not below it. -/
def counted : Reader Unit := do
  stepInside
  let least ← decimal
  if (← peek) = ',' then
    stepInside
    if (← peek) ≠ '}' then
      let most ← decimal
      require (least ≤ most)
  require ((← peek) = '}')
  step

/-- The parts of a pattern so far, with the last one repeated.  Flags cannot be repeated. -/
def repeatLast : List Regex → Reader (List Regex)
  | [] | .flags _ :: _ => fail
  | r :: rs => return .repetition r :: rs

/-! ## Groups -/

/-- Reads the name of a group up to the angle that closes it. -/
def groupName : Reader Unit := do
  let name := (← rest).takeWhile (· != '>')
  bump name.length
  require ((← peek) = '>')
  bump 1
  match name with
  | [] => fail
  | c :: cs =>
    require (c = '_' ∨ isAlphabetic c)
    require (cs.all fun c => c == '_' || c == '.' || c == '[' || c == ']' || isAlphanumeric c)
    require (name ∉ (← get).names)
    modify fun s => { s with names := name :: s.names }

/-- The flags that some characters switch on, or off behind a minus sign, if they do. -/
def flags? (cs : List Char) : Option Flags :=
  let value (c : Char) : Option Bool :=
    if c ∈ cs.takeWhile (· != '-') then some true
    else if c ∈ cs then some false
    else none
  if cs.Nodup ∧ cs.getLast? ≠ some '-' ∧ cs.all "imsUuRx-".toList.contains then
    some ⟨value 'x', value 'u'⟩
  else none

/-- How a group begins. -/
inductive Opening where
  /-- It only sets flags, and has ended already. -/
  | setting (change : Flags)
  /-- It has something inside. -/
  | group (change : Flags)

/-- Reads the beginning of a group, from its parenthesis to where its inside begins. -/
def opening : Reader Opening := do
  step
  let ahead := ["?=", "?!", "?<=", "?<!"]
  let text ← rest
  require (ahead.all fun a => !a.toList.isPrefixOf text)
  if (← take? "?P<") || (← take? "?<") then
    groupName
    return .group ⟨none, none⟩
  else if ← take? "?" then
    let marks := (← rest).takeWhile fun c => c != ':' && c != ')'
    bump marks.length
    let closing ← peek
    bump 1
    match flags? marks with
    | none => fail
    | some change =>
      if closing = ')' then
        require (marks ≠ [])
        return .setting change
      else return .group change
  else return .group ⟨none, none⟩

/-! ## Patterns -/

/-- Some parts, given back to front, one after the other. -/
def concatenate : List Regex → Regex
  | [] => .empty
  | [r] => r
  | rs => .concatenation rs.reverse

/-- Some choices, given back to front. -/
def choose : List Regex → Regex
  | [r] => r
  | rs => .alternation rs.reverse

/-- A primitive as a pattern. -/
def primitive : Primitive → Regex
  | .char c => .char c
  | .dot => .dot
  | .assertion => .assertion
  | .shorthand negated => .shorthand negated
  | .property known => .property known

/-- Reads a pattern up to the parenthesis that closes its group, or to the end of the text.
    `choices` are the alternatives before the present one and `parts` the parts of that, in both
    cases last one first. -/
def pattern : Nat → List Regex → List Regex → Reader Regex
  | 0, _, _ => fail
  | fuel + 1, choices, parts => do
    skip
    match ← peek? with
    | none | some ')' => return choose (concatenate parts :: choices)
    | some '|' =>
      bump 1
      pattern fuel (concatenate parts :: choices) []
    | some '(' =>
      match ← opening with
      | .setting change =>
        modify fun s => { s with spaced := change.spaced.getD s.spaced }
        pattern fuel choices (.flags change :: parts)
      | .group change =>
        let spaced := (← get).spaced
        modify fun s => { s with spaced := change.spaced.getD spaced }
        let inside ← pattern fuel [] []
        require ((← peek) = ')')
        modify fun s => { s with spaced := spaced }
        bump 1
        pattern fuel choices (.group change inside :: parts)
    | some '[' => pattern fuel choices ((← bracketed) :: parts)
    | some '{' =>
      let repeated ← repeatLast parts
      counted
      let _ ← take? "?"
      pattern fuel choices repeated
    | some c =>
      if c = '?' ∨ c = '*' ∨ c = '+' then
        let repeated ← repeatLast parts
        bump 1
        let _ ← take? "?"
        pattern fuel choices repeated
      else if c = '\\' then pattern fuel choices (primitive (← escape) :: parts)
      else
        bump 1
        let part : Regex := if c = '.' then .dot
          else if c = '^' ∨ c = '$' then .assertion
          else .char ⟨c, false⟩
        pattern fuel choices (part :: parts)

end Reader

/-- The pattern that a text writes, if it writes one. -/
def read? (text : List Char) : Option Regex :=
  match Reader.pattern (text.length + 1) [] [] ⟨text, false, []⟩ with
  | some (r, ⟨[], _, _⟩) => some r
  | _ => none

end TypeExpr.Regex
