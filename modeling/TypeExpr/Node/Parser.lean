import TypeExpr.Node.Basic
import TypeExpr.Text.Case
import TypeExpr.Token.Lexer

/-!
# From tokens to an expression

The grammar of specifications:

    spec     := expr
    expr     := primary ('[' args ']')*
    primary  := word | literal | '[' args ']'
    args     := (expr (',' expr)* ','?)?

Reading goes token by token, with a stack of the brackets that are open.  Either a value may begin
where we are (`State.wanting`), or one is complete (`State.holding`) and may be applied, closed off
or followed by another.  In each state each token has at most one meaning, so an error stands at
the first token that no specification has there.  No more than `maxDepth` brackets may be open at
once.
-/

namespace TypeExpr

/-- How many brackets may be open at once. -/
def maxDepth : Nat := 256

/-- A word without the `::` before its first segment. -/
def dropRoot : List Char → List Char
  | ':' :: ':' :: cs => cs
  | cs => cs

/-- The leaf that a token stands for, unless it is a mark.  The words for the undefined value, the
    open bound and the truth values are themselves only without a leading `::`. -/
def Token.leaf? : Token → Option Leaf
  | .name "default" => some .unbounded
  | .name "true" => some (.boolean true)
  | .name "false" => some (.boolean false)
  | .name "undef" => some .undefined
  | .name n => some (.name (String.ofList (dropRoot n.toList)))
  | .reference r => some (.reference (String.ofList (Text.lower (dropRoot r.toList))))
  | .string s => some (.string s)
  | .integer n => some (.integer n)
  | .float x => some (.float x)
  | .regex p => some (.regex p)
  | .openBracket | .closeBracket | .comma => none

namespace Node

/-- An open bracket: the value it was opened behind, if any, its own span, and the values read in
    it, last one first. -/
structure Frame where
  target : Option (Node Span)
  opened : Span
  items : List (Node Span)

/-- The bracket with one more value in it. -/
def Frame.push (f : Frame) (value : Node Span) : Frame := { f with items := value :: f.items }

/-- What a bracket becomes when it is closed: an access if it was opened behind a value, and else an
    array literal. -/
def Frame.close (f : Frame) (closing : Span) : Node Span :=
  match f.target with
  | some t => .access t f.items.reverse (t.note.merge closing)
  | none => .array f.items.reverse (f.opened.merge closing)

/-- How far an expression has been read; the innermost open bracket comes first. -/
inductive State where
  /-- A value may begin here. -/
  | wanting (frames : List Frame)
  /-- A value is complete. -/
  | holding (value : Node Span) (frames : List Frame)

/-- Opens a bracket, if one more may be open. -/
def State.enter (target : Option (Node Span)) (opened : Span) (frames : List Frame) :
    Except SyntaxError State :=
  if maxDepth ≤ frames.length then .error ⟨.nestedTooDeeply, opened⟩
  else .ok (.wanting (⟨target, opened, []⟩ :: frames))

/-- The state after one more token. -/
def State.feed : State → Lexeme → Except SyntaxError State
  | .wanting frames, ⟨token, span⟩ =>
    match token.leaf?, token, frames with
    | some value, _, _ => .ok (.holding (.leaf value span) frames)
    | none, .openBracket, _ => enter none span frames
    | none, .closeBracket, f :: fs => .ok (.holding (f.close span) fs)
    | none, _, _ => .error ⟨.valueExpected (some token), span⟩
  | .holding value frames, ⟨token, span⟩ =>
    match token, frames with
    | .openBracket, _ => enter (some value) span frames
    | _, [] => .error ⟨.trailing token, span⟩
    | .closeBracket, f :: fs => .ok (.holding ((f.push value).close span) fs)
    | .comma, f :: fs => .ok (.wanting (f.push value :: fs))
    | _, _ :: _ => .error ⟨.separatorExpected (some token), span⟩

/-- The expression that is complete when the tokens end, at offset `stop`. -/
def State.finish (stop : Nat) : State → Except SyntaxError (Node Span)
  | .holding value [] => .ok value
  | .holding _ (_ :: _) => .error ⟨.separatorExpected none, .point stop⟩
  | .wanting _ => .error ⟨.valueExpected none, .point stop⟩

/-- The expression that the tokens of a text of `stop` bytes make up. -/
def ofLexemes (stop : Nat) (ts : List Lexeme) : Except SyntaxError (Node Span) :=
  (ts.foldlM State.feed (.wanting [])).bind (State.finish stop)

/-- The expression that a text holds; a text without tokens holds none. -/
def ofText [PatternLanguage] (text : String) : Except SyntaxError (Option (Node Span)) :=
  match tokenize text with
  | .error e => .error e
  | .ok [] => .ok none
  | .ok (t :: ts) => (ofLexemes (Text.byteLength text.toList) (t :: ts)).map some

end Node

end TypeExpr
