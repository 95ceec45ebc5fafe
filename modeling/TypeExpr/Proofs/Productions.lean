import TypeExpr.DataType.Render
import TypeExpr.Node.Parser
import TypeExpr.Proofs.Shape

/-!
# Productions and steps

`Grammar.Specification` says which rows of tokens are specifications, and of which expression, by
the productions

    spec     := expr
    expr     := primary ('[' args ']')*
    primary  := leaf | '[' args ']'
    args     := (expr (',' expr)* ','?)?

and by the limit on brackets that are open at once.  Nothing in it knows of a stack, of states or of
an order of reading.

On the other side stands reading token by token.  What one token does to the stack of open brackets
is said once, by the rules `State.Feeds`; a token is taken exactly if there is a rule for it
(`State.feed_eq_ok_iff`).

The grammar is that of the documentation, with one relation for each of its symbols.  That lists may
end with a comma, and that brackets may be empty, is part of `Arguments`; that brackets may follow
each other without end is part of `Expression`, and how deep they stand inside each other is left to
`bracketDepth`.

Most proofs about the grammar go by one induction for all four symbols (`Expression.induct`), in
which two predicates are given: one for expressions, and one for lists of them.
-/

namespace TypeExpr

/-! ## The words of the grammar

The tokens that stand for values, as rules.
-/

/-- `Means t v`: the token `t` stands for the leaf `v`.  A reference counts in lower case and
    without a leading `::`; four names are literals if they have no leading `::`, and every other
    name counts without it. -/
inductive Token.Means : Token → Leaf → Prop where
  | reference (r : String) :
      Means (.reference r) (.reference (String.ofList (Text.lower (dropRoot r.toList))))
  | unbounded : Means (.name "default") .unbounded
  | true : Means (.name "true") (.boolean true)
  | false : Means (.name "false") (.boolean false)
  | undefined : Means (.name "undef") .undefined
  | name (n : String) (h : n ∉ keywords) :
      Means (.name n) (.name (String.ofList (dropRoot n.toList)))
  | string (s : String) : Means (.string s) (.string s)
  | integer (n : Int64) : Means (.integer n) (.integer n)
  | float (x : Double) : Means (.float x) (.float x)
  | regex (p : String) : Means (.regex p) (.regex p)

/-- A name that is no keyword is read as itself. -/
theorem Token.leaf?_name {n : String} (h : n ∉ keywords) :
    (name n).leaf? = some (.name (String.ofList (dropRoot n.toList))) := by
  simp only [keywords, List.mem_cons, List.not_mem_nil, not_or] at h
  obtain ⟨hd, ht, hf, hu, -⟩ := h
  unfold leaf?
  split <;> simp_all

/-- A token is taken for the leaf that it stands for. -/
theorem Token.leaf?_eq_some_iff {t : Token} {v : Leaf} : t.leaf? = some v ↔ t.Means v := by
  constructor
  · intro h
    cases t with
    | name n =>
      -- the four literals are known by their spelling
      by_cases hn : n ∈ keywords
      · simp only [keywords, List.mem_cons, List.not_mem_nil, or_false] at hn
        rcases hn with rfl | rfl | rfl | rfl <;> cases h <;> constructor
      · rw [leaf?_name hn] at h
        cases h
        exact .name n hn
    | openBracket => cases h
    | closeBracket => cases h
    | comma => cases h
    | _ => cases h; constructor
  · intro h
    cases h with
    | name n hn => exact leaf?_name hn
    | _ => rfl

/-! ## The productions

The grammar, one relation for each symbol.  Nothing is said of how an expression is found.
-/

namespace Grammar

mutual

/-- `expr := primary ('[' args ']')*`: each bracket applies all that stands before it. -/
inductive Expression : List Token → Node Unit → Prop where
  | primary {ts n} : Primary ts n → Expression ts n
  | access {ts us n ns} : Expression ts n → Arguments us ns →
      Expression (ts ++ .openBracket :: us ++ [.closeBracket]) (.access n ns ())

/-- `primary := leaf | '[' args ']'`. -/
inductive Primary : List Token → Node Unit → Prop where
  | leaf {t v} : t.Means v → Primary [t] (.leaf v ())
  | array {us ns} : Arguments us ns → Primary (.openBracket :: us ++ [.closeBracket]) (.array ns ())

/-- `args := (listing ','?)?`. -/
inductive Arguments : List Token → List (Node Unit) → Prop where
  | none : Arguments [] []
  | listing {ts ns} : Listing ts ns → Arguments ts ns
  | trailing {ts ns} : Listing ts ns → Arguments (ts ++ [.comma]) ns

/-- `listing := expr (',' expr)*`. -/
inductive Listing : List Token → List (Node Unit) → Prop where
  | one {ts n} : Expression ts n → Listing ts [n]
  | more {ts us ns n} : Listing ts ns → Expression us n →
      Listing (ts ++ .comma :: us) (ns ++ [n])

end

end Grammar

/-! ## Open brackets

Brackets are counted in tokens, from left to right.  An expression closes what it opens, so only the
most that are open at once is of interest.
-/

/-- How many brackets are open behind a token, if `n` are before it. -/
def Token.opened (n : Nat) : Token → Nat
  | openBracket => n + 1
  | closeBracket => n - 1
  | _ => n

namespace Grammar

/-- How many brackets are open behind tokens, if `n` are before them. -/
def openAfter (n : Nat) (ts : List Token) : Nat := ts.foldl Token.opened n

/-- The most brackets that are open at once anywhere in tokens, if `n` are before them. -/
def mostOpen (n : Nat) : List Token → Nat
  | [] => n
  | t :: ts => max n (mostOpen (t.opened n) ts)

/-- The most brackets of a row of tokens that are open at once. -/
def bracketDepth (ts : List Token) : Nat := mostOpen 0 ts

/-- `spec := expr`, with no more brackets open at once than may be. -/
def Specification (ts : List Token) (n : Node Unit) : Prop :=
  Expression ts n ∧ bracketDepth ts ≤ maxDepth

/-- What is open before the tokens is open at some point in them. -/
theorem le_mostOpen (n : Nat) (ts : List Token) : n ≤ mostOpen n ts := by
  cases ts with
  | nil => exact Nat.le_refl n
  | cons t ts => exact Nat.le_max_left ..

/-- The more brackets are open before tokens, the more are open in them. -/
theorem mostOpen_mono {k k' : Nat} (h : k ≤ k') (ts : List Token) :
    mostOpen k ts ≤ mostOpen k' ts := by
  induction ts generalizing k k' with
  | nil => exact h
  | cons t ts ih =>
    have ht : t.opened k ≤ t.opened k' := by
      cases t <;> simp only [Token.opened] <;> omega
    have := ih ht
    simp only [mostOpen]
    omega

@[simp] theorem openAfter_append (n : Nat) (ts us : List Token) :
    openAfter n (ts ++ us) = openAfter (openAfter n ts) us := by
  simp [openAfter]

/-- The most that is open in two rows is open in one of them. -/
@[simp] theorem mostOpen_append (n : Nat) (ts us : List Token) :
    mostOpen n (ts ++ us) = max (mostOpen n ts) (mostOpen (openAfter n ts) us) := by
  induction ts generalizing n with
  | nil => exact (Nat.max_eq_right (le_mostOpen n us)).symm
  | cons t ts ih => simp [mostOpen, openAfter, ih, Nat.max_assoc]

/-- A value neither opens a bracket nor closes one. -/
theorem opened_of_means {t : Token} {v : Leaf} (h : t.Means v) (n : Nat) : t.opened n = n := by
  cases h <;> rfl

/-- A list in brackets closes as many brackets as it opens. -/
theorem openAfter_bracketed {us : List Token} (h : ∀ k, openAfter k us = k) (k : Nat) :
    openAfter k (.openBracket :: us ++ [.closeBracket]) = k := by
  rw [openAfter_append]
  show Token.opened (openAfter (k + 1) us) .closeBracket = k
  rw [h (k + 1)]
  rfl

/-- Inside the brackets one more is open. -/
theorem mostOpen_of_bracketed {n : Nat} {us : List Token}
    (h : mostOpen n (.openBracket :: us ++ [.closeBracket]) ≤ maxDepth) :
    n < maxDepth ∧ mostOpen (n + 1) us ≤ maxDepth := by
  simp only [List.cons_append, mostOpen, Token.opened, mostOpen_append] at h
  have := le_mostOpen (n + 1) us
  omega

/-! ## One induction for all four symbols

The four relations refer to each other.  Most proofs need a statement about expressions and one
about lists of them, so the other two follow these.
-/

section Induction

variable {P : List Token → Node Unit → Prop} {Q R : List Token → List (Node Unit) → Prop}

/-- What holds of leaves and is kept by every production holds of every expression; `Q` goes with
    arguments and `R` with listings. -/
theorem Expression.induct
    (leaf : ∀ {t v}, t.Means v → P [t] (.leaf v ()))
    (array : ∀ {us ns}, Q us ns → P (.openBracket :: us ++ [.closeBracket]) (.array ns ()))
    (access : ∀ {ts us n ns}, P ts n → Q us ns →
      P (ts ++ .openBracket :: us ++ [.closeBracket]) (.access n ns ()))
    (none : Q [] [])
    (listing : ∀ {ts ns}, R ts ns → Q ts ns)
    (trailing : ∀ {ts ns}, R ts ns → Q (ts ++ [.comma]) ns)
    (one : ∀ {ts n}, P ts n → R ts [n])
    (more : ∀ {ts us ns n}, R ts ns → P us n → R (ts ++ .comma :: us) (ns ++ [n]))
    {ts : List Token} {n : Node Unit} (h : Expression ts n) : P ts n :=
  @Expression.rec (fun ts n _ => P ts n) (fun ts n _ => P ts n) (fun ts ns _ => Q ts ns)
    (fun ts ns _ => R ts ns) (fun _ ih => ih) (fun _ _ ih ihs => access ih ihs) leaf
    (fun _ ih => array ih) none (fun _ ih => listing ih) (fun _ ih => trailing ih)
    (fun _ ih => one ih) (fun _ _ ih ihs => more ih ihs) ts n h

end Induction

end Grammar

/-! ## What one token does

The steps of reading as rules: which state a token leads to from which.  Later proofs go through
these rules and do not look into the function.
-/

namespace Node

/-- What one token can do: it is a value, or opens a bracket, closes one or sets off a value in one.
    A bracket can be closed behind a value and, if it is empty or a comma stands there, without. -/
inductive State.Feeds : State → Lexeme → State → Prop where
  | value {frames token span v} : token.Means v →
      Feeds (.wanting frames) ⟨token, span⟩ (.holding (.leaf v span) frames)
  | array {frames span} : frames.length < maxDepth →
      Feeds (.wanting frames) ⟨.openBracket, span⟩ (.wanting (⟨none, span, []⟩ :: frames))
  | access {value frames span} : frames.length < maxDepth →
      Feeds (.holding value frames) ⟨.openBracket, span⟩
        (.wanting (⟨some value, span, []⟩ :: frames))
  | closing {f frames span} :
      Feeds (.wanting (f :: frames)) ⟨.closeBracket, span⟩ (.holding (f.close span) frames)
  | closingBehind {value f frames span} :
      Feeds (.holding value (f :: frames)) ⟨.closeBracket, span⟩
        (.holding ((f.push value).close span) frames)
  | comma {value f frames span} :
      Feeds (.holding value (f :: frames)) ⟨.comma, span⟩ (.wanting (f.push value :: frames))

/-- A bracket can be opened as long as not too many are open. -/
theorem State.enter_eq_ok_iff {target : Option (Node Span)} {opened : Span} {frames : List Frame}
    {s : State} : State.enter target opened frames = .ok s ↔
      frames.length < maxDepth ∧ s = .wanting (⟨target, opened, []⟩ :: frames) := by
  rw [enter]
  split
  · rename_i hfull
    have hnot : ¬frames.length < maxDepth := Nat.not_lt.2 hfull
    simp [hnot]
  · rename_i hroom
    simp [Nat.lt_of_not_le hroom, eq_comm]

/-- A bracket behind a value applies the value. -/
theorem State.feed_holding_openBracket (value : Node Span) (frames : List Frame) (opened : Span) :
    (holding value frames).feed ⟨.openBracket, opened⟩ = enter (some value) opened frames := by
  cases frames <;> rfl

/-- A token is taken exactly if there is a rule for it. -/
theorem State.feed_eq_ok_iff {s s' : State} {l : Lexeme} : s.feed l = .ok s' ↔ s.Feeds l s' := by
  obtain ⟨token, span⟩ := l
  constructor
  · intro h
    cases s with
    | wanting frames =>
      cases hleaf : token.leaf? with
      | some v =>
        simp only [feed, hleaf] at h
        cases h
        exact .value (Token.leaf?_eq_some_iff.1 hleaf)
      | none =>
        -- what is no value can only be a mark
        cases token with
        | openBracket =>
          obtain ⟨hroom, rfl⟩ := enter_eq_ok_iff.1 h
          exact .array hroom
        | closeBracket =>
          cases frames with
          | nil => cases h
          | cons f fs =>
            cases h
            exact .closing
        | comma => cases h
        | _ => simp [feed, hleaf] at h
    | holding value frames =>
      cases token with
      | openBracket =>
        rw [feed_holding_openBracket] at h
        obtain ⟨hroom, rfl⟩ := enter_eq_ok_iff.1 h
        exact .access hroom
      | closeBracket =>
        cases frames with
        | nil => cases h
        | cons f fs =>
          cases h
          exact .closingBehind
      | comma =>
        cases frames with
        | nil => cases h
        | cons f fs =>
          cases h
          exact .comma
      | _ => cases frames <;> cases h
  · intro h
    cases h with
    | value ht => simp only [feed, Token.leaf?_eq_some_iff.2 ht]
    | array hroom => exact enter_eq_ok_iff.2 ⟨hroom, rfl⟩
    | access hroom =>
      rw [feed_holding_openBracket]
      exact enter_eq_ok_iff.2 ⟨hroom, rfl⟩
    | closing => rfl
    | closingBehind => rfl
    | comma => rfl

/-! ## Tokens one after another

The run of some tokens is the step of the first and the run of the others.
-/

/-- The state after more tokens. -/
def State.run (s : State) (ls : List Lexeme) : Except SyntaxError State := ls.foldlM State.feed s

/-- A token that is taken is behind, and the rest is read from there. -/
theorem State.run_cons_of_feed {s s' : State} {l : Lexeme} (h : s.feed l = .ok s')
    (ls : List Lexeme) : s.run (l :: ls) = s'.run ls := by
  simp only [run, List.foldlM_cons, h]
  rfl

/-- A token that is not taken is the end of it. -/
theorem State.run_cons_of_error {s : State} {l : Lexeme} {e : SyntaxError}
    (h : s.feed l = .error e) (ls : List Lexeme) : s.run (l :: ls) = .error e := by
  simp only [run, List.foldlM_cons, h]
  rfl

/-- What comes behind tokens is read from where they have led. -/
theorem State.run_append_of_run {s s' : State} {ls : List Lexeme} (h : s.run ls = .ok s')
    (ms : List Lexeme) : s.run (ls ++ ms) = s'.run ms := by
  rw [run] at h
  simp only [run, List.foldlM_append, h]
  rfl

/-- If they have led nowhere, nothing changes that. -/
theorem State.run_append_of_error {s : State} {ls : List Lexeme} {e : SyntaxError}
    (h : s.run ls = .error e) (ms : List Lexeme) : s.run (ls ++ ms) = .error e := by
  rw [run] at h
  simp only [run, List.foldlM_append, h]
  rfl

/-- A run goes on where its first token has led. -/
theorem State.exists_feed_of_run_cons {s s' : State} {l : Lexeme} {ls : List Lexeme}
    (h : s.run (l :: ls) = .ok s') : ∃ s₁, s.feed l = .ok s₁ ∧ s₁.run ls = .ok s' := by
  cases hfeed : s.feed l with
  | error e =>
    rw [run_cons_of_error hfeed] at h
    cases h
  | ok s₁ =>
    rw [run_cons_of_feed hfeed] at h
    exact ⟨s₁, rfl, h⟩

end Node

end TypeExpr
