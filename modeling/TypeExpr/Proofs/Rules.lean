import TypeExpr.Node.Denotation
import TypeExpr.Proofs.Stepwise

/-!
# The rules of meaning

`Denotes n v` says by rules what an expression denotes: what each leaf does, which type each name
has on its own (`Bare`), and which type it makes of which arguments (`Applied`).  There is no rule
for what denotes nothing, and none of the rules says in which order anything is looked at, counts
accesses, or blames a node.

The main statement, `interpret_eq_ok_iff`, is that evaluating a tree finds a type exactly if the
rules give it that type and no access in it stands inside too many others.  Evaluation is taken
apart in the order in which it is put together: what an argument can be taken for, what a name makes
of arguments (`TypeName.apply_eq_ok_iff`), and, by induction on the tree, what a node denotes
(`Node.denote_eq_ok_iff`).

The two directions for a name go differently.  From a result to a rule (`TypeName.applied_of_build`)
the cases are the names that have parameters: how many arguments a name takes says what they look
like, and what they have been taken for says which rule it was.  From a rule to a result
(`TypeName.apply_of_applied`) the cases are the rules, and each of them has its values to put in.
That the rules overlap nowhere is not used, and follows.

The limit on accesses is a matter of its own.  The rules know nothing of it; it is stated of the
tree, as a bound on all the accesses inside which some access stands as an argument (`Encloses`).

What a name makes of arguments is taken from the rules everywhere else. The function itself is
opened in three more modules, and there it is about failures or about notes: which argument is
blamed (`Faults`, `FirstFailure`), and that notes and doubles are handed through (`Naturality`). So
a rule that changes is changed here, in the function that it belongs to, and in one case of each of
the two directions.
-/

namespace TypeExpr

/-! ## The rules

There is one relation for each function that evaluation calls, and none mentions a failure.
-/

namespace Rules

/-- The names that are not those of a kind of resource. -/
def reservedNames : List String :=
  ["integer", "float", "numeric", "string", "enum", "boolean", "pattern", "regexp", "data", "array",
   "hash", "class", "resource", "collection", "literal", "catalogentry", "undef", "object",
   "variant", "ruby", "type"]

/-- The type of a name that stands without arguments.  `ruby` and `type` have none. -/
inductive Bare : String → DataType → Prop where
  | integer : Bare "integer" (.integer none none)
  | float : Bare "float" (.float none none)
  | numeric : Bare "numeric" (.plain .numeric)
  | string : Bare "string" (.plain .string)
  | enum : Bare "enum" (.enum [])
  | boolean : Bare "boolean" (.plain .boolean)
  | pattern : Bare "pattern" (.pattern [])
  | regexp : Bare "regexp" (.regexp none)
  | data : Bare "data" (.plain .data)
  | array : Bare "array" (.array (.plain .data))
  | hash : Bare "hash" (.hash (.plain .literal) (.plain .data))
  | classes : Bare "class" (.classes none)
  | resource : Bare "resource" (.resource none)
  | collection : Bare "collection" (.plain .collection)
  | literal : Bare "literal" (.plain .literal)
  | catalogEntry : Bare "catalogentry" (.plain .catalogEntry)
  | undef : Bare "undef" (.plain .undef)
  | object : Bare "object" (.plain .object)
  | variant : Bare "variant" (.variant [])
  | other {name} : name ∉ reservedNames → Bare name (.resourceOf (some name) none)

/-- What counts as a pattern. -/
inductive IsPattern : Value → String → Prop where
  | string (s : String) : IsPattern (.string s) s
  | regex (p : String) : IsPattern (.regex p) p
  | regexp (p : String) : IsPattern (.type (.regexp (some p))) p

/-- What counts as a kind of resource: a text, or a resource type with a name and no title. -/
inductive IsResourceKind : Value → String → Prop where
  | string (s : String) : IsResourceKind (.string s) s
  | resource (name : String) : IsResourceKind (.type (.resource (some ⟨name, none⟩))) name

/-- What counts as a title: a text, or an integer as it is written in decimal. -/
inductive IsTitle : Value → String → Prop where
  | string (s : String) : IsTitle (.string s) s
  | integer (n : Int64) : IsTitle (.integer n) (toString n.toInt)

/-- What counts as a bound of a range of integers. -/
inductive IsIntegerBound : Value → Option Int64 → Prop where
  | integer (n : Int64) : IsIntegerBound (.integer n) (some n)
  | unbounded : IsIntegerBound .unbounded none

/-- What counts as a bound of a range of numbers: an integer counts as the double next to it. -/
inductive IsFloatBound : Value → Option Double → Prop where
  | integer (n : Int64) : IsFloatBound (.integer n) (some (.ofInt n.toInt))
  | float (x : Double) : IsFloatBound (.float x) (some x)
  | unbounded : IsFloatBound .unbounded none

/-- The type that a name makes of arguments. -/
inductive Applied : String → List Value → DataType → Prop where
  | array {t} : t ≠ .plain .undef → Applied "array" [.type t] (.array t)
  | hashOf {v} : v ≠ .plain .undef → Applied "hash" [.type v] (.hash (.plain .literal) v)
  | hash {k v} : k ≠ .plain .undef → v ≠ .plain .undef →
      Applied "hash" [.type k, .type v] (.hash k v)
  | classes (s) : Applied "class" [.string s] (.classOf (some s))
  | resource {v kind} : IsResourceKind v kind →
      Applied "resource" [v] (.resourceOf (some kind) none)
  | resourceTitled {v w kind title} : IsResourceKind v kind → IsTitle w title →
      Applied "resource" [v, w] (.resourceOf (some kind) (some title))
  | regexp {v p} : IsPattern v p → Applied "regexp" [v] (.regexp (some p))
  | enum {ss : List String} : 2 ≤ ss.length → Applied "enum" (ss.map .string) (.enum ss)
  | pattern {vs ps} : 2 ≤ ps.length → List.Forall₂ IsPattern vs ps →
      Applied "pattern" vs (.pattern ps)
  | variant {ts : List DataType} : 2 ≤ ts.length → Applied "variant" (ts.map .type) (.variant ts)
  | integerPoint (n) : Applied "integer" [.integer n] (.integer (some n) (some n))
  | integerOpen : Applied "integer" [.unbounded] (.integer none none)
  | integerRange {v w a b} : IsIntegerBound v a → IsIntegerBound w b →
      Applied "integer" [v, w] (.integer a b)
  | floatPoint {v x} : IsFloatBound v (some x) → Applied "float" [v] (.float (some x) (some x))
  | floatOpen : Applied "float" [.unbounded] (.float none none)
  | floatRange {v w a b} : IsFloatBound v a → IsFloatBound w b →
      Applied "float" [v, w] (.float a b)
  | other {name v title} : name ∉ reservedNames → IsTitle v title →
      Applied name [v] (.resourceOf (some name) (some title))

/-- What an expression denotes. -/
inductive Denotes {α : Type} : Node α → Value → Prop where
  | name (s : String) (a : α) : Denotes (.leaf (.name s) a) (.string s)
  | string (s : String) (a : α) : Denotes (.leaf (.string s) a) (.string s)
  | integer (n : Int64) (a : α) : Denotes (.leaf (.integer n) a) (.integer n)
  | float (x : Double) (a : α) : Denotes (.leaf (.float x) a) (.float x)
  | regex (p : String) (a : α) : Denotes (.leaf (.regex p) a) (.regex p)
  | unbounded (a : α) : Denotes (.leaf .unbounded a) .unbounded
  | reference {name t} (a : α) : Bare name t → Denotes (.leaf (.reference name) a) (.type t)
  | access {name arguments values t} (a b : α) : List.Forall₂ Denotes arguments values →
      Applied name values t → Denotes (.access (.leaf (.reference name) b) arguments a) (.type t)

end Rules

/-- `Encloses root k n`: the expression `n` stands in `root` inside `k` accesses, as an argument, or
    an argument of an argument, and so on. -/
inductive Node.Encloses {α : Type} : Node α → Nat → Node α → Prop where
  | self (n : Node α) : Encloses n 0 n
  | argument {target arguments a k m n} : m ∈ arguments → Encloses m k n →
      Encloses (.access target arguments a) (k + 1) n

open Rules

variable {α : Type}

/-! ## What an argument can be taken for

One lemma for each way to take an argument.  Later proofs rewrite with these and never look into the
functions again.
-/

namespace Value

theorem type?_eq_some_iff {v : Value} {t : DataType} : v.type? = some t ↔ v = .type t := by
  cases v <;> simp [type?]

/-- A type is taken for a part of another one unless it is the undefined one. -/
theorem structural?_eq_some_iff {v : Value} {t : DataType} :
    v.structural? = some t ↔ v = .type t ∧ t ≠ .plain .undef := by
  cases v with
  | type s =>
    have hs : s.isStructural = true ↔ s ≠ .plain .undef := by
      fun_cases DataType.isStructural s <;> simp_all
    simp only [structural?, hs, Option.ite_none_right_eq_some, Option.some.injEq, type.injEq]
    constructor
    · rintro ⟨h, rfl⟩
      exact ⟨rfl, h⟩
    · rintro ⟨rfl, h⟩
      exact ⟨h, rfl⟩
  | _ => simp [structural?]

theorem string?_eq_some_iff {v : Value} {s : String} : v.string? = some s ↔ v = .string s := by
  cases v <;> simp [string?]

/-- A value is taken for a pattern exactly if it counts as one. -/
theorem pattern?_eq_some_iff {v : Value} {p : String} : v.pattern? = some p ↔ IsPattern v p := by
  constructor
  · intro h
    fun_cases pattern? v with
    | case4 => simp_all [pattern?]
    | _ => cases h; constructor
  · rintro (_ | _ | _) <;> rfl

/-- A value is taken for a kind of resource exactly if it counts as one. -/
theorem resourceKind?_eq_some_iff {v : Value} {kind : String} :
    v.resourceKind? = some kind ↔ IsResourceKind v kind := by
  constructor
  · intro h
    fun_cases resourceKind? v with
    | case3 => simp_all [resourceKind?]
    | _ => cases h; constructor
  · rintro (_ | _) <;> rfl

/-- A value is taken for a title exactly if it counts as one. -/
theorem title?_eq_some_iff {v : Value} {title : String} :
    v.title? = some title ↔ IsTitle v title := by
  constructor
  · intro h
    fun_cases title? v with
    | case3 => simp_all [title?]
    | _ => cases h; constructor
  · rintro (_ | _) <;> rfl

/-- A value is taken for an integer bound exactly if it counts as one. -/
theorem integerBound?_eq_some_iff {v : Value} {b : Option Int64} :
    v.integerBound? = some b ↔ IsIntegerBound v b := by
  constructor
  · intro h
    fun_cases integerBound? v with
    | case3 => simp_all [integerBound?]
    | _ => cases h; constructor
  · rintro (_ | _) <;> rfl

/-- A value is taken for a bound exactly if it counts as one. -/
theorem floatBound?_eq_some_iff {v : Value} {b : Option Double} :
    v.floatBound? = some b ↔ IsFloatBound v b := by
  constructor
  · intro h
    fun_cases floatBound? v with
    | case4 => simp_all [floatBound?]
    | _ => cases h; constructor
  · rintro (_ | _ | _) <;> rfl

end Value

/-- An argument is taken for what its value is taken for; the note is only there for the blame. -/
theorem Argument.take_eq_ok_iff {β : Type} {read : Value → Option β} {a : Argument α} {b : β} :
    a.take read = .ok b ↔ read a.value = some b := by
  unfold take
  cases read a.value <;> simp

/-- Taking all arguments for something of one kind. -/
theorem mapM_take_eq_ok_iff {β : Type} {read : Value → Option β} {args : List (Argument α)}
    {bs : List β} : args.mapM (·.take read) = .ok bs ↔
      List.Forall₂ (fun v b => read v = some b) (args.map (·.value)) bs := by
  simp only [mapM_eq_ok_iff, List.forall₂_map_left_iff, Argument.take_eq_ok_iff]

/-! ## Names

A name is resolved to one of the names that are known, or to a kind of resource.  By the way back,
from what it is resolved to to the word, the rules can be stated for words.
-/

/-- How a name is written in lower case. -/
def TypeName.word : TypeName → String
  | plain .numeric => "numeric"
  | plain .string => "string"
  | plain .boolean => "boolean"
  | plain .data => "data"
  | plain .literal => "literal"
  | plain .undef => "undef"
  | plain .object => "object"
  | plain .collection => "collection"
  | plain .catalogEntry => "catalogentry"
  | former .integer => "integer"
  | former .float => "float"
  | former .enum => "enum"
  | former .pattern => "pattern"
  | former .regexp => "regexp"
  | former .array => "array"
  | former .hash => "hash"
  | former .classes => "class"
  | former .resource => "resource"
  | former .variant => "variant"
  | ruby => "ruby"
  | type => "type"
  | other name => name

namespace TypeName

theorem word_ofLower (name : String) : (ofLower name).word = name := by
  unfold ofLower
  split <;> rfl

/-- A name is a kind of resource exactly if it is not one of the reserved ones. -/
theorem ofLower_eq_other_iff {name : String} :
    ofLower name = other name ↔ name ∉ reservedNames := by
  constructor
  · intro h hmem
    simp only [reservedNames, List.mem_cons, List.not_mem_nil, or_false] at hmem
    rcases hmem with rfl | rfl | rfl | rfl | rfl | rfl | rfl | rfl | rfl | rfl | rfl | rfl | rfl |
      rfl | rfl | rfl | rfl | rfl | rfl | rfl | rfl <;> cases h
  · intro h
    unfold ofLower
    split <;> first | rfl | exact absurd (by decide) h

/-- A name that is not in the table is that of a kind of resource. -/
theorem eq_of_ofLower_eq_other {name kind : String} (h : ofLower name = other kind) :
    kind = name ∧ name ∉ reservedNames := by
  have hword := word_ofLower name
  rw [h] at hword
  obtain rfl : kind = name := hword
  exact ⟨rfl, ofLower_eq_other_iff.1 h⟩

/-- The reserved names are those that say they are. -/
theorem isReserved_ofLower_eq_false_iff {name : String} :
    (ofLower name).isReserved = false ↔ name ∉ reservedNames := by
  constructor
  · intro h
    cases hname : ofLower name with
    | other kind => exact (eq_of_ofLower_eq_other hname).2
    | _ => simp [hname, isReserved] at h
  · intro h
    rw [ofLower_eq_other_iff.2 h]
    rfl

/-- A name has the type without arguments that the rules give it. -/
theorem bare_eq_ok_iff {note : α} {name : String} {t : DataType} :
    bare note (ofLower name) = .ok t ↔ Bare name t := by
  constructor
  · intro h
    have hword := word_ofLower name
    -- the name is known again by the word that it is written with
    cases hk : ofLower name with
    | plain p => rw [hk] at h hword; cases h; subst hword; cases p <;> constructor
    | former f => rw [hk] at h hword; cases h; subst hword; cases f <;> constructor
    | ruby => rw [hk] at h; cases h
    | type => rw [hk] at h; cases h
    | other kind =>
      obtain ⟨rfl, hn⟩ := eq_of_ofLower_eq_other hk
      rw [hk] at h
      cases h
      exact .other hn
  · intro h
    cases h with
    | other hn => rw [ofLower_eq_other_iff.2 hn]; rfl
    | _ => rfl

end TypeName

/-! ## What a name makes of arguments

The number of arguments is looked at first, and then the arguments are taken one by one, so a
success says both.
-/

namespace Argument

variable {β γ δ : Type} {a b : Argument α}

/-- A type is made of one argument if that can be taken for what is wanted. -/
theorem one_eq_ok_iff {read : Value → Option β} {make : β → δ} {d : δ} :
    (do return make (← a.take read)) = Except.ok d ↔
      ∃ x, read a.value = some x ∧ make x = d := by
  simp only [bind_eq_ok_iff, take_eq_ok_iff, pure, Except.pure, Except.ok.injEq]

/-- A type is made of two arguments if both can be taken for what is wanted of them. -/
theorem two_eq_ok_iff {read : Value → Option β} {read' : Value → Option γ} {make : β → γ → δ}
    {d : δ} : (do let x ← a.take read; let y ← b.take read'; return make x y) = Except.ok d ↔
      ∃ x y, read a.value = some x ∧ read' b.value = some y ∧ make x y = d := by
  simp only [bind_eq_ok_iff, take_eq_ok_iff, pure, Except.pure, Except.ok.injEq]
  constructor
  · rintro ⟨x, hx, y, hy, rfl⟩
    exact ⟨x, y, hx, hy, rfl⟩
  · rintro ⟨x, y, hx, hy, rfl⟩
    exact ⟨x, hx, y, hy, rfl⟩

/-- A type is made of any number of arguments if all of them can be taken for what is wanted. -/
theorem many_eq_ok_iff {read : Value → Option β} {make : List β → δ} {args : List (Argument α)}
    {d : δ} : (do return make (← args.mapM (·.take read))) = Except.ok d ↔
      ∃ xs, List.Forall₂ (fun v x => read v = some x) (args.map (·.value)) xs ∧ make xs = d := by
  simp only [bind_eq_ok_iff, mapM_take_eq_ok_iff, pure, Except.pure, Except.ok.injEq]

/-- If there are two values, there were two arguments. -/
theorem exists_of_map_eq_pair {args : List (Argument α)} {v w : Value}
    (h : args.map (·.value) = [v, w]) : ∃ a b, args = [a, b] ∧ a.value = v ∧ b.value = w := by
  obtain ⟨a, rest, rfl, ha, hrest⟩ := List.map_eq_cons_iff.1 h
  obtain ⟨b, rfl, hb⟩ := List.map_eq_singleton_iff.1 hrest
  exact ⟨a, b, rfl, ha, hb⟩

/-- If a kind of value is read as what it holds, a row of values is read as the row of it. -/
theorem forall₂_eq_iff {make : β → Value} {vs : List Value} {xs : List β} :
    List.Forall₂ (fun v x => v = make x) vs xs ↔ vs = xs.map make := by
  induction xs generalizing vs with
  | nil => simp
  | cons x xs ih => cases vs <;> simp [ih]

end Argument

namespace TypeName

open Argument

variable {note : α} {args : List (Argument α)} {t : DataType}

theorem refusal?_other {kind : String} {n : Nat} : (other kind).refusal? n = none ↔ n = 1 := by
  simp [refusal?, Arity.admits]

/-- A name is refused exactly the numbers of arguments that its arity does not allow. -/
theorem refusal?_former {f : Former} {n : Nat} :
    (former f).refusal? n = none ↔ f.arity.admits n = true := by
  cases f with
  | pattern =>
    -- a single pattern is refused as well, for another reason
    by_cases h1 : n = 1
    · simp [refusal?, h1, Former.arity, Arity.admits]
    · simp [refusal?, h1]
  | _ => simp [refusal?]

/-- A name with one parameter takes one argument. -/
theorem refusal?_exactly {f : Former} {n : Nat} (hf : f.arity = .exactly 1) :
    (former f).refusal? n = none ↔ n = 1 := by
  rw [refusal?_former, hf, Arity.admits, beq_iff_eq]

/-- A name whose second parameter can be left out takes one argument or two. -/
theorem refusal?_between {f : Former} {n : Nat} (hf : f.arity = .between 1 2) :
    (former f).refusal? n = none ↔ n = 1 ∨ n = 2 := by
  rw [refusal?_former, hf, Arity.admits, Bool.and_eq_true, decide_eq_true_eq, decide_eq_true_eq]
  omega

/-- A name for a list takes two arguments or more. -/
theorem refusal?_atLeast {f : Former} {n : Nat} (hf : f.arity = .atLeast 2) :
    (former f).refusal? n = none ↔ 2 ≤ n := by
  rw [refusal?_former, hf, Arity.admits, decide_eq_true_eq]

/-- So a name that takes any number of arguments from two on, and takes these, has two values at
    least. -/
theorem two_le_length_values {f : Former} (hf : f.arity = .atLeast 2)
    (hn : (former f).refusal? args.length = none) : 2 ≤ (args.map (·.value)).length := by
  rw [List.length_map]
  exact (refusal?_atLeast hf).1 hn

/-- What a name with parameters makes of as many arguments as it takes, the rules make of them. -/
theorem applied_of_build {f : Former} (hn : (former f).refusal? args.length = none)
    (h : build note (former f) args = .ok t) :
    Applied (former f).word (args.map (·.value)) t := by
  cases f with
  -- one argument leaves it open which of two rules it is, until it is known what the argument is
  | integer =>
    rcases (refusal?_between rfl).1 hn with hlen | hlen
    · obtain ⟨a, rfl⟩ := List.length_eq_one_iff.1 hlen
      obtain ⟨x, hx, rfl⟩ := one_eq_ok_iff.1 h
      rw [List.map_singleton]
      generalize a.value = v at hx
      cases Value.integerBound?_eq_some_iff.1 hx with
      | integer n => exact .integerPoint n
      | unbounded => exact .integerOpen
    · obtain ⟨a, b, rfl⟩ := List.length_eq_two.1 hlen
      obtain ⟨x, y, hx, hy, rfl⟩ := two_eq_ok_iff.1 h
      have hmin := Value.integerBound?_eq_some_iff.1 hx
      have hmax := Value.integerBound?_eq_some_iff.1 hy
      exact .integerRange hmin hmax
  | float =>
    rcases (refusal?_between rfl).1 hn with hlen | hlen
    · obtain ⟨a, rfl⟩ := List.length_eq_one_iff.1 hlen
      obtain ⟨x, hx, rfl⟩ := one_eq_ok_iff.1 h
      rw [List.map_singleton]
      generalize a.value = v at hx
      cases Value.floatBound?_eq_some_iff.1 hx with
      | integer n => exact .floatPoint (.integer n)
      | float x => exact .floatPoint (.float x)
      | unbounded => exact .floatOpen
    · obtain ⟨a, b, rfl⟩ := List.length_eq_two.1 hlen
      obtain ⟨x, y, hx, hy, rfl⟩ := two_eq_ok_iff.1 h
      exact .floatRange (Value.floatBound?_eq_some_iff.1 hx) (Value.floatBound?_eq_some_iff.1 hy)
  | enum =>
    obtain ⟨xs, hxs, rfl⟩ := many_eq_ok_iff.1 h
    have hlen := two_le_length_values rfl hn
    simp only [Value.string?_eq_some_iff] at hxs
    rw [hxs.length_eq] at hlen
    rw [forall₂_eq_iff.1 hxs]
    exact .enum hlen
  | pattern =>
    obtain ⟨xs, hxs, rfl⟩ := many_eq_ok_iff.1 h
    have hlen := two_le_length_values rfl hn
    simp only [Value.pattern?_eq_some_iff] at hxs
    rw [hxs.length_eq] at hlen
    exact .pattern hlen hxs
  | regexp =>
    obtain ⟨a, rfl⟩ := List.length_eq_one_iff.1 ((refusal?_exactly rfl).1 hn)
    obtain ⟨x, hx, rfl⟩ := one_eq_ok_iff.1 h
    exact .regexp (Value.pattern?_eq_some_iff.1 hx)
  | array =>
    obtain ⟨a, rfl⟩ := List.length_eq_one_iff.1 ((refusal?_exactly rfl).1 hn)
    obtain ⟨x, hx, rfl⟩ := one_eq_ok_iff.1 h
    obtain ⟨hv, hx⟩ := Value.structural?_eq_some_iff.1 hx
    rw [List.map_singleton, hv]
    exact .array hx
  | hash =>
    rcases (refusal?_between rfl).1 hn with hlen | hlen
    · obtain ⟨a, rfl⟩ := List.length_eq_one_iff.1 hlen
      obtain ⟨x, hx, rfl⟩ := one_eq_ok_iff.1 h
      obtain ⟨hv, hx⟩ := Value.structural?_eq_some_iff.1 hx
      rw [List.map_singleton, hv]
      exact .hashOf hx
    · obtain ⟨a, b, rfl⟩ := List.length_eq_two.1 hlen
      obtain ⟨x, y, hx, hy, rfl⟩ := two_eq_ok_iff.1 h
      obtain ⟨hv, hx⟩ := Value.structural?_eq_some_iff.1 hx
      obtain ⟨hw, hy⟩ := Value.structural?_eq_some_iff.1 hy
      rw [List.map_cons, List.map_singleton, hv, hw]
      exact .hash hx hy
  | classes =>
    obtain ⟨a, rfl⟩ := List.length_eq_one_iff.1 ((refusal?_exactly rfl).1 hn)
    obtain ⟨x, hx, rfl⟩ := one_eq_ok_iff.1 h
    rw [List.map_singleton, Value.string?_eq_some_iff.1 hx]
    exact .classes x
  | resource =>
    rcases (refusal?_between rfl).1 hn with hlen | hlen
    · obtain ⟨a, rfl⟩ := List.length_eq_one_iff.1 hlen
      obtain ⟨x, hx, rfl⟩ := one_eq_ok_iff.1 h
      exact .resource (Value.resourceKind?_eq_some_iff.1 hx)
    · obtain ⟨a, b, rfl⟩ := List.length_eq_two.1 hlen
      obtain ⟨x, y, hx, hy, rfl⟩ := two_eq_ok_iff.1 h
      exact .resourceTitled (Value.resourceKind?_eq_some_iff.1 hx) (Value.title?_eq_some_iff.1 hy)
  | variant =>
    obtain ⟨xs, hxs, rfl⟩ := many_eq_ok_iff.1 h
    have hlen := two_le_length_values rfl hn
    simp only [Value.type?_eq_some_iff] at hxs
    rw [hxs.length_eq] at hlen
    rw [forall₂_eq_iff.1 hxs]
    exact .variant hlen

/-- A name that takes a list applies to every list that is long enough. -/
theorem apply_atLeast {f : Former} {vs : List Value} (hf : f.arity = .atLeast 2)
    (hvs : args.map (·.value) = vs) (hlen : 2 ≤ vs.length) :
    apply note (former f) args = build note (former f) args := by
  rw [← hvs, List.length_map] at hlen
  rw [apply, (refusal?_atLeast hf).2 hlen]

/-- What the rules make of arguments, the name makes of them. -/
theorem apply_of_applied {name : String} (h : Applied name (args.map (·.value)) t) :
    apply note (ofLower name) args = .ok t := by
  -- the rule is about values, the name is given arguments, of which there are as many
  generalize hvs : args.map (·.value) = vs at h
  cases h with
  | array ht =>
    obtain ⟨a, rfl, hv⟩ := List.map_eq_singleton_iff.1 hvs
    exact one_eq_ok_iff.2 ⟨_, Value.structural?_eq_some_iff.2 ⟨hv, ht⟩, rfl⟩
  | hashOf hv' =>
    obtain ⟨a, rfl, hv⟩ := List.map_eq_singleton_iff.1 hvs
    exact one_eq_ok_iff.2 ⟨_, Value.structural?_eq_some_iff.2 ⟨hv, hv'⟩, rfl⟩
  | hash hk' hv' =>
    obtain ⟨a, b, rfl, hk, hv⟩ := exists_of_map_eq_pair hvs
    exact two_eq_ok_iff.2 ⟨_, _, Value.structural?_eq_some_iff.2 ⟨hk, hk'⟩,
      Value.structural?_eq_some_iff.2 ⟨hv, hv'⟩, rfl⟩
  | classes s =>
    obtain ⟨a, rfl, hv⟩ := List.map_eq_singleton_iff.1 hvs
    exact one_eq_ok_iff.2 ⟨_, Value.string?_eq_some_iff.2 hv, rfl⟩
  | resource hkind =>
    obtain ⟨a, rfl, rfl⟩ := List.map_eq_singleton_iff.1 hvs
    exact one_eq_ok_iff.2 ⟨_, Value.resourceKind?_eq_some_iff.2 hkind, rfl⟩
  | resourceTitled hkind htitle =>
    obtain ⟨a, b, rfl, rfl, rfl⟩ := exists_of_map_eq_pair hvs
    exact two_eq_ok_iff.2 ⟨_, _, Value.resourceKind?_eq_some_iff.2 hkind,
      Value.title?_eq_some_iff.2 htitle, rfl⟩
  | regexp hp =>
    obtain ⟨a, rfl, rfl⟩ := List.map_eq_singleton_iff.1 hvs
    exact one_eq_ok_iff.2 ⟨_, Value.pattern?_eq_some_iff.2 hp, rfl⟩
  | @enum ss hlen =>
    have hvalues : 2 ≤ (ss.map Value.string).length := by rwa [List.length_map]
    refine (apply_atLeast rfl hvs hvalues).trans (many_eq_ok_iff.2 ⟨ss, ?_, rfl⟩)
    simp only [Value.string?_eq_some_iff]
    exact forall₂_eq_iff.2 hvs
  | @pattern vs ps hlen hps =>
    have hvalues : 2 ≤ vs.length := by rwa [hps.length_eq]
    refine (apply_atLeast rfl hvs hvalues).trans (many_eq_ok_iff.2 ⟨ps, ?_, rfl⟩)
    simp only [Value.pattern?_eq_some_iff]
    exact hvs ▸ hps
  | @variant ts hlen =>
    have hvalues : 2 ≤ (ts.map Value.type).length := by rwa [List.length_map]
    refine (apply_atLeast rfl hvs hvalues).trans (many_eq_ok_iff.2 ⟨ts, ?_, rfl⟩)
    simp only [Value.type?_eq_some_iff]
    exact forall₂_eq_iff.2 hvs
  | integerPoint n =>
    obtain ⟨a, rfl, hv⟩ := List.map_eq_singleton_iff.1 hvs
    exact one_eq_ok_iff.2 ⟨_, Value.integerBound?_eq_some_iff.2 (hv ▸ .integer n), rfl⟩
  | integerOpen =>
    obtain ⟨a, rfl, hv⟩ := List.map_eq_singleton_iff.1 hvs
    exact one_eq_ok_iff.2 ⟨_, Value.integerBound?_eq_some_iff.2 (hv ▸ .unbounded), rfl⟩
  | integerRange hmin hmax =>
    obtain ⟨a, b, rfl, rfl, rfl⟩ := exists_of_map_eq_pair hvs
    exact two_eq_ok_iff.2 ⟨_, _, Value.integerBound?_eq_some_iff.2 hmin,
      Value.integerBound?_eq_some_iff.2 hmax, rfl⟩
  | floatPoint hx =>
    obtain ⟨a, rfl, rfl⟩ := List.map_eq_singleton_iff.1 hvs
    exact one_eq_ok_iff.2 ⟨_, Value.floatBound?_eq_some_iff.2 hx, rfl⟩
  | floatOpen =>
    obtain ⟨a, rfl, hv⟩ := List.map_eq_singleton_iff.1 hvs
    exact one_eq_ok_iff.2 ⟨_, Value.floatBound?_eq_some_iff.2 (hv ▸ .unbounded), rfl⟩
  | floatRange hmin hmax =>
    obtain ⟨a, b, rfl, rfl, rfl⟩ := exists_of_map_eq_pair hvs
    exact two_eq_ok_iff.2 ⟨_, _, Value.floatBound?_eq_some_iff.2 hmin,
      Value.floatBound?_eq_some_iff.2 hmax, rfl⟩
  | other hn htitle =>
    obtain ⟨a, rfl, rfl⟩ := List.map_eq_singleton_iff.1 hvs
    rw [ofLower_eq_other_iff.2 hn]
    exact one_eq_ok_iff.2 ⟨_, Value.title?_eq_some_iff.2 htitle, rfl⟩

/-- A name makes of arguments exactly what the rules make of them. -/
theorem apply_eq_ok_iff {name : String} :
    apply note (ofLower name) args = .ok t ↔ Applied name (args.map (·.value)) t := by
  refine ⟨fun h => ?_, apply_of_applied⟩
  have hword := word_ofLower name
  unfold apply at h
  split at h
  · cases h
  · rename_i hrefusal
    -- names without parameters refuse any number of arguments
    cases hk : ofLower name with
    | plain p => rw [hk] at hrefusal; cases hrefusal
    | ruby => rw [hk] at hrefusal; cases hrefusal
    | type => rw [hk] at hrefusal; cases hrefusal
    | former f =>
      rw [hk] at h hword hrefusal
      rw [← hword]
      exact applied_of_build hrefusal h
    | other kind =>
      obtain ⟨rfl, hn⟩ := eq_of_ofLower_eq_other hk
      rw [hk] at h hrefusal
      obtain ⟨a, rfl⟩ := List.length_eq_one_iff.1 (refusal?_other.1 hrefusal)
      obtain ⟨title, htitle, rfl⟩ := one_eq_ok_iff.1 h
      exact .other hn (Value.title?_eq_some_iff.1 htitle)

end TypeName

/-! ## Evaluating a tree

By induction on the tree.  On the way down the number of accesses grows by one at each access; what
is proved of a node is therefore stated for every depth.
-/

/-- A leaf denotes what the rules say; of all leaves only a reference asks what its name is. -/
theorem Leaf.denote_eq_ok_iff {note : α} {l : Leaf} {v : Value} :
    l.denote note = .ok v ↔ Denotes (.leaf l note) v := by
  constructor
  · intro h
    cases l with
    | reference r =>
      cases ht : TypeName.bare note (.ofLower r) with
      | error e => simp [denote, ht, Except.map] at h
      | ok t =>
        simp only [denote, ht, Except.map, Except.ok.injEq] at h
        subst h
        exact .reference note (TypeName.bare_eq_ok_iff.1 ht)
    -- the other leaves denote by themselves, or nothing
    | boolean b => cases h
    | undefined => cases h
    | _ => cases h; constructor
  · intro h
    cases h with
    | reference _ hb => simp [denote, TypeName.bare_eq_ok_iff.2 hb, Except.map]
    | _ => rfl

namespace Node

/-- No access in a node that itself stands inside `depth` accesses stands inside too many. -/
def WithinLimit (depth : Nat) (root : Node α) : Prop :=
  ∀ k target arguments a, Encloses root k (.access target arguments a) → depth + k < maxDepth

theorem withinLimit_leaf (depth : Nat) (l : Leaf) (a : α) : WithinLimit depth (.leaf l a) := by
  rintro k target arguments b h
  cases h

/-- In a node with arguments there is an access more than in those: the node itself stands inside as
    many as before, and the arguments inside one more. -/
theorem withinLimit_access_iff {depth : Nat} {target : Node α} {arguments : List (Node α)} {a : α} :
    WithinLimit depth (.access target arguments a) ↔
      depth < maxDepth ∧ ∀ m ∈ arguments, WithinLimit (depth + 1) m := by
  constructor
  · intro h
    refine ⟨h 0 target arguments a (.self _), fun m hm k t us b hk => ?_⟩
    have := h (k + 1) t us b (.argument hm hk)
    omega
  · rintro ⟨hdepth, hargs⟩ k t us b hk
    cases hk with
    | self => exact hdepth
    | argument hm hk =>
      have := hargs _ hm _ _ _ _ hk
      omega

/-- A node is taken for a reference exactly if it is one. -/
theorem reference?_eq_some_iff {n : Node α} {name : String} :
    n.reference? = some name ↔ ∃ a, n = leaf (.reference name) a := by
  constructor
  · intro h
    fun_cases reference? n with
    | case1 name' a => cases h; exact ⟨a, rfl⟩
    | case2 => simp_all [reference?]
  · rintro ⟨a, rfl⟩
    rfl

mutual

/-- A node that stands inside `depth` accesses denotes what the rules say, unless an access in it
    stands inside too many. -/
theorem denote_eq_ok_iff : ∀ (n : Node α) (depth : Nat) (v : Value),
    n.denote depth = .ok v ↔ WithinLimit depth n ∧ Denotes n v
  | leaf l a, depth, v => by
    rw [denote, Leaf.denote_eq_ok_iff]
    exact ⟨fun h => ⟨withinLimit_leaf depth l a, h⟩, fun h => h.2⟩
  | array items a, depth, v => by
    rw [denote]
    refine ⟨fun h => ?_, fun ⟨_, h⟩ => ?_⟩ <;> cases h
  | access target arguments a, depth, v => by
    rw [denote, withinLimit_access_iff]
    constructor
    · -- the order of the checks drops out: what denotes something passes them all
      intro h
      split at h
      · cases h
      · rename_i name hname
        split at h
        · cases h
        · rename_i hdepth
          obtain ⟨values, hvalues, h⟩ := bind_eq_ok_iff.1 h
          obtain ⟨t, ht, h⟩ := bind_eq_ok_iff.1 h
          cases h
          obtain ⟨b, rfl⟩ := reference?_eq_some_iff.1 hname
          obtain ⟨hlimit, hden⟩ :=
            (denoteAll_eq_ok_iff arguments (depth + 1) _).1 ⟨values, hvalues, rfl⟩
          exact ⟨⟨by omega, hlimit⟩, .access a b hden (TypeName.apply_eq_ok_iff.1 ht)⟩
    · rintro ⟨⟨hdepth, hlimit⟩, h⟩
      cases h with
      | access _ b hden happ =>
        obtain ⟨args, hargs, rfl⟩ := (denoteAll_eq_ok_iff arguments (depth + 1) _).2 ⟨hlimit, hden⟩
        simp only [reference?, if_neg (Nat.not_le.2 hdepth)]
        exact bind_eq_ok_iff.2 ⟨args, hargs,
          bind_eq_ok_iff.2 ⟨_, TypeName.apply_of_applied happ, rfl⟩⟩

/-- Arguments denote one by one what the rules say. -/
theorem denoteAll_eq_ok_iff : ∀ (ns : List (Node α)) (depth : Nat) (values : List Value),
    (∃ args, denoteAll depth ns = .ok args ∧ args.map (·.value) = values) ↔
      (∀ n ∈ ns, WithinLimit depth n) ∧ List.Forall₂ Denotes ns values
  | [], depth, values => by
    simp [denoteAll, eq_comm]
  -- the first argument and the others have values one by one, and are within the limit one by one
  | n :: ns, depth, values => by
    rw [denoteAll]
    constructor
    · rintro ⟨args, h, rfl⟩
      obtain ⟨v, hv, h⟩ := bind_eq_ok_iff.1 h
      obtain ⟨rest, hrest, h⟩ := bind_eq_ok_iff.1 h
      cases h
      obtain ⟨hlimit, hden⟩ := (denote_eq_ok_iff n depth v).1 hv
      obtain ⟨hlimits, hdens⟩ := (denoteAll_eq_ok_iff ns depth _).1 ⟨rest, hrest, rfl⟩
      exact ⟨List.forall_mem_cons.2 ⟨hlimit, hlimits⟩, .cons hden hdens⟩
    · rintro ⟨hlimits, hdens⟩
      obtain ⟨hlimit, hlimits⟩ := List.forall_mem_cons.1 hlimits
      cases hdens with
      | @cons _ v _ vs hden hdens =>
        obtain ⟨rest, hrest, rfl⟩ := (denoteAll_eq_ok_iff ns depth vs).2 ⟨hlimits, hdens⟩
        have hv := (denote_eq_ok_iff n depth v).2 ⟨hlimit, hden⟩
        exact ⟨⟨v, n.note⟩ :: rest, bind_eq_ok_iff.2 ⟨v, hv,
          bind_eq_ok_iff.2 ⟨rest, hrest, rfl⟩⟩, rfl⟩

end

/-- What it takes for a tree to be found to denote a type. -/
theorem interpret_eq_ok_of_denote_iff {root : Node Span} {text : String} {t : DataType} :
    root.interpret text = .ok t ↔ root.denote 0 = .ok (.type t) := by
  unfold interpret
  split
  · simp [*]
  · simp [*]
  · rename_i v hv hden
    rw [hden]
    constructor
    · intro h
      cases h
    · intro h
      cases h
      exact absurd rfl (hv t)

/-- A tree is found to denote a type exactly if the rules give it that type and every access in it
    stands, as an argument of an argument, inside fewer than `maxDepth` others. -/
theorem interpret_eq_ok_iff (root : Node Span) (text : String) (t : DataType) :
    root.interpret text = .ok t ↔
      (∀ k target arguments a, Encloses root k (.access target arguments a) → k < maxDepth) ∧
        Denotes root (.type t) := by
  rw [interpret_eq_ok_of_denote_iff, denote_eq_ok_iff]
  simp only [WithinLimit, Nat.zero_add]

end Node

end TypeExpr
