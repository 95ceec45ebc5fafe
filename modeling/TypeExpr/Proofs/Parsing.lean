import TypeExpr.Proofs.Grammar
import TypeExpr.Proofs.Reading
import TypeExpr.Proofs.Rules

/-!
# What a text denotes

Reading a text goes through its tokens, the expression they make up, and the type that it denotes.
`parse_eq_ok_iff` puts this without any of the three programs: a text denotes a type exactly if its
tokens derive, by the grammar, an expression that has the type by the rules of meaning.

Spans drop out on the way, since an expression denotes what its shape does (`denotes_shape_iff`).
So does the limit on accesses inside accesses: an access takes a bracket, and of these no more than
`maxDepth` are open at once anyway (`withinLimit_of_specification`).

That last point is an induction on the grammar, and what carries it says two things of the tokens of
an expression at once (`Grammar.Fits`).  They close what they open; so where the tokens of one part
end, as many brackets are open as before it.  And with so many brackets open in front of them that
none too many is open anywhere in them, no access in the expression stands too deep.
-/

namespace TypeExpr

open Rules

/-! ## Spans do not matter

What an expression denotes, and how deep accesses stand in it, can be read off its shape.
-/

namespace Node

variable {α : Type}

theorem withinLimit_array (depth : Nat) (items : List (Node α)) (a : α) :
    WithinLimit depth (.array items a) := by
  rintro k target arguments b h
  cases h

mutual

/-- What an expression denotes does not depend on its notes. -/
theorem denotes_shape_iff : ∀ (n : Node α) (v : Value), Denotes n.shape v ↔ Denotes n v
  | leaf l a, v => by
    rw [shape]
    constructor <;> intro h <;> cases h <;> constructor <;> assumption
  | array items a, v => by
    rw [shape]
    constructor <;> intro h <;> cases h
  -- only a leaf can be applied; of the other targets there is nothing to denote on either side
  | access (leaf l b) arguments a, v => by
    rw [shape, shape]
    constructor
    · intro h
      cases h with
      | access _ _ hargs happ =>
        exact .access a b ((forall₂_denotes_shapes arguments _).1 hargs) happ
    · intro h
      cases h with
      | access _ _ hargs happ =>
        exact .access () () ((forall₂_denotes_shapes arguments _).2 hargs) happ
  | access (array items b) arguments a, v => by
    rw [shape, shape]
    constructor <;> intro h <;> cases h
  | access (access target us b) arguments a, v => by
    rw [shape, shape]
    constructor <;> intro h <;> cases h

/-- So of the arguments of an access. -/
theorem forall₂_denotes_shapes : ∀ (ns : List (Node α)) (vs : List Value),
    List.Forall₂ Denotes (shapes ns) vs ↔ List.Forall₂ Denotes ns vs
  | [], vs => by cases vs <;> simp [shapes]
  | n :: ns, vs => by
    cases vs with
    | nil => simp [shapes]
    | cons v vs =>
      rw [shapes, List.forall₂_cons, List.forall₂_cons, denotes_shape_iff n v,
        forall₂_denotes_shapes ns vs]

end

mutual

/-- How deep accesses stand does not depend on notes either. -/
theorem withinLimit_shape_iff : ∀ (n : Node α) (depth : Nat),
    WithinLimit depth n.shape ↔ WithinLimit depth n
  | leaf l a, depth => by
    rw [shape]
    exact iff_of_true (withinLimit_leaf depth l ()) (withinLimit_leaf depth l a)
  | array items a, depth => by
    rw [shape]
    exact iff_of_true (withinLimit_array depth _ ()) (withinLimit_array depth items a)
  | access target arguments a, depth => by
    rw [shape, withinLimit_access_iff, withinLimit_access_iff, withinLimit_shapes_iff arguments]

/-- So of the arguments of an access. -/
theorem withinLimit_shapes_iff : ∀ (ns : List (Node α)) (depth : Nat),
    (∀ n ∈ shapes ns, WithinLimit depth n) ↔ ∀ n ∈ ns, WithinLimit depth n
  | [], depth => by simp [shapes]
  | n :: ns, depth => by
    rw [shapes, List.forall_mem_cons, List.forall_mem_cons, withinLimit_shape_iff n depth,
      withinLimit_shapes_iff ns depth]

end

end Node

/-! ## An access takes a bracket

Along the grammar: an access stands inside another one only if it stands in its brackets.  So the
limit on brackets keeps accesses within theirs.
-/

namespace Grammar

open Node (WithinLimit)

/-- What the tokens of an expression open they close, and no access in it stands too deep for the
    brackets that are open around it. -/
def Fits (ts : List Token) (n : Node Unit) : Prop :=
  (∀ k, openAfter k ts = k) ∧ ∀ depth, mostOpen depth ts ≤ maxDepth → WithinLimit depth n

/-- The same of the expressions of a list. -/
def FitAll (ts : List Token) (ns : List (Node Unit)) : Prop :=
  (∀ k, openAfter k ts = k) ∧
    ∀ depth, mostOpen depth ts ≤ maxDepth → ∀ n ∈ ns, WithinLimit depth n

/-- An access fits if the target and the arguments do: its own bracket is one that is open around
    the arguments. -/
theorem fits_access {ts us : List Token} {n : Node Unit} {ns : List (Node Unit)} (ht : Fits ts n)
    (hu : FitAll us ns) : Fits (ts ++ .openBracket :: us ++ [.closeBracket]) (.access n ns ()) := by
  rw [List.append_assoc]
  refine ⟨fun k => ?_, fun depth hdepth => ?_⟩
  · rw [openAfter_append, ht.1, openAfter_bracketed hu.1]
  · rw [mostOpen_append, ht.1] at hdepth
    have hinside : mostOpen depth (.openBracket :: us ++ [.closeBracket]) ≤ maxDepth := by omega
    -- around the arguments the bracket of the access is open
    obtain ⟨hroom, hdepth⟩ := mostOpen_of_bracketed hinside
    exact Node.withinLimit_access_iff.2 ⟨hroom, hu.2 (depth + 1) hdepth⟩

/-- A list goes on fitting with an expression more that fits. -/
theorem fitAll_more {ts us : List Token} {ns : List (Node Unit)} {n : Node Unit} (ht : FitAll ts ns)
    (hu : Fits us n) : FitAll (ts ++ .comma :: us) (ns ++ [n]) := by
  have hcomma (k : Nat) : openAfter k (.comma :: us) = k := hu.1 k
  refine ⟨fun k => ?_, fun depth hdepth m hm => ?_⟩
  · rw [openAfter_append, ht.1, hcomma]
  · rw [mostOpen_append, ht.1] at hdepth
    simp only [mostOpen, Token.opened] at hdepth
    rcases List.mem_append.1 hm with hm | hm
    · exact ht.2 depth (by omega) m hm
    · rw [List.mem_singleton.1 hm]
      exact hu.2 depth (by omega)

/-- **Limit**: an expression fits its tokens, as one sees along the grammar. -/
theorem Expression.fits {ts : List Token} {n : Node Unit} (h : Expression ts n) : Fits ts n := by
  refine Expression.induct (P := Fits) (Q := FitAll) (R := FitAll) ?_ ?_ fits_access ?_ id ?_ ?_
    fitAll_more h
  · -- the cases are the productions, in the order in which the grammar lists them
    intro t v ht
    exact ⟨opened_of_means ht, fun depth _ => Node.withinLimit_leaf depth v ()⟩
  · intro us ns hu
    exact ⟨openAfter_bracketed hu.1, fun depth _ => Node.withinLimit_array depth ns ()⟩
  · refine ⟨fun _ => rfl, fun depth _ n hn => ?_⟩
    cases hn
  · intro ts ns ht
    refine ⟨fun k => ?_, fun depth hdepth => ?_⟩
    · rw [openAfter_append, ht.1]
      rfl
    · rw [mostOpen_append] at hdepth
      exact ht.2 depth (by omega)
  · intro ts n ht
    refine ⟨ht.1, fun depth hdepth m hm => ?_⟩
    rw [List.mem_singleton.1 hm]
    exact ht.2 depth hdepth

/-- So in a specification no access stands too deep. -/
theorem withinLimit_of_specification {ts : List Token} {n : Node Unit} (h : Specification ts n) :
    WithinLimit 0 n := h.1.fits.2 0 h.2

end Grammar

/-! ## The whole

Reading and evaluation put together.  Since a text that is read keeps within the limit, the rules of
meaning alone decide what it denotes.
-/

open Grammar (Specification)

section

variable [PatternLanguage]

/-- A text is read as an expression exactly if it has lexemes and these make it up. -/
theorem Node.ofText_eq_ok_iff {text : String} {root : Node Span} :
    ofText text = .ok (some root) ↔ ∃ ls, tokenize text = .ok ls ∧
      ofLexemes (Text.byteLength text.toList) ls = .ok root := by
  unfold ofText
  cases tokenize text with
  | error e => simp
  | ok ls =>
    cases ls with
    | nil =>
      have hnil (stop : Nat) : ofLexemes stop [] = .error ⟨.valueExpected none, .point stop⟩ := rfl
      simp [hnil]
    | cons t ts =>
      cases h : ofLexemes (Text.byteLength text.toList) (t :: ts) <;> simp [Except.map, h]

/-- In a tree that was read no access stands too deep. -/
theorem Node.withinLimit_of_ofText {text : String} {root : Node Span}
    (h : ofText text = .ok (some root)) : WithinLimit 0 root := by
  obtain ⟨ls, -, hroot⟩ := ofText_eq_ok_iff.1 h
  exact (withinLimit_shape_iff root 0).1
    (Grammar.withinLimit_of_specification (specification_of_ofLexemes hroot))

/-- The shapes of what a text is read as are the expressions that its tokens derive. -/
theorem Node.exists_ofText_iff {text : String} {n : Node Unit} :
    (∃ root, ofText text = .ok (some root) ∧ root.shape = n) ↔
      ∃ ts, Cursor.tokens? ⟨0, text.toList⟩ = some ts ∧ Specification ts n := by
  constructor
  · rintro ⟨root, hroot, rfl⟩
    obtain ⟨ls, hls, hroot⟩ := ofText_eq_ok_iff.1 hroot
    exact ⟨_, tokens?_eq_some_iff.2 ⟨ls, hls, rfl⟩, specification_of_ofLexemes hroot⟩
  · rintro ⟨ts, hts, hspec⟩
    obtain ⟨ls, hls, rfl⟩ := tokens?_eq_some_iff.1 hts
    obtain ⟨root, hroot, hshape⟩ :=
      exists_ofLexemes_of_specification hspec (Text.byteLength text.toList)
    exact ⟨root, ofText_eq_ok_iff.2 ⟨ls, hls, hroot⟩, hshape⟩

/-- A text is parsed as a type exactly if it is read as an expression that comes to the type. -/
theorem parse_eq_ok_iff_ofText {text : String} {t : DataType} : parse text = .ok t ↔
    ∃ root, Node.ofText text = .ok (some root) ∧ root.interpret text = .ok t := by
  unfold parse
  split <;> simp_all

/-- **Parsing**: a text denotes a type exactly if its tokens derive an expression that has the type
    by the rules. -/
theorem parse_eq_ok_iff {text : String} {t : DataType} : parse text = .ok t ↔
    ∃ ts n, Cursor.tokens? ⟨0, text.toList⟩ = some ts ∧ Specification ts n ∧
      Denotes n (.type t) := by
  rw [parse_eq_ok_iff_ofText]
  constructor
  · rintro ⟨root, hroot, hden⟩
    obtain ⟨ts, hts, hspec⟩ := Node.exists_ofText_iff.1 ⟨root, hroot, rfl⟩
    rw [Node.interpret_eq_ok_of_denote_iff, Node.denote_eq_ok_iff] at hden
    exact ⟨ts, root.shape, hts, hspec, (Node.denotes_shape_iff root _).2 hden.2⟩
  · rintro ⟨ts, n, hts, hspec, hden⟩
    obtain ⟨root, hroot, rfl⟩ := Node.exists_ofText_iff.2 ⟨ts, hts, hspec⟩
    refine ⟨root, hroot, ?_⟩
    rw [Node.interpret_eq_ok_of_denote_iff, Node.denote_eq_ok_iff]
    exact ⟨Node.withinLimit_of_ofText hroot, (Node.denotes_shape_iff root _).1 hden⟩

end

/-! ## A text of one token

The smallest case, used for texts of one word.
-/

/-- What is read as a leaf is a single token, which stands for the leaf. -/
theorem Grammar.specification_leaf_iff {ts : List Token} {l : Leaf} :
    Specification ts (.leaf l ()) ↔ ∃ t, ts = [t] ∧ t.Means l := by
  constructor
  · rintro ⟨hexpr, -⟩
    cases hexpr with
    | primary hprimary =>
      cases hprimary with
      | leaf ht => exact ⟨_, rfl, ht⟩
  · rintro ⟨t, rfl, ht⟩
    refine ⟨.primary (.leaf ht), ?_⟩
    show max 0 (t.opened 0) ≤ maxDepth
    rw [opened_of_means ht]
    exact Nat.zero_le maxDepth

/-- A text with a single token denotes what the token stands for. -/
theorem parse_eq_ok_iff_of_means [PatternLanguage] {text : String} {t : Token} {l : Leaf}
    {type : DataType} (h : Cursor.tokens? ⟨0, text.toList⟩ = some [t]) (ht : t.Means l) :
    parse text = .ok type ↔ Denotes (.leaf l ()) (.type type) := by
  have hspec : Specification [t] (.leaf l ()) := Grammar.specification_leaf_iff.2 ⟨t, rfl, ht⟩
  rw [parse_eq_ok_iff]
  constructor
  · rintro ⟨ts, n, hts, hn, hden⟩
    cases h.symm.trans hts
    rwa [Node.specification_unique hn hspec] at hden
  · intro hden
    exact ⟨_, _, h, hspec, hden⟩

end TypeExpr
