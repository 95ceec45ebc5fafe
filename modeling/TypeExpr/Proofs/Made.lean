import TypeExpr.Proofs.Case
import TypeExpr.Proofs.Parsing
import TypeExpr.Proofs.Parts
import TypeExpr.Proofs.Pieces
import TypeExpr.Proofs.Rounding

/-!
# What the types have that are read

A type that a text denotes is not any type: its names are in lower case, and it can be told from its
text (`of_parse`).  Names are lowered where a type is made; elements, keys and values are looked at,
and members of lists are counted, before it is made.  Its doubles are finite because the lexer gives
no others (`isFinite_of_tokens?`) and because no 64-bit integer is beyond the doubles.

All of this is said of one part of a type (`DataType.Regular`) and passed on from values to values:
a name makes regular types of regular arguments (`regular_of_applied`), and an expression over
finite tokens denotes regular values (`Grammar.Expression.regular`).  The rules say it all; the
evaluator is not opened here.

It is not only types that are followed, since a double is a value too and may become a bound.
Strings are followed nowhere: a name can be made of any string, and is put in lower case then.
-/

namespace TypeExpr

open Grammar (Expression Specification)
open Rules

/-! ## The doubles of a text

A number that is beyond the doubles is refused when it is read, so all that is left are finite.
-/

/-- The token is no double, or a finite one. -/
def Token.IsFinite : Token → Prop
  | float x => x.isFinite = true
  | _ => True

/-- The doubles among the tokens that can be read are finite. -/
theorem Token.Lexical.isFinite {t : Token} (h : t.Lexical) : t.IsFinite := by
  cases h with
  | float hx => exact hx
  | _ => trivial

/-- The doubles among the tokens of a text are finite. -/
theorem isFinite_of_tokens? [PatternLanguage] {text : String} {ts : List Token}
    (h : Cursor.tokens? ⟨0, text.toList⟩ = some ts) : ∀ t ∈ ts, t.IsFinite := by
  obtain ⟨ls, hls, rfl⟩ := tokens?_eq_some_iff.1 h
  intro t ht
  obtain ⟨l, hl, rfl⟩ := List.mem_map.1 ht
  exact (Cursor.lexical_of_lexemes hls l hl).isFinite

/-! ## The types that are made

Each function that makes a type keeps the parts of it regular.
-/

namespace DataType

/-- One part of a type is as it is in every type that is read. -/
def Regular (t : DataType) : Prop := Lowered t ∧ Sound t

theorem lowerName_lowerName (name : String) : lowerName (lowerName name) = lowerName name := by
  simp [lowerName, Text.lower_lower]

/-- A class is made with its name in lower case. -/
theorem regular_classOf (name : String) : Everywhere Regular (classOf (some name)) := by
  rw [classOf, everywhere_iff_self (by rintro u ⟨⟩; rfl)]
  exact ⟨lowerName_lowerName name, trivial, trivial, trivial⟩

/-- A resource is made with its kind in lower case; the title is kept as it is. -/
theorem regular_resourceOf (kind : String) (title : Option String) :
    Everywhere Regular (resourceOf (some kind) title) := by
  rw [resourceOf, everywhere_iff_self (by rintro u ⟨⟩; rfl)]
  exact ⟨lowerName_lowerName kind, trivial, trivial, trivial⟩

/-- A list is regular if its elements are and are not undefined. -/
theorem regular_array {e : DataType} (hne : e ≠ plain .undef) (h : Everywhere Regular e) :
    Everywhere Regular (array e) :=
  everywhere_array_iff.2 ⟨⟨trivial, hne, trivial, trivial⟩, h⟩

/-- A table is regular if its keys and values are and neither are undefined. -/
theorem regular_hash {k v : DataType} (hkey : k ≠ plain .undef) (hvalue : v ≠ plain .undef)
    (hk : Everywhere Regular k) (hv : Everywhere Regular v) : Everywhere Regular (hash k v) :=
  everywhere_hash_iff.2 ⟨⟨trivial, ⟨hkey, hvalue⟩, trivial, trivial⟩, hk, hv⟩

/-- A variant is regular if its members are and there is not just one. -/
theorem regular_variant {ts : List DataType} (h : ts.length = 0 ∨ 2 ≤ ts.length)
    (hts : ∀ t ∈ ts, Everywhere Regular t) : Everywhere Regular (variant ts) :=
  everywhere_variant_iff.2 ⟨⟨trivial, trivial, h, trivial⟩, hts⟩

theorem regular_plain (p : Plain) : Everywhere Regular (plain p) :=
  (everywhere_iff_self (by rintro u ⟨⟩; rfl)).2 ⟨trivial, trivial, trivial, trivial⟩

/-- The type of a name without arguments is regular. -/
theorem regular_of_bare {name : String} {t : DataType} (h : Bare name t) :
    Everywhere Regular t := by
  cases h with
  | array => exact regular_array (by simp) (regular_plain _)
  | hash => exact regular_hash (by simp) (by simp) (regular_plain _) (regular_plain _)
  | variant => exact regular_variant (.inl rfl) (by simp)
  | other => exact regular_resourceOf _ none
  | _ =>
    refine (everywhere_iff_self (by rintro u ⟨⟩; rfl)).2 ?_
    simp [Regular, Sound, Lowered, Collects, Listed, Bounded]

end DataType

/-! ## The values of expressions

By induction on the derivation, each rule gives a regular value if its arguments are regular.
-/

/-- A value that is a type is regular, and one that is a double is finite. -/
def Value.Regular : Value → Prop
  | type t => DataType.Everywhere DataType.Regular t
  | float x => x.isFinite = true
  | _ => True

namespace Rules

/-- What counts as a bound gives a finite one: a double that was read, or the one next to an
    integer. -/
theorem isFinite_of_isFloatBound {v : Value} {b : Option Double} (h : IsFloatBound v b)
    (hv : v.Regular) : ∀ x ∈ b, x.isFinite = true := by
  rintro x hx
  cases h with
  | integer n =>
    cases hx
    exact Double.isFinite_ofInt n
  | float y =>
    cases hx
    exact hv
  | unbounded => cases hx

open DataType in
/-- What a name makes of arguments is regular if they are. -/
theorem regular_of_applied {name : String} {vs : List Value} {t : DataType} (h : Applied name vs t)
    (hvs : ∀ v ∈ vs, v.Regular) : Everywhere DataType.Regular t := by
  cases h with
  | @array e hne => exact regular_array hne (hvs (.type e) (by simp))
  | @hashOf v hne =>
    exact regular_hash (by simp) hne (regular_plain _) (hvs (.type v) (by simp))
  | @hash k v hk hv =>
    exact regular_hash hk hv (hvs (.type k) (by simp)) (hvs (.type v) (by simp))
  | classes s => exact regular_classOf s
  | resource => exact regular_resourceOf _ none
  | resourceTitled => exact regular_resourceOf _ _
  | other => exact regular_resourceOf _ _
  | @variant ts hts =>
    refine regular_variant (.inr hts) fun t ht => ?_
    exact hvs (.type t) (List.mem_map.2 ⟨t, ht, rfl⟩)
  -- here the doubles come in
  | @floatPoint v x hv =>
    have hx := isFinite_of_isFloatBound hv (hvs v (by simp))
    exact (everywhere_iff_self (by rintro u ⟨⟩; rfl)).2 ⟨trivial, trivial, trivial, hx, hx⟩
  | @floatRange v w a b hv hw =>
    have ha := isFinite_of_isFloatBound hv (hvs v (by simp))
    have hb := isFinite_of_isFloatBound hw (hvs w (by simp))
    exact (everywhere_iff_self (by rintro u ⟨⟩; rfl)).2 ⟨trivial, trivial, trivial, ha, hb⟩
  | enum hss =>
    exact (everywhere_iff_self (by rintro u ⟨⟩; rfl)).2 ⟨trivial, trivial, .inr hss, trivial⟩
  | pattern hps =>
    exact (everywhere_iff_self (by rintro u ⟨⟩; rfl)).2 ⟨trivial, trivial, .inr hps, trivial⟩
  | _ =>
    refine (everywhere_iff_self (by rintro u ⟨⟩; rfl)).2 ?_
    simp [DataType.Regular, Sound, Lowered, Collects, Listed, Bounded]

/-- What a leaf denotes is regular if its token is finite. -/
theorem regular_of_means {t : Token} {l : Leaf} {v : Value} (ht : t.Means l) (hfinite : t.IsFinite)
    (h : Denotes (.leaf l ()) v) : v.Regular := by
  cases h with
  | float x =>
    cases ht
    exact hfinite
  | reference _ hb => exact DataType.regular_of_bare hb
  | _ => trivial

end Rules

/-- What arguments denote is regular if it is for each of them. -/
theorem regular_of_forall₂ {ns : List (Node Unit)} {vs : List Value}
    (h : ∀ n ∈ ns, ∀ v, Denotes n v → v.Regular) (hvs : List.Forall₂ Denotes ns vs) :
    ∀ v ∈ vs, v.Regular := by
  induction hvs with
  | nil => simp
  | cons hn _ ih =>
    obtain ⟨hhead, htail⟩ := List.forall_mem_cons.1 h
    exact List.forall_mem_cons.2 ⟨hhead _ hn, ih htail⟩

/-- **Regularity**: an expression over finite tokens denotes regular values only. -/
theorem Grammar.Expression.regular {ts : List Token} {n : Node Unit} (h : Expression ts n) :
    (∀ t ∈ ts, t.IsFinite) → ∀ v, Denotes n v → v.Regular := by
  -- on the grammar: all but the leaves hand on what is known of their parts
  refine Expression.induct
    (P := fun ts n => (∀ t ∈ ts, t.IsFinite) → ∀ v, Denotes n v → v.Regular)
    (Q := fun ts ns => (∀ t ∈ ts, t.IsFinite) → ∀ n ∈ ns, ∀ v, Denotes n v → v.Regular)
    (R := fun ts ns => (∀ t ∈ ts, t.IsFinite) → ∀ n ∈ ns, ∀ v, Denotes n v → v.Regular)
    ?leaf ?array ?access ?none id ?trailing ?one ?more h
  case leaf =>
    intro t l ht hfinite v hv
    exact regular_of_means ht (hfinite t (by simp)) hv
  case array =>
    intro us ns _ _ v hv
    cases hv
  case access =>
    intro ts us n ns _ hns hfinite v hv
    cases hv with
    | access _ _ hvs happ =>
      have hargs := hns fun t ht => hfinite t (by simp [ht])
      exact regular_of_applied happ (regular_of_forall₂ hargs hvs)
  case none => simp
  case trailing =>
    intro ts ns hns hfinite
    exact hns fun t ht => hfinite t (by simp [ht])
  case one =>
    intro ts n hn hfinite m hm
    rw [List.mem_singleton.1 hm]
    exact hn hfinite
  case more =>
    intro ts us ns n hns hn hfinite m hm
    rcases List.mem_append.1 hm with hm | hm
    · exact hns (fun t ht => hfinite t (by simp [ht])) m hm
    · rw [List.mem_singleton.1 hm]
      exact hn fun t ht => hfinite t (by simp [ht])

/-- The names of a type that a text denotes are in lower case, and the type can be told from its
    text. -/
theorem DataType.of_parse [PatternLanguage] {text : String} {t : DataType}
    (h : parse text = .ok t) : Everywhere Lowered t ∧ t.Readable := by
  obtain ⟨ts, n, hts, hspec, hden⟩ := parse_eq_ok_iff.1 h
  have : Everywhere Regular t := hspec.1.regular (isFinite_of_tokens? hts) _ hden
  rw [readable_iff]
  exact everywhere_and_iff.1 this

end TypeExpr
