import TypeExpr.Proofs.Canonical
import TypeExpr.Proofs.Parts
import TypeExpr.Proofs.Rules

/-!
# What the canonical text denotes

By the rules of meaning the expression that a canonical text is meant as denotes the type itself, if
each part of the type is sound, and it denotes nothing else in any case (`denotes_form_iff`).  This
goes by induction on the type; the types of its parts are the values that a rule takes as
arguments.

It takes three steps to get there, and all of them say what something denotes *exactly*, so that the
induction runs in both directions at once.

1. *Words.*  The title of a type is read as the word by which the rules know it; a reference without
   arguments, a text in apostrophes and a name denote one value each (`denotes_plain_iff`,
   `denotes_quoteForm_iff`, `denotes_nameForm_iff`).  A bound is the place where soundness comes in:
   what is written for an infinite or an undefined one is not read as a bound at all
   (`eq_of_denotes_doubleBound`).
2. *Names applied to arguments.*  For each name that the canonical text uses with arguments there is
   one lemma that says of which values it makes a type, and which (`applied_array_iff` and so on).
   Where the number of arguments is fixed, this is read off the function that applies the name,
   through `applied_iff_apply`; where it is not, off the one rule for the name.
3. *Kinds of types.*  With these, the form of each kind of type is looked at by itself.  Only the
   kinds that have types as parts need the hypothesis of the induction.

Types whose names are not in lower case are left out by a hypothesis (`Lowered`), and not because
they would fail: their texts denote the types with the names in lower case, which are other types.
No type that is made by a text has such names (`Made`).
-/

namespace TypeExpr

open Rules

/-! ## Words

What a single word denotes.  Each lemma says so for every value, so that a word which denotes
nothing is covered by the same lemma as one that does.
-/

/-- The title of a name that forms types is read as the word by which the rules know it. -/
theorem referenceLeaf_former (f : Former) :
    referenceLeaf f.title = .reference (TypeName.former f).word := by
  have hroot : dropRoot f.title.toList = f.title.toList := by
    cases f <;> rfl
  rw [referenceLeaf, hroot, TypeName.lower_former_title]

theorem referenceLeaf_plain (p : Plain) :
    referenceLeaf p.title = .reference (TypeName.plain p).word := by
  have hroot : dropRoot p.title.toList = p.title.toList := by
    cases p <;> rfl
  rw [referenceLeaf, hroot, TypeName.lower_plain_title]

/-- A reference without arguments denotes the type that it is bare, and nothing if it cannot be. -/
theorem denotes_reference_iff {r : String} {v : Value} :
    Denotes (.leaf (.reference r) ()) v ↔ ∃ t, Bare r t ∧ v = .type t := by
  constructor
  · intro h
    cases h with
    | reference _ hb => exact ⟨_, hb, rfl⟩
  · rintro ⟨t, hb, rfl⟩
    exact .reference () hb

theorem denotes_referenceForm_iff {name r : String} (hname : referenceLeaf name = .reference r)
    {v : Value} : Denotes (referenceForm name).tree v ↔ ∃ t, Bare r t ∧ v = .type t := by
  rw [← denotes_reference_iff, ← hname]
  exact Iff.rfl

/-- The name of a plain type denotes that type. -/
theorem denotes_plain_iff (p : Plain) {v : Value} :
    Denotes (referenceForm p.title).tree v ↔ v = .type (.plain p) := by
  have hname : TypeName.ofLower (TypeName.plain p).word = .plain p := by
    cases p <;> rfl
  rw [denotes_referenceForm_iff (referenceLeaf_plain p)]
  simp [← @TypeName.bare_eq_ok_iff Unit (), hname, TypeName.bare]

/-- The name of a type former without arguments denotes the type that it makes of none. -/
theorem denotes_former_iff (f : Former) {v : Value} :
    Denotes (referenceForm f.title).tree v ↔ v = .type (.ofFormer f) := by
  have hname : TypeName.ofLower (TypeName.former f).word = .former f := by
    cases f <;> rfl
  rw [denotes_referenceForm_iff (referenceLeaf_former f)]
  simp [← @TypeName.bare_eq_ok_iff Unit (), hname, TypeName.bare]

/-- A text in apostrophes denotes the text. -/
theorem denotes_quoteForm_iff {s : String} {v : Value} :
    Denotes (quoteForm s).tree v ↔ v = .string s := by
  constructor
  · intro h
    cases h
    rfl
  · rintro rfl
    exact .string s ()

/-- A plain word has no two colons in front that could be dropped. -/
theorem dropRoot_of_isPlain {k : WordKind} (hk : k.Lawful) {w : List Char}
    (h : k.isPlain w = true) : dropRoot w = w := by
  obtain ⟨c, cs, rfl, hcolon, -⟩ := WordKind.exists_of_isPlain hk h
  exact Text.dropRoot_cons hcolon cs

/-- The name of a class is read as itself, whichever way it is written. -/
theorem denotes_nameForm_iff {name : String} {v : Value} :
    Denotes (nameForm name).tree v ↔ v = .string name := by
  -- bare if it is a plain word and no keyword, and otherwise in apostrophes
  unfold nameForm
  split
  · rename_i h
    rw [Bool.and_eq_true, Bool.not_eq_true', List.contains_eq_mem, decide_eq_false_iff_not] at h
    rw [Form.tree, Token.leaf?_name h.2, dropRoot_of_isPlain WordKind.lawful_name h.1,
      String.ofList_toList, Option.getD_some]
    constructor
    · intro h
      cases h
      rfl
    · rintro rfl
      exact .name name ()
  · exact denotes_quoteForm_iff

/-! ## Bounds

A bound that is open is written as the word for it, which counts as a bound that is not there.  For
integers this is all.  A double that is not finite is written as `NaN`, `inf` or `-inf`: the first
is read as a reference, the second as a name, the third not at all, and none of them as a bound.
-/

/-- The value of an integer bound. -/
def integerBoundValue : Option Int64 → Value
  | some n => .integer n
  | none => .unbounded

/-- An integer bound is read as its value; one that is open is written as the word for that. -/
theorem denotes_integerBound_iff {b : Option Int64} {v : Value} :
    Denotes (boundForm integerForm b).tree v ↔ v = integerBoundValue b := by
  cases b with
  | none =>
    constructor
    · intro h
      cases h
      rfl
    · rintro rfl
      exact .unbounded ()
  | some n =>
    constructor
    · intro h
      cases h
      rfl
    · rintro rfl
      exact .integer n ()

/-- The value of an integer bound counts as that bound. -/
theorem isIntegerBound_iff {b a : Option Int64} :
    IsIntegerBound (integerBoundValue b) a ↔ a = b := by
  cases b with
  | none =>
    constructor
    · rintro ⟨⟩
      rfl
    · rintro rfl
      exact .unbounded
  | some n =>
    constructor
    · rintro ⟨⟩
      rfl
    · rintro rfl
      exact .integer n

/-- A finite bound is read as itself. -/
theorem exists_denotes_doubleBound {b : Option Double} (h : ∀ x ∈ b, x.isFinite = true) :
    ∃ v, Denotes (boundForm doubleForm b).tree v ∧ IsFloatBound v b := by
  cases b with
  | none => exact ⟨.unbounded, .unbounded (), .unbounded⟩
  | some x =>
    cases x with
    | nan => exact absurd (h _ rfl) (by decide)
    | infinite negative => exact absurd (h _ rfl) (by simp [Double.isFinite])
    | finite negative rank => exact ⟨.float _, .float _ (), .float _⟩

/-- Only a finite bound is read as a bound, and only as itself. -/
theorem eq_of_denotes_doubleBound {b a : Option Double} {v : Value}
    (hv : Denotes (boundForm doubleForm b).tree v) (ha : IsFloatBound v a) :
    a = b ∧ ∀ x ∈ b, x.isFinite = true := by
  cases b with
  | none =>
    cases hv
    cases ha
    exact ⟨rfl, by simp⟩
  | some x =>
    fun_cases doubleForm x with
    | case1 =>
      -- `NaN` is read as a kind of resource, and no type is a bound
      have hname : referenceLeaf "NaN" = .reference "nan" := by decide
      obtain ⟨t, -, rfl⟩ := (denotes_referenceForm_iff hname).1 hv
      cases ha
    | case2 =>
      -- `inf` is read as a name, and no text is a bound
      cases hv
      cases ha
    -- `-inf` is no word at all
    | case3 => cases hv
    | case4 negative rank =>
      cases hv
      cases ha
      refine ⟨rfl, ?_⟩
      rintro x ⟨⟩
      rfl

/-! ## What one name makes of arguments

The rules for each name turned around: of which values it makes a type.  They are the cases of the
induction below, one for each kind of type, and the only place where the number of arguments comes
in.
-/

section Applied

variable {v w : Value} {t : DataType}

/-- By the rules a name makes of values what the interpreter makes of them, blames left aside.  So
    the rules for a name can be turned around by looking at the function, where the number of
    arguments settles which branch it is. -/
theorem applied_iff_apply {name : String} {vs : List Value} : Applied name vs t ↔
    TypeName.apply () (.ofLower name) (vs.map fun v => (⟨v, ()⟩ : Argument Unit)) = .ok t := by
  rw [TypeName.apply_eq_ok_iff, List.map_map]
  exact iff_of_eq (congrArg (Applied name · t) (List.map_id vs).symm)

/-- A list is made of one type, which is not the undefined one. -/
theorem applied_array_iff : Applied "array" [v] t ↔
    ∃ e, v = .type e ∧ e ≠ .plain .undef ∧ t = .array e := by
  constructor
  · intro h
    obtain ⟨e, he, rfl⟩ := Argument.one_eq_ok_iff.1 (applied_iff_apply.1 h)
    obtain ⟨rfl, hne⟩ := Value.structural?_eq_some_iff.1 he
    exact ⟨e, rfl, hne, rfl⟩
  · rintro ⟨e, rfl, hne, rfl⟩
    exact .array hne

/-- A table is made of two types, neither of which is the undefined one. -/
theorem applied_hash_iff : Applied "hash" [v, w] t ↔ ∃ k e, v = .type k ∧ w = .type e ∧
    k ≠ .plain .undef ∧ e ≠ .plain .undef ∧ t = .hash k e := by
  constructor
  · intro h
    obtain ⟨k, e, hk, he, rfl⟩ := Argument.two_eq_ok_iff.1 (applied_iff_apply.1 h)
    obtain ⟨rfl, hkey⟩ := Value.structural?_eq_some_iff.1 hk
    obtain ⟨rfl, hvalue⟩ := Value.structural?_eq_some_iff.1 he
    exact ⟨k, e, rfl, rfl, hkey, hvalue, rfl⟩
  · rintro ⟨k, e, rfl, rfl, hkey, hvalue, rfl⟩
    exact .hash hkey hvalue

/-- A range of integers is made of two values that count as its bounds. -/
theorem applied_integer_iff : Applied "integer" [v, w] t ↔
    ∃ a b, IsIntegerBound v a ∧ IsIntegerBound w b ∧ t = .integer a b := by
  constructor
  · intro h
    obtain ⟨a, b, ha, hb, rfl⟩ := Argument.two_eq_ok_iff.1 (applied_iff_apply.1 h)
    exact ⟨a, b, Value.integerBound?_eq_some_iff.1 ha, Value.integerBound?_eq_some_iff.1 hb, rfl⟩
  · rintro ⟨a, b, ha, hb, rfl⟩
    exact .integerRange ha hb

/-- A range of numbers is made of two values that count as its bounds. -/
theorem applied_float_iff : Applied "float" [v, w] t ↔
    ∃ a b, IsFloatBound v a ∧ IsFloatBound w b ∧ t = .float a b := by
  constructor
  · intro h
    obtain ⟨a, b, ha, hb, rfl⟩ := Argument.two_eq_ok_iff.1 (applied_iff_apply.1 h)
    exact ⟨a, b, Value.floatBound?_eq_some_iff.1 ha, Value.floatBound?_eq_some_iff.1 hb, rfl⟩
  · rintro ⟨a, b, ha, hb, rfl⟩
    exact .floatRange ha hb

/-- A text becomes the pattern of a regular expression as it is. -/
theorem applied_regexp_iff {p : String} :
    Applied "regexp" [.string p] t ↔ t = .regexp (some p) := by
  constructor
  · intro h
    obtain ⟨q, hq, rfl⟩ := Argument.one_eq_ok_iff.1 (applied_iff_apply.1 h)
    cases hq
    rfl
  · rintro rfl
    exact .regexp (.string p)

/-- A text becomes the name of a class in lower case. -/
theorem applied_classes_iff {name : String} :
    Applied "class" [.string name] t ↔ t = .classOf (some name) := by
  constructor
  · intro h
    obtain ⟨n, hn, rfl⟩ := Argument.one_eq_ok_iff.1 (applied_iff_apply.1 h)
    cases hn
    rfl
  · rintro rfl
    exact .classes name

/-- A text becomes a kind of resource in lower case. -/
theorem applied_resource_iff {kind : String} :
    Applied "resource" [.string kind] t ↔ t = .resourceOf (some kind) none := by
  constructor
  · intro h
    obtain ⟨k, hk, rfl⟩ := Argument.one_eq_ok_iff.1 (applied_iff_apply.1 h)
    cases hk
    rfl
  · rintro rfl
    exact .resource (.string kind)

/-- Of two texts the first one becomes the kind of a resource, and the second one its title. -/
theorem applied_resourceTitled_iff {kind title : String} :
    Applied "resource" [.string kind, .string title] t ↔
      t = .resourceOf (some kind) (some title) := by
  constructor
  · intro h
    obtain ⟨k, s, hk, hs, rfl⟩ := Argument.two_eq_ok_iff.1 (applied_iff_apply.1 h)
    cases hk
    cases hs
    rfl
  · rintro rfl
    exact .resourceTitled (.string kind) (.string title)

/-- A name that is not reserved is a kind of resource, of which a text is the title. -/
theorem applied_other_iff {name title : String} (hname : TypeName.ofLower name = .other name) :
    Applied name [.string title] t ↔ t = .resourceOf (some name) (some title) := by
  constructor
  · intro h
    have happly := applied_iff_apply.1 h
    rw [hname] at happly
    obtain ⟨s, hs, rfl⟩ := Argument.one_eq_ok_iff.1 happly
    cases hs
    rfl
  · rintro rfl
    exact .other (TypeName.ofLower_eq_other_iff.1 hname) (.string title)

/-- Texts are taken for the patterns that they are. -/
theorem forall₂_isPattern_iff {ss ps : List String} :
    List.Forall₂ IsPattern (ss.map .string) ps ↔ ps = ss := by
  induction ss generalizing ps with
  | nil => simp
  | cons s ss ih =>
    cases ps with
    | nil => simp
    | cons p ps =>
      have hp : IsPattern (.string s) p ↔ p = s := by
        constructor
        · rintro ⟨⟩
          rfl
        · rintro rfl
          exact .string p
      rw [List.map_cons, List.forall₂_cons, hp, ih, List.cons.injEq]

/-- Texts are the values of an enumeration if there are two of them at least.  Here no number of
    arguments settles which rule it is; the name does. -/
theorem applied_enum_iff {ss : List String} :
    Applied "enum" (ss.map .string) t ↔ t = .enum ss ∧ 2 ≤ ss.length := by
  constructor
  · intro h
    -- of the rules only two can be about this name, and one of them is about names that are not
    -- reserved
    generalize hname : "enum" = name at h
    generalize hvs : ss.map Value.string = vs at h
    cases h with
    | enum hlen =>
      obtain rfl := List.map_injective_iff.2 (fun _ _ => Value.string.inj) hvs
      exact ⟨rfl, hlen⟩
    | other hn _ => exact absurd (by simp [← hname, reservedNames]) hn
    | _ => exact absurd hname (by decide)
  · rintro ⟨rfl, hlen⟩
    exact .enum hlen

/-- Texts are the patterns of a pattern type if there are two of them at least. -/
theorem applied_pattern_iff {ss : List String} :
    Applied "pattern" (ss.map .string) t ↔ t = .pattern ss ∧ 2 ≤ ss.length := by
  constructor
  · intro h
    generalize hname : "pattern" = name at h
    generalize hvs : ss.map Value.string = vs at h
    cases h with
    | pattern hlen hps =>
      rw [← hvs] at hps
      obtain rfl := forall₂_isPattern_iff.1 hps
      exact ⟨rfl, hlen⟩
    | other hn _ => exact absurd (by simp [← hname, reservedNames]) hn
    | _ => exact absurd hname (by decide)
  · rintro ⟨rfl, hlen⟩
    exact .pattern hlen (forall₂_isPattern_iff.2 rfl)

/-- Types are those of a variant if there are two of them at least. -/
theorem applied_variant_iff {ts : List DataType} :
    Applied "variant" (ts.map .type) t ↔ t = .variant ts ∧ 2 ≤ ts.length := by
  constructor
  · intro h
    generalize hname : "variant" = name at h
    generalize hvs : ts.map Value.type = vs at h
    cases h with
    | variant hlen =>
      obtain rfl := List.map_injective_iff.2 (fun _ _ => Value.type.inj) hvs
      exact ⟨rfl, hlen⟩
    | other hn _ => exact absurd (by simp [← hname, reservedNames]) hn
    | _ => exact absurd hname (by decide)
  · rintro ⟨rfl, hlen⟩
    exact .variant hlen

end Applied

/-! ## Kinds of types one by one

With the words and the names at hand, the form of a type denotes the type if what it is made of
does.  For kinds with types in them that is what the induction will say, so here it is a hypothesis
on values.
-/

/-- What makes one type and no other, denotes that type. -/
theorem exists_type_iff {P : DataType → Prop} {t : DataType} {v : Value} (h : ∀ {u}, P u ↔ u = t) :
    (∃ u, P u ∧ v = .type u) ↔ v = .type t := by
  simp only [h, exists_eq_left]

/-- A reference with arguments denotes what it makes of what they denote. -/
theorem denotes_applied_iff {name r : String} (hname : referenceLeaf name = .reference r)
    {arguments : List Form} {v : Value} : Denotes (Form.applied name arguments).tree v ↔
      ∃ vs t, List.Forall₂ Denotes (arguments.map Form.tree) vs ∧ Applied r vs t ∧
        v = .type t := by
  rw [Form.tree, hname, Form.trees_eq_map]
  constructor
  · intro h
    cases h with
    | access _ _ hvs happ => exact ⟨_, _, hvs, happ, rfl⟩
  · rintro ⟨vs, t, hvs, happ, rfl⟩
    exact .access () () hvs happ

/-- The one argument of a name denotes the one value that the name is applied to. -/
theorem forall₂_one_iff {f : Form} {vs : List Value} :
    List.Forall₂ Denotes ([f].map Form.tree) vs ↔ ∃ v, Denotes f.tree v ∧ vs = [v] := by
  simp [List.forall₂_cons_left_iff]

theorem forall₂_two_iff {f g : Form} {vs : List Value} :
    List.Forall₂ Denotes ([f, g].map Form.tree) vs ↔
      ∃ v w, Denotes f.tree v ∧ Denotes g.tree w ∧ vs = [v, w] := by
  simp [List.forall₂_cons_left_iff]

/-- Texts in apostrophes denote the texts. -/
theorem forall₂_quoteForm_iff {ss : List String} {vs : List Value} :
    List.Forall₂ Denotes ((ss.map quoteForm).map Form.tree) vs ↔ vs = ss.map .string := by
  induction ss generalizing vs with
  | nil => simp
  | cons s ss ih =>
    rw [List.map_cons, List.map_cons, List.map_cons]
    cases vs with
    | nil => simp
    | cons v vs => rw [List.forall₂_cons, denotes_quoteForm_iff, ih, List.cons.injEq]

/-- A reference with texts in apostrophes denotes what it makes of the texts. -/
theorem denotes_applied_quotes_iff {name r : String} (hname : referenceLeaf name = .reference r)
    (ss : List String) {v : Value} : Denotes (Form.applied name (ss.map quoteForm)).tree v ↔
      ∃ t, Applied r (ss.map .string) t ∧ v = .type t := by
  rw [denotes_applied_iff hname]
  constructor
  · rintro ⟨vs, t, hvs, happ, rfl⟩
    rw [forall₂_quoteForm_iff.1 hvs] at happ
    exact ⟨t, happ, rfl⟩
  · rintro ⟨t, happ, rfl⟩
    exact ⟨_, t, forall₂_quoteForm_iff.2 rfl, happ, rfl⟩

namespace DataType

variable {v : Value}

/-- A range of integers is written so that it denotes the range.  If it is open on both sides, there
    is nothing in brackets. -/
theorem denotes_integer_iff {min max : Option Int64} :
    Denotes (integer min max).form.tree v ↔ v = .type (integer min max) := by
  -- open on both sides, the range is the name alone
  by_cases h : min = none ∧ max = none
  · obtain ⟨rfl, rfl⟩ := h
    exact denotes_former_iff .integer
  · have hform : (integer min max).form = .applied Former.integer.title
        [boundForm integerForm min, boundForm integerForm max] := by
      cases min <;> cases max <;> simp_all [form]
    rw [hform, denotes_applied_iff (referenceLeaf_former .integer)]
    simp only [forall₂_two_iff, denotes_integerBound_iff]
    constructor
    · rintro ⟨vs, t, ⟨_, _, rfl, rfl, rfl⟩, happ, rfl⟩
      obtain ⟨a, b, ha, hb, rfl⟩ := applied_integer_iff.1 happ
      rw [isIntegerBound_iff.1 ha, isIntegerBound_iff.1 hb]
    · rintro rfl
      have happ := applied_integer_iff.2
        ⟨min, max, isIntegerBound_iff.2 rfl, isIntegerBound_iff.2 rfl, rfl⟩
      exact ⟨_, _, ⟨_, _, rfl, rfl, rfl⟩, happ, rfl⟩

/-- A range of numbers is written so that it denotes the range, if its bounds are finite; otherwise
    the text of a bound is not read as one. -/
theorem denotes_float_iff {min max : Option Double} :
    Denotes (float min max).form.tree v ↔
      v = .type (float min max) ∧ Bounded (float min max) := by
  -- open on both sides, the range is the name alone
  by_cases h : min = none ∧ max = none
  · obtain ⟨rfl, rfl⟩ := h
    have hbounded : Bounded (float none none) := by simp [Bounded]
    exact (denotes_former_iff .float).trans (and_iff_left hbounded).symm
  · have hform : (float min max).form = .applied Former.float.title
        [boundForm doubleForm min, boundForm doubleForm max] := by
      cases min <;> cases max <;> simp_all [form]
    rw [hform, denotes_applied_iff (referenceLeaf_former .float)]
    simp only [forall₂_two_iff]
    constructor
    · rintro ⟨vs, t, ⟨x, y, hx, hy, rfl⟩, happ, rfl⟩
      obtain ⟨a, b, ha, hb, rfl⟩ := applied_float_iff.1 happ
      obtain ⟨rfl, hmin⟩ := eq_of_denotes_doubleBound hx ha
      obtain ⟨rfl, hmax⟩ := eq_of_denotes_doubleBound hy hb
      exact ⟨rfl, hmin, hmax⟩
    · rintro ⟨rfl, hmin, hmax⟩
      obtain ⟨x, hx, ha⟩ := exists_denotes_doubleBound hmin
      obtain ⟨y, hy, hb⟩ := exists_denotes_doubleBound hmax
      exact ⟨_, _, ⟨x, y, hx, hy, rfl⟩, applied_float_iff.2 ⟨_, _, ha, hb, rfl⟩, rfl⟩

/-- The form of a pattern type denotes it unless it has just one pattern, which no rule accepts. -/
theorem denotes_pattern_iff {ps : List String} :
    Denotes (pattern ps).form.tree v ↔ v = .type (pattern ps) ∧ Listed (pattern ps) := by
  cases ps with
  | nil => exact (denotes_former_iff .pattern).trans (and_iff_left (Or.inl rfl)).symm
  | cons p ps =>
    have hform : (pattern (p :: ps)).form =
        .applied Former.pattern.title ((p :: ps).map quoteForm) := by
      simp only [form]
    rw [hform, denotes_applied_quotes_iff (referenceLeaf_former .pattern)]
    constructor
    · rintro ⟨t, happ, rfl⟩
      obtain ⟨rfl, hlen⟩ := applied_pattern_iff.1 happ
      exact ⟨rfl, Or.inr hlen⟩
    · rintro ⟨rfl, hlisted⟩
      exact ⟨_, applied_pattern_iff.2 ⟨rfl, hlisted.resolve_left (by simp)⟩, rfl⟩

/-- The form of an enumeration denotes it unless it has just one value, which no rule accepts. -/
theorem denotes_enum_iff {ss : List String} :
    Denotes (enum ss).form.tree v ↔ v = .type (enum ss) ∧ Listed (enum ss) := by
  cases ss with
  | nil => exact (denotes_former_iff .enum).trans (and_iff_left (Or.inl rfl)).symm
  | cons s ss =>
    have hform : (enum (s :: ss)).form = .applied Former.enum.title ((s :: ss).map quoteForm) := by
      simp only [form]
    rw [hform, denotes_applied_quotes_iff (referenceLeaf_former .enum)]
    constructor
    · rintro ⟨t, happ, rfl⟩
      obtain ⟨rfl, hlen⟩ := applied_enum_iff.1 happ
      exact ⟨rfl, Or.inr hlen⟩
    · rintro ⟨rfl, hlisted⟩
      exact ⟨_, applied_enum_iff.2 ⟨rfl, hlisted.resolve_left (by simp)⟩, rfl⟩

/-- The form of a regular expression denotes it, whatever its pattern is. -/
theorem denotes_regexp_iff {p : Option String} :
    Denotes (regexp p).form.tree v ↔ v = .type (regexp p) := by
  cases p with
  | none => exact denotes_former_iff .regexp
  | some p =>
    have hquotes := denotes_applied_quotes_iff (v := v) (referenceLeaf_former .regexp) [p]
    exact hquotes.trans (exists_type_iff applied_regexp_iff)

/-- The form of a class denotes it if its name is in lower case, as it is for each class that is
    made. -/
theorem denotes_classes_iff {name : Option String} (h : Lowered (classes name)) :
    Denotes (classes name).form.tree v ↔ v = .type (classes name) := by
  cases name with
  | none => exact denotes_former_iff .classes
  | some name =>
    have hmade : classOf (some name) = classes (some name) := by
      rw [classOf, Option.map_some, show lowerName name = name from h]
    rw [form, denotes_applied_iff (referenceLeaf_former .classes)]
    simp only [forall₂_one_iff, denotes_nameForm_iff]
    constructor
    · rintro ⟨vs, t, ⟨_, rfl, rfl⟩, happ, rfl⟩
      rw [applied_classes_iff.1 happ, hmade]
    · rintro rfl
      exact ⟨_, _, ⟨_, rfl, rfl⟩, applied_classes_iff.2 rfl, by rw [hmade]⟩

/-- The reference that a kind of resource is written as stands for the kind. -/
theorem referenceLeaf_of_asReference? {typeName reference : String}
    (h : asReference? typeName = some reference) :
    referenceLeaf reference = .reference typeName ∧
      TypeName.ofLower typeName = .other typeName := by
  have hplain := isPlain_of_asReference? h
  obtain ⟨hlower, hreserved, rfl⟩ := asReference?_eq_some_iff.1 h
  refine ⟨?_, ?_⟩
  · rw [referenceLeaf, dropRoot_of_isPlain WordKind.lawful_reference hplain, String.toList_ofList,
      Text.lower_capitalize hlower, String.ofList_toList]
  · rwa [TypeName.ofLower_eq_other_iff, ← TypeName.isReserved_ofLower_eq_false_iff]

/-- The form of a resource denotes it if its kind is in lower case.  The kind is written as a
    reference if it can be told from the reserved names that way. -/
theorem denotes_resource_iff {r : Option ResourceRef} (h : Lowered (resource r)) :
    Denotes (resource r).form.tree v ↔ v = .type (resource r) := by
  rcases r with _ | ⟨typeName, title⟩
  · exact denotes_former_iff .resource
  · have hmade (title : Option String) :
        resourceOf (some typeName) title = resource (some ⟨typeName, title⟩) := by
      rw [resourceOf, Option.map_some, show lowerName typeName = typeName from h]
    rw [form, ResourceRef.form]
    -- written as a reference of its own, or as an argument of `Resource`
    cases href : asReference? typeName with
    | some reference =>
      obtain ⟨hleaf, hname⟩ := referenceLeaf_of_asReference? href
      cases title with
      | none =>
        have hbare {t : DataType} : Bare typeName t ↔ t = resource (some ⟨typeName, none⟩) := by
          rw [← hmade, ← @TypeName.bare_eq_ok_iff Unit (), hname, TypeName.bare, Except.ok.injEq,
            eq_comm]
        exact (denotes_referenceForm_iff hleaf).trans (exists_type_iff hbare)
      | some title =>
        rw [← hmade]
        exact (denotes_applied_quotes_iff hleaf [title]).trans
          (exists_type_iff (applied_other_iff hname))
    | none =>
      have hleaf := referenceLeaf_former .resource
      cases title with
      | none =>
        rw [← hmade]
        exact (denotes_applied_quotes_iff hleaf [typeName]).trans
          (exists_type_iff applied_resource_iff)
      | some title =>
        rw [← hmade]
        exact (denotes_applied_quotes_iff hleaf [typeName, title]).trans
          (exists_type_iff applied_resourceTitled_iff)

/-! ## All kinds of types

The induction.  That the parts of a type are sound is the same as that each part it is made of is,
and so the two sides of the statement fall apart in the same way.
-/

/-- For a type without parts the one part is the type itself. -/
theorem denotes_atomic_iff {t : DataType} {P : Prop} (ht : ∀ u, PartOf u t → u = t)
    (h : Denotes t.form.tree v ↔ v = .type t ∧ P) (hP : P ↔ Sound t) :
    Denotes t.form.tree v ↔ v = .type t ∧ Everywhere Sound t := by
  rw [h, hP, everywhere_iff_self ht]

mutual

/-- **Rereading**: the expression that the canonical text of a type is meant as denotes the type, if
    all of it is sound, and nothing else. -/
theorem denotes_form_iff : ∀ t : DataType, Everywhere Lowered t → ∀ v : Value,
    Denotes t.form.tree v ↔ v = .type t ∧ Everywhere Sound t
  | plain p, _, v => by
    refine denotes_atomic_iff (P := True) (by rintro u ⟨⟩; rfl) ?_
      (by simp [Sound, Collects, Listed, Bounded])
    rw [and_true, form]
    exact denotes_plain_iff p
  | integer min max, _, v => by
    refine denotes_atomic_iff (P := True) (by rintro u ⟨⟩; rfl) ?_
      (by simp [Sound, Collects, Listed, Bounded])
    rw [and_true]
    exact denotes_integer_iff
  | float min max, _, v =>
    denotes_atomic_iff (by rintro u ⟨⟩; rfl) denotes_float_iff (by simp [Sound, Collects, Listed])
  | pattern ps, _, v =>
    denotes_atomic_iff (by rintro u ⟨⟩; rfl) denotes_pattern_iff
      (by simp [Sound, Collects, Bounded])
  | regexp p, _, v => by
    refine denotes_atomic_iff (P := True) (by rintro u ⟨⟩; rfl) ?_
      (by simp [Sound, Collects, Listed, Bounded])
    rw [and_true]
    exact denotes_regexp_iff
  | classes name, h, v => by
    refine denotes_atomic_iff (P := True) (by rintro u ⟨⟩; rfl) ?_
      (by simp [Sound, Collects, Listed, Bounded])
    rw [and_true]
    exact denotes_classes_iff h.here
  | resource r, h, v => by
    refine denotes_atomic_iff (P := True) (by rintro u ⟨⟩; rfl) ?_
      (by simp [Sound, Collects, Listed, Bounded])
    rw [and_true]
    exact denotes_resource_iff h.here
  | enum ss, _, v =>
    denotes_atomic_iff (by rintro u ⟨⟩; rfl) denotes_enum_iff (by simp [Sound, Collects, Bounded])
  | array e, h, v => by
    have he := denotes_form_iff e (everywhere_array_iff.1 h).2
    rw [form, denotes_applied_iff (referenceLeaf_former .array), everywhere_array_iff]
    simp only [forall₂_one_iff, he]
    constructor
    · rintro ⟨vs, t, ⟨_, ⟨rfl, hsound⟩, rfl⟩, happ, rfl⟩
      -- the value is a type, and by the hypothesis of the induction it is the part
      obtain ⟨e', he', hne, rfl⟩ := applied_array_iff.1 happ
      cases he'
      exact ⟨rfl, ⟨hne, trivial, trivial⟩, hsound⟩
    · rintro ⟨rfl, ⟨hne, -, -⟩, hsound⟩
      exact ⟨_, _, ⟨_, ⟨rfl, hsound⟩, rfl⟩, .array hne, rfl⟩
  | hash k w, h, v => by
    obtain ⟨-, hk, hw⟩ := everywhere_hash_iff.1 h
    have hkey := denotes_form_iff k hk
    have hvalue := denotes_form_iff w hw
    rw [form, denotes_applied_iff (referenceLeaf_former .hash), everywhere_hash_iff]
    simp only [forall₂_two_iff, hkey, hvalue]
    constructor
    · rintro ⟨vs, t, ⟨_, _, ⟨rfl, hsound⟩, ⟨rfl, hsound'⟩, rfl⟩, happ, rfl⟩
      obtain ⟨k', w', hk', hw', hne, hne', rfl⟩ := applied_hash_iff.1 happ
      cases hk'
      cases hw'
      exact ⟨rfl, ⟨⟨hne, hne'⟩, trivial, trivial⟩, hsound, hsound'⟩
    · rintro ⟨rfl, ⟨⟨hne, hne'⟩, -, -⟩, hsound, hsound'⟩
      exact ⟨_, _, ⟨_, _, ⟨rfl, hsound⟩, ⟨rfl, hsound'⟩, rfl⟩, .hash hne hne', rfl⟩
  -- without members it is written without brackets
  | variant [], _, v => by
    have hsound : Everywhere Sound (variant []) := by
      rw [everywhere_variant_iff]
      exact ⟨⟨trivial, Or.inl rfl, trivial⟩, by simp⟩
    rw [form, denotes_former_iff]
    exact (and_iff_left hsound).symm
  | variant (s :: ss), h, v => by
    have hall := forall₂_denotes_forms_iff (s :: ss) (everywhere_variant_iff.1 h).2
    rw [forms] at hall
    rw [form, denotes_applied_iff (referenceLeaf_former .variant), everywhere_variant_iff]
    simp only [hall]
    constructor
    · rintro ⟨vs, t, ⟨rfl, hsound⟩, happ, rfl⟩
      obtain ⟨rfl, hlen⟩ := applied_variant_iff.1 happ
      exact ⟨rfl, ⟨trivial, Or.inr hlen, trivial⟩, hsound⟩
    · rintro ⟨rfl, ⟨-, hlisted, -⟩, hsound⟩
      have hlen : 2 ≤ (s :: ss).length := hlisted.resolve_left (by simp)
      exact ⟨_, _, ⟨rfl, hsound⟩, applied_variant_iff.2 ⟨rfl, hlen⟩, rfl⟩

/-- What the forms of some types denote, one by one. -/
theorem forall₂_denotes_forms_iff : ∀ ts : List DataType, (∀ t ∈ ts, Everywhere Lowered t) →
    ∀ vs : List Value, List.Forall₂ Denotes ((forms ts).map Form.tree) vs ↔
      vs = ts.map .type ∧ ∀ t ∈ ts, Everywhere Sound t
  | [], _, vs => by simp [forms]
  | t :: ts, h, vs => by
    obtain ⟨ht, hts⟩ := List.forall_mem_cons.1 h
    have hhead := denotes_form_iff t ht
    have htail := forall₂_denotes_forms_iff ts hts
    rw [forms, List.map_cons, List.map_cons, List.forall_mem_cons]
    cases vs with
    | nil => simp
    | cons v vs =>
      rw [List.forall₂_cons, hhead, htail, List.cons.injEq]
      tauto

end

end DataType

end TypeExpr
