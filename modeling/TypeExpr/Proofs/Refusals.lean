import TypeExpr.Proofs.Faults

/-!
# What names refuse

Before a name looks at any of its arguments, it looks at how many there are.  The rules here say by
name when that is enough to refuse them, and for what reason (`Rules.Refused`).  Two names have no
type behind them, nine take no parameters, `pattern` does not count a single pattern as a parameter,
and every other name takes as many as its arity says, where the name of a kind of resource takes
one.

The check on the number of arguments refuses what the rules refuse, for the same reason
(`TypeName.refusal?_eq_some_iff`).

`Refused` says nothing of the order in which these things are checked, and does not have to: no two
of its rules hold of the same name and the same number, because the last one leaves out what the
others are about.
-/

namespace TypeExpr

namespace Rules

/-- The names that are reserved and have no type behind them. -/
def unknownNames : List String := ["ruby", "type"]

/-- The names of the types that take no parameters. -/
def plainNames : List String :=
  ["object", "collection", "data", "catalogentry", "boolean", "literal", "undef", "numeric",
   "string"]

/-- How many arguments a name takes that takes any. -/
def arityOf : String → Arity
  | "array" | "class" | "regexp" => .exactly 1
  | "hash" | "resource" | "integer" | "float" => .between 1 2
  | "enum" | "pattern" | "variant" => .atLeast 2
  | _ => .exactly 1

/-- `Refused name given cause`: a name refuses so many arguments, whatever they are. -/
inductive Refused : String → Nat → Failure.Cause → Prop where
  | unknown {name given} : name ∈ unknownNames → Refused name given .unknownType
  | plain {name given} : name ∈ plainNames → Refused name given .unparameterizedType
  | singlePattern : Refused "pattern" 1 .unparameterizedType
  | count {name given} : name ∉ unknownNames → name ∉ plainNames →
      ¬(name = "pattern" ∧ given = 1) → (arityOf name).admits given = false →
      Refused name given
        (.invalidParameterCount (TypeName.ofLower name).title (arityOf name) given)

namespace Refused

variable {name : String} {given : Nat}

/-- Only a name without a type is refused as unknown. -/
theorem of_unknown (h : Refused name given .unknownType) : name ∈ unknownNames := by
  cases h with
  | unknown hname => exact hname

/-- Refused as not parameterized are the names that take no parameters, and `pattern` with a single
    one. -/
theorem of_unparameterized (h : Refused name given .unparameterizedType) :
    name ∈ plainNames ∨ name = "pattern" ∧ given = 1 := by
  cases h with
  | plain hname => exact Or.inl hname
  | singlePattern => exact Or.inr ⟨rfl, rfl⟩

/-- A failure about the number of arguments quotes the title, the arity of the name and the number
    given, and the arity does not admit it. -/
theorem of_count {typeName : String} {required : Arity} {count : Nat}
    (h : Refused name given (.invalidParameterCount typeName required count)) :
    typeName = (TypeName.ofLower name).title ∧ required = arityOf name ∧ count = given ∧
      required.admits given = false := by
  cases h with
  | count _ _ _ hadmits => exact ⟨rfl, rfl, rfl, hadmits⟩

end Refused

end Rules

open Rules

namespace TypeName

/-- The names that take no parameters are those of the plain types. -/
theorem mem_plainNames_iff {name : String} : name ∈ plainNames ↔ ∃ p, ofLower name = plain p := by
  constructor
  · intro h
    simp only [plainNames, List.mem_cons, List.not_mem_nil, or_false] at h
    rcases h with rfl | rfl | rfl | rfl | rfl | rfl | rfl | rfl | rfl <;> exact ⟨_, rfl⟩
  · rintro ⟨p, hp⟩
    have hword := word_ofLower name
    rw [hp] at hword
    subst hword
    cases p <;> decide

/-- The names without a type are the two that are resolved to none. -/
theorem mem_unknownNames_iff {name : String} :
    name ∈ unknownNames ↔ ofLower name = ruby ∨ ofLower name = type := by
  constructor
  · intro h
    simp only [unknownNames, List.mem_cons, List.not_mem_nil, or_false] at h
    rcases h with rfl | rfl
    · exact Or.inl rfl
    · exact Or.inr rfl
  · have hword := word_ofLower name
    rintro (h | h) <;> rw [h] at hword <;> subst hword <;> decide

/-- A name that is not reserved takes one argument, its title. -/
theorem arityOf_other {name : String} (h : name ∉ reservedNames) : arityOf name = .exactly 1 := by
  unfold arityOf
  split <;> first | rfl | exact absurd (by decide) h

/-- A name that takes arguments refuses as many as its arity does not allow, and `pattern` a single
    one for a reason of its own. -/
theorem refusal?_of_not_mem {name : String} (hunknown : name ∉ unknownNames)
    (hplain : name ∉ plainNames) (given : Nat) : (ofLower name).refusal? given =
      if name = "pattern" ∧ given = 1 then some .unparameterizedType
      else if (arityOf name).admits given then none
      else some (.invalidParameterCount (ofLower name).title (arityOf name) given) := by
  -- Only `pattern` has a branch of its own; every other name has its arity looked up.
  cases hk : ofLower name with
  | plain p => exact absurd (mem_plainNames_iff.2 ⟨p, hk⟩) hplain
  | ruby => exact absurd (mem_unknownNames_iff.2 (Or.inl hk)) hunknown
  | type => exact absurd (mem_unknownNames_iff.2 (Or.inr hk)) hunknown
  | former f =>
    have hword := word_ofLower name
    rw [hk] at hword
    subst hword
    cases f with
    | pattern =>
      simp only [word, true_and]
      rfl
    | _ =>
      rw [if_neg (by simp [word])]
      rfl
  | other kind =>
    obtain ⟨rfl, hn⟩ := eq_of_ofLower_eq_other hk
    have hpattern : kind ≠ "pattern" := by
      rintro rfl
      exact hn (by decide)
    rw [if_neg fun h => hpattern h.1, arityOf_other hn]
    rfl

/-- **Refusals**: the check on the number of arguments is what the rules say. -/
theorem refusal?_eq_some_iff {name : String} {given : Nat} {cause : Failure.Cause} :
    (ofLower name).refusal? given = some cause ↔ Refused name given cause := by
  constructor
  · intro h
    -- The rules in the order in which the check goes through them.
    by_cases hunknown : name ∈ unknownNames
    · rcases mem_unknownNames_iff.1 hunknown with hk | hk <;> rw [hk] at h <;> cases h <;>
        exact .unknown hunknown
    · by_cases hplain : name ∈ plainNames
      · obtain ⟨p, hk⟩ := mem_plainNames_iff.1 hplain
        rw [hk] at h
        cases h
        exact .plain hplain
      · rw [refusal?_of_not_mem hunknown hplain] at h
        split at h
        · rename_i hpattern
          obtain ⟨rfl, rfl⟩ := hpattern
          cases h
          exact .singlePattern
        · rename_i hpattern
          split at h
          · cases h
          · rename_i hadmits
            cases h
            exact .count hunknown hplain hpattern (Bool.eq_false_iff.2 hadmits)
  · intro h
    cases h with
    | unknown hunknown => rcases mem_unknownNames_iff.1 hunknown with hk | hk <;> rw [hk] <;> rfl
    | plain hplain =>
      obtain ⟨p, hk⟩ := mem_plainNames_iff.1 hplain
      rw [hk]
      rfl
    | singlePattern => rfl
    | count hunknown hplain hpattern hadmits =>
      rw [refusal?_of_not_mem hunknown hplain, if_neg hpattern,
        if_neg (Bool.eq_false_iff.1 hadmits)]

/-- When a name is applied, a fault that is about the name comes from the number of arguments. -/
theorem refused_of_apply_eq_error {α : Type} {note : α} {name : String} {args : List (Argument α)}
    {fault : Fault α} (h : apply note (ofLower name) args = .error fault)
    (hcause : ∀ detail, fault.cause ≠ .invalidSpecification detail) :
    Refused name args.length fault.cause := by
  rcases exists_of_apply_eq_error h with ⟨cause, hrefusal, rfl⟩ | rfl | ⟨a, -, rfl⟩
  · exact refusal?_eq_some_iff.1 hrefusal
  · exact absurd rfl (hcause none)
  · exact absurd rfl (hcause none)

end TypeName

end TypeExpr
