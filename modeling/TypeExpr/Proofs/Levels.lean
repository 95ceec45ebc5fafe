import TypeExpr.Proofs.RoundTrip
import TypeExpr.Regex.Check

/-!
# How deep a type is

An access adds a level to the types of its arguments at most, and no more than `maxDepth` accesses
stand inside each other.  One level more can come from a name in the innermost of them: `Array`
alone is an array already, of `Data`.  So a type that a text denotes has at most `maxDepth + 1`
levels (`levels_le_of_parse`), and some have as many.

With what is known of each of its parts this is all that can be said of such a type in general
(`wellFormed_of_parse`).
-/

namespace TypeExpr

open Node (WithinLimit)
open Rules

namespace DataType

mutual

/-- How many arrays, hashes and variants stand inside each other in a type. -/
def levels : DataType → Nat
  | array e => e.levels + 1
  | hash k v => max k.levels v.levels + 1
  | variant ts => levelsAll ts + 1
  | _ => 0

/-- The most levels that one of the types has. -/
def levelsAll : List DataType → Nat
  | [] => 0
  | t :: ts => max t.levels (levelsAll ts)

end

/-- The most levels are no more than what bounds the levels of each. -/
theorem levelsAll_le {ts : List DataType} {k : Nat} (h : ∀ t ∈ ts, t.levels ≤ k) :
    levelsAll ts ≤ k := by
  induction ts with
  | nil => exact Nat.zero_le k
  | cons t ts ih =>
    obtain ⟨ht, hts⟩ := List.forall_mem_cons.1 h
    exact Nat.max_le.2 ⟨ht, ih hts⟩

/-- A bare name has a level at most, since `Array` and `Hash` alone are collections of `Data`. -/
theorem levels_of_bare {name : String} {t : DataType} (h : Bare name t) : t.levels ≤ 1 := by
  cases h with
  | array | hash | variant => simp [levels, levelsAll]
  | _ => exact Nat.zero_le 1

/-- **Step**: an access adds a level at most. -/
theorem levels_of_applied {name : String} {vs : List Value} {t : DataType} {k : Nat}
    (h : Applied name vs t) (hvs : ∀ u, .type u ∈ vs → u.levels ≤ k) : t.levels ≤ k + 1 := by
  -- Only four rules make a collection; what the others make has no levels.
  cases h with
  | @array e _ =>
    have he := hvs e (by simp)
    exact Nat.succ_le_succ he
  | @hashOf v _ =>
    have hv := hvs v (by simp)
    exact Nat.succ_le_succ (Nat.max_le.2 ⟨Nat.zero_le k, hv⟩)
  | @hash key v _ _ =>
    have hkey := hvs key (by simp)
    have hv := hvs v (by simp)
    exact Nat.succ_le_succ (Nat.max_le.2 ⟨hkey, hv⟩)
  | @variant ts _ =>
    have hts : ∀ t ∈ ts, t.levels ≤ k := fun t ht => hvs t (List.mem_map.2 ⟨t, ht, rfl⟩)
    exact Nat.succ_le_succ (levelsAll_le hts)
  | _ => exact Nat.zero_le (k + 1)

mutual

/-- **Run**: the accesses around a node and the levels of the type that it denotes make up no more
    than the limit and one. -/
theorem add_levels_le {α : Type} : ∀ (n : Node α) (depth : Nat) (t : DataType),
    WithinLimit depth n → depth ≤ maxDepth → Denotes n (.type t) →
      depth + t.levels ≤ maxDepth + 1
  | .leaf l a, depth, t, _, hdepth, h => by
    cases h with
    | reference _ hbare =>
      have := levels_of_bare hbare
      omega
  | .array items a, depth, t, _, _, h => by cases h
  | .access target arguments a, depth, t, hlimit, _, h => by
    obtain ⟨hdepth, hlimits⟩ := Node.withinLimit_access_iff.1 hlimit
    cases h with
    | @access name _ vs _ _ b hvs happ =>
      -- the arguments stand inside one access more, so one level less is left to them
      have hargs : ∀ u, .type u ∈ vs → u.levels ≤ maxDepth - depth := by
        intro u hu
        have := add_levels_le_of_mem arguments (depth + 1) _ hlimits hdepth hvs u hu
        omega
      have := levels_of_applied happ hargs
      omega

/-- The same of the nodes of a list. -/
theorem add_levels_le_of_mem {α : Type} : ∀ (ns : List (Node α)) (depth : Nat) (vs : List Value),
    (∀ n ∈ ns, WithinLimit depth n) → depth ≤ maxDepth → List.Forall₂ Denotes ns vs →
      ∀ u, .type u ∈ vs → depth + u.levels ≤ maxDepth + 1
  | [], depth, vs, _, _, h, u, hu => by
    cases h
    cases hu
  | n :: ns, depth, vs, hlimits, hdepth, h, u, hu => by
    obtain ⟨hlimit, hlimits⟩ := List.forall_mem_cons.1 hlimits
    cases h with
    | cons hn hns =>
      rcases List.mem_cons.1 hu with rfl | hu
      · exact add_levels_le n depth u hlimit hdepth hn
      · exact add_levels_le_of_mem ns depth _ hlimits hdepth hns u hu

end

/-- A type that a text denotes has a level more than the limit at most. -/
theorem levels_le_of_parse [PatternLanguage] {text : String} {t : DataType}
    (h : parse text = .ok t) : t.levels ≤ maxDepth + 1 := by
  obtain ⟨ts, n, -, hspec, hden⟩ := parse_eq_ok_iff.1 h
  have hlevels := add_levels_le n 0 t (Grammar.withinLimit_of_specification hspec)
    (Nat.zero_le maxDepth) hden
  omega

end DataType

open DataType

/-- **Well-formedness**: in a type that a text denotes no array and no hash is one of `Undef`, no
    list has a single member, the names of classes and of kinds of resources are in lower case, and
    the bounds that are doubles are finite; and it has no more than 257 levels. -/
theorem wellFormed_of_parse [PatternLanguage] (text : String) (t : DataType)
    (h : parse text = .ok t) :
    (∀ u, PartOf u t → Collects u ∧ Listed u ∧ Lowered u ∧ Bounded u) ∧ t.levels ≤ 257 := by
  obtain ⟨hlowered, hreadable⟩ := of_parse h
  refine ⟨fun u hu => ?_, levels_le_of_parse h⟩
  exact ⟨hreadable.collects u hu, hreadable.listed u hu, hlowered u hu, hreadable.bounded u hu⟩

theorem levels_nestedArray (n : Nat) : (nestedArray n).levels = n + 1 := by
  induction n with
  | zero => rfl
  | succ n ih => rw [nestedArray, levels, ih]

open scoped Program in
/-- With `maxDepth` brackets around `Array` there are as many levels as there can be. -/
theorem wellFormed_nestedArrays : parse (nestedArrays 256) = .ok (nestedArray 256) ∧
    (nestedArray 256).levels = 257 ∧
    (∀ u, PartOf u (nestedArray 256) → Collects u ∧ Listed u ∧ Lowered u ∧ Bounded u) ∧
    (nestedArray 256).levels ≤ 257 := by
  have h := parse_nestedArrays (Nat.le_refl maxDepth)
  exact ⟨h, levels_nestedArray 256, wellFormed_of_parse _ _ h⟩

end TypeExpr
