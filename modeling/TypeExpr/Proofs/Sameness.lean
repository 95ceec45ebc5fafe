import TypeExpr.DataType.Interning
import TypeExpr.Proofs.Rounding

/-!
# Types that are the same

Types are compared part by part, and two doubles are one bound if they have one normal form, which
for both zeros is the one without a sign.  So two types are the same exactly if they are equal once
all their bounds are in normal form (`same_iff`); whatever a normal form determines, types that are
the same agree on.

An integer that counts as a double is in normal form already (`Double.normal_ofInt`).

Comparing part by part is what the program does, and normal forms are not.  They are what makes an
equality of it, under which everything can be rewritten; the two are tied together here, by
induction on the type, and the comparison is not opened again.
-/

namespace TypeExpr

namespace DataType

mutual

/-- The type with all its bounds that are doubles mapped. -/
def mapBounds (g : Double → Double) : DataType → DataType
  | float min max => float (min.map g) (max.map g)
  | array e => array (e.mapBounds g)
  | hash k v => hash (k.mapBounds g) (v.mapBounds g)
  | variant ts => variant (mapBoundsAll g ts)
  | t => t

/-- The types with all their bounds that are doubles mapped. -/
def mapBoundsAll (g : Double → Double) : List DataType → List DataType
  | [] => []
  | t :: ts => t.mapBounds g :: mapBoundsAll g ts

end

/-- To map the bounds of some types is to map those of each. -/
theorem mapBoundsAll_eq_map (g : Double → Double) (ts : List DataType) :
    mapBoundsAll g ts = ts.map (mapBounds g) := by
  induction ts with
  | nil => rfl
  | cons t ts ih => simp [mapBoundsAll, ih]

mutual

/-- Nothing is changed if no bound is. -/
theorem mapBounds_id : ∀ t : DataType, t.mapBounds id = t
  | plain _ | integer _ _ | pattern _ | regexp _ | classes _ | resource _ | enum _ => by
    rw [mapBounds]
    all_goals simp
  | float min max => by rw [mapBounds, Option.map_id_fun]; rfl
  | array e => by rw [mapBounds, mapBounds_id e]
  | hash k v => by rw [mapBounds, mapBounds_id k, mapBounds_id v]
  | variant ts => by rw [mapBounds, mapBoundsAll_id ts]

theorem mapBoundsAll_id : ∀ ts : List DataType, mapBoundsAll id ts = ts
  | [] => rfl
  | t :: ts => by rw [mapBoundsAll, mapBounds_id t, mapBoundsAll_id ts]

end

/-- The type with all its bounds in normal form. -/
def normal (t : DataType) : DataType := t.mapBounds Double.normal

@[simp] theorem normal_array (e : DataType) : (array e).normal = array e.normal := by
  rw [normal, mapBounds]
  rfl

@[simp] theorem normal_hash (k v : DataType) : (hash k v).normal = hash k.normal v.normal := by
  rw [normal, mapBounds]
  rfl

@[simp] theorem normal_variant (ts : List DataType) :
    (variant ts).normal = variant (ts.map normal) := by
  rw [normal, mapBounds, mapBoundsAll_eq_map]
  rfl

/-- Bounds are the same exactly if they have one normal form, or both are open. -/
theorem sameBounds_iff {x y : Option Double} :
    sameBounds x y = true ↔ x.map Double.normal = y.map Double.normal := by
  cases x <;> cases y <;> simp [sameBounds, Double.sameBound]

mutual

/-- Types are the same exactly if they have one normal form. -/
theorem same_iff : ∀ s t : DataType, s.same t = true ↔ s.normal = t.normal
  | array e, t => by
    cases t with
    | array e' => simp [same, same_iff e e']
    | _ => simp [same, normal, mapBounds]
  | hash k v, t => by
    cases t with
    | hash k' v' => simp [same, same_iff k k', same_iff v v']
    | _ => simp [same, normal, mapBounds]
  | variant ts, t => by
    cases t with
    | variant ts' => simp [same, sameAll_iff ts ts']
    | _ => simp [same, normal, mapBounds]
  | plain _, t | integer _ _, t | float _ _, t | pattern _, t | regexp _, t | classes _, t
  | resource _, t | enum _, t => by
    cases t <;> simp [same, normal, mapBounds, sameBounds_iff]

/-- The types of two lists are the same exactly if they have one normal form, one by one. -/
theorem sameAll_iff : ∀ ss ts : List DataType,
    sameAll ss ts = true ↔ ss.map normal = ts.map normal
  | [], ts => by cases ts <;> simp [sameAll]
  | s :: ss, ts => by
    cases ts with
    | nil => simp [sameAll]
    | cons t ts => simp [sameAll, same_iff s t, sameAll_iff ss ts]

end

/-- A type is the same as itself, also if a bound of it is undefined. -/
theorem same_refl (t : DataType) : t.same t = true := (same_iff t t).2 rfl

end DataType

namespace Double

/-- Numbers that are one bound are equal or the two zeros. -/
theorem eq_or_zeros_of_normal_eq {x y : Double} (h : x.normal = y.normal) :
    x = y ∨ ∃ negative, x = zero negative ∧ y = zero !negative := by
  cases x with
  | finite m r =>
    cases y with
    | finite n s =>
      simp only [normal, finite.injEq] at h
      obtain ⟨hsign, rfl⟩ := h
      -- only of a zero the sign is dropped
      by_cases hr : r.val = 0
      · have hzero : r = ⟨0, by decide⟩ := Fin.ext hr
        subst hzero
        cases m <;> cases n
        · exact .inl rfl
        · exact .inr ⟨false, rfl, rfl⟩
        · exact .inr ⟨true, rfl, rfl⟩
        · exact .inl rfl
      · have hr' : (r.val != 0) = true := bne_iff_ne.2 hr
        simp only [hr', Bool.and_true] at hsign
        exact .inl (by rw [hsign])
    | _ => simp [normal] at h
  | _ => cases y <;> simp_all [normal]

/-- An integer that is not zero is not nearest to zero. -/
theorem nearestRank_ne_zero {n : Nat} (hn : n ≠ 0) : nearestRank n 1 ≠ 0 := by
  have hfloor := (units_floorRank (n * Nat.pow 2 1074 / 1)).2
  have hle : floorRank (n * Nat.pow 2 1074 / 1) ≤ nearestRank n 1 := by
    simp only [nearestRank]
    split
    · omega
    · split <;> omega
  intro hzero
  -- the number is a multiple of the unit, which is the magnitude of the first rank
  have hfirst : units 1 = 1 := rfl
  have hrank : floorRank (n * Nat.pow 2 1074 / 1) = 0 := by omega
  rw [hrank, Nat.zero_add, hfirst, Nat.div_one] at hfloor
  have hpos : 0 < n * Nat.pow 2 1074 := Nat.mul_pos (Nat.pos_of_ne_zero hn) (by decide +kernel)
  omega

/-- What is rounded has no sign if it becomes zero. -/
theorem normal_ofQuotient {negative : Bool} {num den : Nat}
    (h : negative = true → nearestRank num den ≠ 0) :
    (ofQuotient negative num den).normal = ofQuotient negative num den := by
  simp only [ofQuotient]
  generalize nearestRank num den = rank at h ⊢
  split
  · cases negative with
    | false => rfl
    | true => simp [normal, h rfl]
  · rfl

/-- An integer is never the zero with a sign. -/
theorem normal_ofInt (n : Int) : (ofInt n).normal = ofInt n := by
  refine normal_ofQuotient fun hn => nearestRank_ne_zero ?_
  have hn : n < 0 := of_decide_eq_true hn
  omega

end Double

end TypeExpr
