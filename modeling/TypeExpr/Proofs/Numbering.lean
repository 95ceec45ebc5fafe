import TypeExpr.Proofs.Sameness

/-!
# Numbers of types

To compare types is to compare their normal forms, so it is an equivalence, and a hash code that
looks at normal forms only is one for types that are the same (`hashCode_normal`).

A numbering is told by the list of the types that got a number, each the first of its like: the
number of a type is the place of its like in that list, and the next free number is the length of
the list (`Numbering.Lists`).  One more type leaves the list as it is or goes to its end
(`Numbering.Lists.number`), where no number that was given is ever given again.  Numbering a list of
types from there on follows by induction (`Numbering.Lists.numberAll`).

Two types can be the same and not be equal, if they differ in the sign of a zero.  Such types have
one number, and the type that the number stands for is the one that came first; therefore the list
has first occurrences in it, and every statement about it is up to sameness.

The numbering is a hash map.  What is used of it is that looking up a type finds what was put in for
a type like it, and that needs no more than an equivalence and a hash code that respects it
(`EquivBEq`, `LawfulHashable`).
-/

namespace TypeExpr

namespace Double

theorem normal_normal (x : Double) : x.normal.normal = x.normal := by
  cases x with
  | finite negative rank => cases hzero : rank.val != 0 <;> simp [normal, hzero]
  | _ => rfl

/-- Two doubles are one bound exactly if they are equal or both zero. -/
theorem normal_eq_iff {x y : Double} :
    x.normal = y.normal ↔ x = y ∨ ∃ negative, x = zero negative ∧ y = zero !negative := by
  constructor
  · exact eq_or_zeros_of_normal_eq
  · rintro (rfl | ⟨negative, rfl, rfl⟩)
    · rfl
    · cases negative <;> rfl

end Double

namespace DataType

/-! ## Types that are the same

All of it is said of normal forms, where being the same is being equal.
-/

/-- Types are the same exactly if their normal forms are equal. -/
theorem beq_iff {s t : DataType} : (s == t) = true ↔ s.normal = t.normal := same_iff s t

/-- Being the same is an equivalence, since equality of normal forms is one. -/
theorem equivalence_beq : Equivalence fun s t : DataType => (s == t) = true where
  refl _ := beq_iff.2 rfl
  symm h := beq_iff.2 (beq_iff.1 h).symm
  trans h h' := beq_iff.2 ((beq_iff.1 h).trans (beq_iff.1 h'))

example : (array (float (some (.zero true)) (some .nan)) ==
    array (float (some (.zero false)) (some .nan))) = true := by decide

instance : EquivBEq DataType where
  rfl := equivalence_beq.refl _
  symm := equivalence_beq.symm
  trans := equivalence_beq.trans

mutual

/-- The hash code of a type is that of its normal form. -/
theorem hashCode_normal : ∀ t : DataType, t.normal.hashCode = t.hashCode
  | array e => by rw [normal_array, hashCode, hashCode, hashCode_normal e]
  | hash k v => by rw [normal_hash, hashCode, hashCode, hashCode_normal k, hashCode_normal v]
  | variant ts => by rw [normal_variant, hashCode, hashCode, hashCodes_normal ts]
  | float min max => by
    have hbound (x : Option Double) : (x.map Double.normal).map Double.normal =
        x.map Double.normal := by
      cases x <;> simp [Double.normal_normal]
    rw [normal, mapBounds, hashCode, hashCode, hbound, hbound]
  | plain _ | integer _ _ | pattern _ | regexp _ | classes _ | resource _ | enum _ => rfl

theorem hashCodes_normal : ∀ ts : List DataType, hashCodes (ts.map normal) = hashCodes ts
  | [] => rfl
  | t :: ts => by rw [List.map_cons, hashCodes, hashCodes, hashCode_normal t, hashCodes_normal ts]

end

instance : LawfulHashable DataType where
  hash_eq s t h := by
    show s.hashCode = t.hashCode
    rw [← hashCode_normal s, beq_iff.1 h, hashCode_normal t]

/-! ## One more type

What numbering one more type does to the list of first occurrences: nothing, or the type goes to its
end.  A place in the list is never given up, so numbers stay what they are.
-/

/-- The numbering gives each type the place of the first type like it in the list, and the next free
    number is the length of the list. -/
structure Numbering.Lists (n : Numbering) (firsts : List DataType) : Prop where
  size_eq : n.size = firsts.length
  getElem?_eq : ∀ t, n[t]? = firsts.idxOf? t

/-- The place of a type stays where it is when the list grows. -/
theorem idxOf?_append_of_eq_some {firsts : List DataType} {t : DataType} {k : Nat}
    (h : firsts.idxOf? t = some k) (news : List DataType) :
    (firsts ++ news).idxOf? t = some k := by
  rw [List.idxOf?] at h ⊢
  rw [List.findIdx?_append, h, Option.some_or]

/-- What goes to the end because it had no place has its place there. -/
theorem idxOf?_append_of_eq_none {firsts : List DataType} {t : DataType}
    (h : firsts.idxOf? t = none) : (firsts ++ [t]).idxOf? t = some firsts.length := by
  rw [List.idxOf?] at h ⊢
  rw [List.findIdx?_append, h]
  simp

/-- What has a place in a list is like what stands there. -/
theorem exists_beq_of_idxOf? {firsts : List DataType} {t : DataType} {k : Nat}
    (h : firsts.idxOf? t = some k) : ∃ s, firsts[k]? = some s ∧ (s == t) = true := by
  obtain ⟨hk, hlike, -⟩ := List.findIdx?_eq_some_iff_getElem.1 h
  exact ⟨firsts[k], List.getElem?_eq_getElem hk, hlike⟩

/-- Types that are the same have the same place. -/
theorem idxOf?_congr (firsts : List DataType) {s t : DataType} (h : (s == t) = true) :
    firsts.idxOf? s = firsts.idxOf? t := by
  induction firsts with
  | nil => rfl
  | cons u us ih =>
    have hlike : (u == s) = (u == t) := by
      rw [Bool.eq_iff_iff]
      exact ⟨fun hu => equivalence_beq.trans hu h,
        fun hu => equivalence_beq.trans hu (equivalence_beq.symm h)⟩
    rw [List.idxOf?_cons, List.idxOf?_cons, hlike, ih]

namespace Numbering

variable {n : Numbering} {firsts : List DataType}

theorem lists_nil : Lists ∅ [] where
  size_eq := Std.HashMap.size_empty
  getElem?_eq _ := Std.HashMap.getElem?_empty

/-- A type without a number goes to the end of the list. -/
theorem Lists.insert (h : n.Lists firsts) {t : DataType} (ht : n[t]? = none) :
    Lists (n.insert t n.size) (firsts ++ [t]) where
  size_eq := by
    have hmem : t ∉ n := by
      rw [Std.HashMap.mem_iff_isSome_getElem?, ht]
      decide
    rw [Std.HashMap.size_insert, if_neg hmem, h.size_eq, List.length_append]
    rfl
  getElem?_eq u := by
    rw [Std.HashMap.getElem?_insert, h.size_eq, List.idxOf?, List.findIdx?_append]
    by_cases hu : (t == u) = true
    · -- the like of what has no number has none either
      have hnone : firsts.findIdx? (· == u) = none := by
        have := h.getElem?_eq u
        rw [← Std.HashMap.getElem?_congr hu, ht] at this
        exact this.symm
      simp [hu, hnone]
    · simp [hu, h.getElem?_eq, List.idxOf?]

/-- **Step**: a type has the number of the first one like it, or it is given the next one. -/
theorem Lists.number (h : n.Lists firsts) (t : DataType) :
    (∃ k, k < firsts.length ∧ firsts.idxOf? t = some k ∧ n.number t = (k, n)) ∨
      firsts.idxOf? t = none ∧
        ∃ n', n'.Lists (firsts ++ [t]) ∧ n.number t = (firsts.length, n') := by
  unfold Numbering.number
  cases ht : n[t]? with
  | some k =>
    have hplace := (h.getElem?_eq t).symm.trans ht
    obtain ⟨hk, -⟩ := List.findIdx?_eq_some_iff_getElem.1 hplace
    exact .inl ⟨k, hk, hplace, rfl⟩
  | none =>
    exact .inr ⟨(h.getElem?_eq t).symm.trans ht, _, h.insert ht, by rw [h.size_eq]⟩

/-! ## A list of types

By induction on the types to be numbered, for any list of those that came before them.
-/

/-- What is not below `m` is `m` itself or beyond it. -/
theorem eraseDups_filter_cons (m : Nat) (ids : List Nat) :
    ((m :: ids).filter (m ≤ ·)).eraseDups = m :: (ids.filter (m + 1 ≤ ·)).eraseDups := by
  have hbeyond : (ids.filter (m ≤ ·)).filter (fun k => !k == m) = ids.filter (m + 1 ≤ ·) := by
    rw [List.filter_filter]
    refine List.filter_congr fun k _ => ?_
    rw [Bool.eq_iff_iff]
    simp
    omega
  rw [List.filter_cons_of_pos (by simp), List.eraseDups_cons, hbeyond]

/-- The first type gets its number from the numbering, and the others from the one that it leaves.
    -/
theorem numberAll_cons {t : DataType} {ts : List DataType} {k : Nat} {ids : List Nat}
    {n₁ n' : Numbering} (h : n.number t = (k, n₁)) (hall : n₁.numberAll ts = (ids, n')) :
    n.numberAll (t :: ts) = (k :: ids, n') := by
  rw [Numbering.numberAll, h]
  show (n₁.numberAll ts).map (k :: ·) id = _
  rw [hall]
  rfl

/-- **Run**: the list grows by some types; every type of those that are numbered has its number from
    the list as it is in the end; and the new numbers, each where it is given first, are the next
    ones in order. -/
theorem Lists.numberAll (h : n.Lists firsts) (ts : List DataType) : ∃ news ids n',
    n.numberAll ts = (ids, n') ∧ n'.Lists (firsts ++ news) ∧
    ids.map some = ts.map (firsts ++ news).idxOf? ∧
    (ids.filter (firsts.length ≤ ·)).eraseDups = List.range' firsts.length news.length := by
  induction ts generalizing n firsts with
  | nil => exact ⟨[], [], n, rfl, by rwa [List.append_nil], rfl, rfl⟩
  | cons t ts ih =>
    rcases h.number t with ⟨k, hk, hplace, hnumber⟩ | ⟨hnone, n₁, hn₁, hnumber⟩
    · -- nothing new
      obtain ⟨news, ids, n', hall, hn', hids, hnew⟩ := ih h
      refine ⟨news, k :: ids, n', numberAll_cons hnumber hall, hn', ?_, ?_⟩
      · rw [List.map_cons, List.map_cons, hids, idxOf?_append_of_eq_some hplace]
      · rw [List.filter_cons_of_neg (by simpa using hk), hnew]
    · -- the type itself is the first of the new ones
      obtain ⟨news, ids, n', hall, hn', hids, hnew⟩ := ih hn₁
      have hplace := idxOf?_append_of_eq_some (idxOf?_append_of_eq_none hnone) news
      rw [List.append_assoc, List.singleton_append] at hn' hids hplace
      rw [List.length_append, List.length_singleton] at hnew
      refine ⟨t :: news, firsts.length :: ids, n', numberAll_cons hnumber hall, hn', ?_, ?_⟩
      · rw [List.map_cons, List.map_cons, hids, hplace]
      · rw [eraseDups_filter_cons, hnew]
        rfl

end Numbering

/-- Numbers that are places in one list are equal exactly where the types are the same. -/
theorem number_eq_iff {firsts ts : List DataType} {ids : List Nat}
    (hids : ids.map some = ts.map firsts.idxOf?) {i j : Nat} {s t : DataType}
    (hs : ts[i]? = some s) (ht : ts[j]? = some t) : ids[i]? = ids[j]? ↔ (s == t) = true := by
  have hplace {i : Nat} {s : DataType} (hs : ts[i]? = some s) :
      ∃ k, ids[i]? = some k ∧ firsts.idxOf? s = some k := by
    have := congrArg (·[i]?) hids
    simp only [List.getElem?_map, hs, Option.map_some, Option.map_eq_some_iff] at this
    obtain ⟨k, hk, hsk⟩ := this
    exact ⟨k, hk, hsk.symm⟩
  -- The type that stands at a place is like the one that has it as its number.  So if the numbers
  -- are equal, both types are like one and the same.
  obtain ⟨k, hk, hsk⟩ := hplace hs
  obtain ⟨l, hl, htl⟩ := hplace ht
  rw [hk, hl]
  constructor
  · intro h
    cases h
    obtain ⟨u, hu, hus⟩ := exists_beq_of_idxOf? hsk
    obtain ⟨v, hv, hvt⟩ := exists_beq_of_idxOf? htl
    rw [hu] at hv
    cases hv
    exact equivalence_beq.trans (equivalence_beq.symm hus) hvt
  · intro h
    rw [← hsk, ← htl, idxOf?_congr firsts h]

/-- Of numbers that are those up to `n`, some of them more than once, the largest is the last. -/
theorem eq_of_eraseDups_eq_range {ids : List Nat} {n : Nat} (h : ids.eraseDups = List.range n) :
    n = ids.max?.elim 0 (· + 1) := by
  -- Taking out repetitions leaves the same numbers, which are those below `n`.
  have hmem (k : Nat) : k ∈ ids ↔ k < n := by
    rw [← List.mem_eraseDups, h, List.mem_range]
  cases hmax : ids.max? with
  | none =>
    rw [List.max?_eq_none_iff] at hmax
    rcases Nat.eq_zero_or_pos n with hn | hn
    · exact hn
    · have hzero := (hmem 0).2 hn
      rw [hmax] at hzero
      cases hzero
  | some m =>
    obtain ⟨hm, hle⟩ := List.max?_eq_some_iff.1 hmax
    have hlt := (hmem m).1 hm
    have hlast := hle (n - 1) ((hmem (n - 1)).2 (by omega))
    show n = m + 1
    omega

/-- **Interning**: to be the same is an equivalence, which asks for the zero that a bound is without
    its sign and takes an undefined bound for itself, and types that are the same have one hash
    code.  The numbers of a list of types are equal exactly where the types are the same; each taken
    where it comes first, they are those from zero on, in order; and there are as many as types that
    differ, which is one more than the largest. -/
theorem intern_numbers :
    (Equivalence fun s t : DataType => (s == t) = true) ∧
    (∀ s t : DataType, (s == t) = true ↔
      s.mapBounds Double.normal = t.mapBounds Double.normal) ∧
    (∀ x y : Double, x.normal = y.normal ↔
      x = y ∨ ∃ negative, x = .zero negative ∧ y = .zero !negative) ∧
    (∀ s t : DataType, (s == t) = true → Hashable.hash s = Hashable.hash t) ∧
    ∀ ts : List DataType, ∃ ids distinct, intern ts = (ids, distinct) ∧
      ids.length = ts.length ∧
      (∀ (i j : Nat) (s t : DataType), ts[i]? = some s → ts[j]? = some t →
        (ids[i]? = ids[j]? ↔ (s == t) = true)) ∧
      ids.eraseDups = List.range distinct ∧
      distinct = ids.max?.elim 0 (· + 1) := by
  refine ⟨equivalence_beq, fun s t => beq_iff, fun x y => Double.normal_eq_iff,
    fun s t h => hash_eq h, fun ts => ?_⟩
  obtain ⟨firsts, ids, n, hall, hn, hids, hnew⟩ := Numbering.lists_nil.numberAll ts
  have hrange : ids.eraseDups = List.range n.size := by
    rw [List.filter_eq_self.2 (by simp)] at hnew
    rw [hn.size_eq, List.range_eq_range', hnew]
    rfl
  refine ⟨ids, n.size, by rw [intern, hall]; rfl, ?_, fun i j s t => number_eq_iff hids, hrange,
    eq_of_eraseDups_eq_range hrange⟩
  simpa using congrArg List.length hids

end DataType

end TypeExpr
