import Mathlib.Data.List.Forall2

/-!
# Computations one after another

A computation that can fail is made of steps, and stops at the first one that fails.  What that
comes to is said once for two steps (`bind_eq_ok_iff`, `bind_eq_error_iff`) and, by induction, for
one step after the other through a list (`mapM_eq_ok_iff`, `mapM_eq_error_iff`).
-/

namespace TypeExpr

variable {ε α β γ : Type}

/-! ## Two steps

A computation that binds fails with its first part or with its second.
-/

/-- A computation that binds succeeds if both parts do. -/
theorem bind_eq_ok_iff {x : Except ε β} {f : β → Except ε γ} {c : γ} :
    (x >>= f) = .ok c ↔ ∃ b, x = .ok b ∧ f b = .ok c := by
  cases x <;> simp [bind, Except.bind]

/-- A computation that binds fails if its first part does, or else its second. -/
theorem bind_eq_error_iff {x : Except ε β} {f : β → Except ε γ} {e : ε} :
    (x >>= f) = .error e ↔ x = .error e ∨ ∃ b, x = .ok b ∧ f b = .error e := by
  cases x <;> simp [bind, Except.bind]

/-! ## Through a list

Elements are gone through from the front, and the first that fails ends it.
-/

variable {f : α → Except ε β}

/-- Going through a list succeeds if every element does, with their results in order. -/
theorem mapM_eq_ok_iff {xs : List α} {ys : List β} :
    xs.mapM f = .ok ys ↔ List.Forall₂ (fun x y => f x = .ok y) xs ys := by
  induction xs generalizing ys with
  | nil => cases ys <;> simp [pure, Except.pure]
  | cons x xs ih =>
    simp only [List.mapM_cons, bind_eq_ok_iff, ih, List.forall₂_cons_left_iff]
    constructor
    · rintro ⟨y, hy, ys', hys, ⟨⟩⟩
      exact ⟨y, ys', hy, hys, rfl⟩
    · rintro ⟨y, ys', hy, hys, rfl⟩
      exact ⟨y, hy, ys', hys, rfl⟩

/-- Each element of one list has its partner in the other. -/
theorem exists_of_forall₂_left {R : α → β → Prop} {xs : List α} {ys : List β}
    (h : List.Forall₂ R xs ys) {x : α} (hx : x ∈ xs) : ∃ y ∈ ys, R x y := by
  induction h with
  | nil => cases hx
  | cons hxy _ ih =>
    rcases List.mem_cons.1 hx with rfl | hx
    · exact ⟨_, List.mem_cons_self, hxy⟩
    · obtain ⟨y, hy, hR⟩ := ih hx
      exact ⟨y, List.mem_cons_of_mem _ hy, hR⟩

theorem exists_of_forall₂_right {R : α → β → Prop} {xs : List α} {ys : List β}
    (h : List.Forall₂ R xs ys) {y : β} (hy : y ∈ ys) : ∃ x ∈ xs, R x y :=
  exists_of_forall₂_left h.flip hy

/-- Going through a list fails as the first element does that fails. -/
theorem mapM_eq_error_iff {xs : List α} {e : ε} : xs.mapM f = .error e ↔
    ∃ front x back, xs = front ++ x :: back ∧ (∀ y ∈ front, ∃ b, f y = .ok b) ∧
      f x = .error e := by
  -- By induction on the list: it fails at its first element, or there is a value for that and it
  -- fails further on.
  induction xs with
  | nil => simp [pure, Except.pure]
  | cons x xs ih =>
    simp only [List.mapM_cons, bind_eq_error_iff, ih]
    constructor
    · rintro (hx | ⟨b, hb, ⟨front, y, back, rfl, hfront, hy⟩ | ⟨bs, -, ⟨⟩⟩⟩)
      · exact ⟨[], x, xs, rfl, by simp, hx⟩
      · exact ⟨x :: front, y, back, rfl, List.forall_mem_cons.2 ⟨⟨b, hb⟩, hfront⟩, hy⟩
    · rintro ⟨front, y, back, h, hfront, hy⟩
      cases front with
      | nil =>
        cases h
        exact Or.inl hy
      | cons z front =>
        cases h
        obtain ⟨⟨b, hb⟩, hrest⟩ := List.forall_mem_cons.1 hfront
        exact Or.inr ⟨b, hb, Or.inl ⟨front, y, back, rfl, hrest, hy⟩⟩

/-- Going through a list fails exactly if some element does. -/
theorem exists_mapM_eq_error_iff {xs : List α} :
    (∃ e, xs.mapM f = .error e) ↔ ∃ x ∈ xs, ∃ e, f x = .error e := by
  constructor
  · rintro ⟨e, he⟩
    obtain ⟨front, x, back, rfl, -, hx⟩ := mapM_eq_error_iff.1 he
    exact ⟨x, by simp, e, hx⟩
  · rintro ⟨x, hmem, e, hx⟩
    cases hxs : xs.mapM f with
    | error e => exact ⟨e, rfl⟩
    | ok ys =>
      obtain ⟨y, -, hy⟩ := exists_of_forall₂_left (mapM_eq_ok_iff.1 hxs) hmem
      rw [hx] at hy
      cases hy

end TypeExpr
