import TypeExpr.Proofs.RoundTrip
import TypeExpr.Proofs.Sameness
import TypeExpr.Regex.Check

/-!
# One type, two texts

Types that are the same may differ in the signs of zeros that are bounds, and in nothing else.  A
text keeps these signs: `0.0` and `-0.0` are one bound and are written differently.  So the
canonical text does not depend on the type alone.  It tells types that are the same apart exactly if
they are not equal (`DataType.render_eq_iff_of_same`), and without a zero that has a sign there is
one text for all types that are the same.

One canonical text is never the beginning of another one of the same type, whatever stands behind
(`DataType.eq_of_render_append`).  In this form the statement passes through arrays, hashes and
variants by induction on the type.

Where the induction comes down to a bound there are just two texts to be compared, `0.0` and `-0.0`,
and these differ in the first character (`Double.eq_of_text_append`); all other bounds that are the
same are equal.

Of types that are not the same nothing is said here. How much of a type can be told from its text is
the subject of `RoundTrip`; this module is about what the text depends on besides.
-/

namespace TypeExpr

namespace Double

theorem text_zero (negative : Bool) :
    ((zero negative).text canonicalNotation).toList =
      if negative then ['-', '0', '.', '0'] else ['0', '.', '0'] := by
  cases negative <;> decide

/-- The texts of numbers that are one bound differ early, or not at all. -/
theorem eq_of_text_append {x y : Double} (h : x.normal = y.normal) {r r' : List Char}
    (htext : (x.text canonicalNotation).toList ++ r = (y.text canonicalNotation).toList ++ r') :
    x = y := by
  rcases eq_or_zeros_of_normal_eq h with heq | ⟨negative, rfl, rfl⟩
  · exact heq
  · -- one of the two texts begins with a minus sign
    rw [text_zero, text_zero] at htext
    cases negative <;> simp at htext

end Double

/-- A name with arguments is the name, a bracket, the first argument, and the others behind commas.
    -/
theorem toList_applied (name argument : String) (arguments : List String) (r : List Char) :
    (applied name (argument :: arguments)).toList ++ r =
      name.toList ++ '[' :: (argument.toList ++
        (arguments.flatMap (fun u => ',' :: ' ' :: u.toList) ++ ']' :: r)) := by
  have hlist := toList_intercalate_cons ", " argument arguments
  have hseparator : ", ".toList = [',', ' '] := rfl
  simp only [applied, String.toList_append, hlist, hseparator]
  simp

/-- What is alike behind one name is alike from the first argument on. -/
theorem append_eq_of_applied {name u v : String} {us vs : List String} {r r' : List Char}
    (h : (applied name (u :: us)).toList ++ r = (applied name (v :: vs)).toList ++ r') :
    u.toList ++ (us.flatMap (fun w => ',' :: ' ' :: w.toList) ++ ']' :: r) =
      v.toList ++ (vs.flatMap (fun w => ',' :: ' ' :: w.toList) ++ ']' :: r') := by
  rw [toList_applied, toList_applied] at h
  exact (List.cons.inj (List.append_cancel_left h)).2

/-- From a second argument on, if it is the last one. -/
theorem append_eq_of_applied_two {name u v w : String} {r r' : List Char}
    (h : (applied name [u, v]).toList ++ r = (applied name [u, w]).toList ++ r') :
    v.toList ++ ']' :: r = w.toList ++ ']' :: r' := by
  have h := List.append_cancel_left (append_eq_of_applied h)
  simpa using h

namespace DataType

/-- Bounds that are the same differ in their texts before either ends, unless they are equal; an
    open bound is the same as no other one. -/
theorem eq_of_boundText_append {x y : Option Double}
    (h : x.map Double.normal = y.map Double.normal) {r r' : List Char}
    (htext : (boundText (Double.text canonicalNotation) x).toList ++ r =
      (boundText (Double.text canonicalNotation) y).toList ++ r') : x = y := by
  cases x with
  | none =>
    cases y with
    | none => rfl
    | some y => cases h
  | some x =>
    cases y with
    | none => cases h
    | some y => rw [Double.eq_of_text_append (Option.some.inj h) htext]

/-- A range of numbers that is not open on both sides is written with both bounds. -/
theorem render_float {a b : Option Double} (h : ¬(a = none ∧ b = none)) :
    (float a b).render = applied Former.float.title
      [boundText (Double.text canonicalNotation) a,
       boundText (Double.text canonicalNotation) b] := by
  cases a <;> cases b <;> simp_all [render]

/-- Ranges of numbers that are the same differ in their texts before either ends, unless they are
    equal. -/
theorem eq_of_render_float_append {a b c d : Option Double}
    (hmin : a.map Double.normal = c.map Double.normal)
    (hmax : b.map Double.normal = d.map Double.normal) {r r' : List Char}
    (htext : (float a b).render.toList ++ r = (float c d).render.toList ++ r') :
    float a b = float c d := by
  by_cases hopen : a = none ∧ b = none
  · obtain ⟨rfl, rfl⟩ := hopen
    rw [Option.map_eq_none_iff.1 hmin.symm, Option.map_eq_none_iff.1 hmax.symm]
  · have hopen' : ¬(c = none ∧ d = none) := by
      rintro ⟨rfl, rfl⟩
      exact hopen ⟨Option.map_eq_none_iff.1 hmin, Option.map_eq_none_iff.1 hmax⟩
    rw [render_float hopen, render_float hopen'] at htext
    obtain rfl := eq_of_boundText_append hmin (append_eq_of_applied htext)
    rw [eq_of_boundText_append hmax (append_eq_of_applied_two htext)]

mutual

/-- The canonical texts of types that are the same differ before either ends, unless the types are
    equal. -/
theorem eq_of_render_append : ∀ (s t : DataType), s.normal = t.normal → ∀ r r' : List Char,
    s.render.toList ++ r = t.render.toList ++ r' → s = t
  | float a b, t, h, r, r', htext => by
    cases t with
    | float c d =>
      simp only [normal, mapBounds, float.injEq] at h
      exact eq_of_render_float_append h.1 h.2 htext
    | _ => simp [normal, mapBounds] at h
  -- what stands behind an element is the closing bracket and all that follows
  | array e, t, h, r, r', htext => by
    cases t with
    | array e' =>
      simp only [normal_array, array.injEq] at h
      simp only [render] at htext
      rw [eq_of_render_append e e' h _ _ (append_eq_of_applied htext)]
    | _ => simp [normal, mapBounds] at h
  | hash k v, t, h, r, r', htext => by
    cases t with
    | hash k' v' =>
      simp only [normal_hash, hash.injEq] at h
      simp only [render] at htext
      have hk := eq_of_render_append k k' h.1 _ _ (append_eq_of_applied htext)
      subst hk
      rw [eq_of_render_append v v' h.2 _ _ (append_eq_of_applied_two htext)]
    | _ => simp [normal, mapBounds] at h
  | variant ss, t, h, r, r', htext => by
    cases t with
    | variant ts =>
      simp only [normal_variant, variant.injEq] at h
      cases ss with
      | nil => rw [List.map_eq_nil_iff.1 h.symm]
      | cons u us =>
        cases ts with
        | nil => cases h
        | cons v vs =>
          obtain ⟨hu, hus⟩ := List.cons.inj h
          simp only [render] at htext
          have htext := append_eq_of_applied htext
          obtain rfl := eq_of_render_append u v hu _ _ htext
          rw [eq_of_renders_append us vs hus _ _ (List.append_cancel_left htext)]
    | _ => simp [normal, mapBounds] at h
  | plain _, t, h, r, r', htext | integer _ _, t, h, r, r', htext | pattern _, t, h, r, r', htext
  | regexp _, t, h, r, r', htext | classes _, t, h, r, r', htext | resource _, t, h, r, r', htext
  | enum _, t, h, r, r', htext => by
    cases t <;> simp_all [normal, mapBounds]

/-- So do the members of a variant behind the first. -/
theorem eq_of_renders_append : ∀ (ss ts : List DataType), ss.map normal = ts.map normal →
    ∀ r r' : List Char, (renderAll ss).flatMap (fun u => ',' :: ' ' :: u.toList) ++ r =
      (renderAll ts).flatMap (fun u => ',' :: ' ' :: u.toList) ++ r' → ss = ts
  | [], ts, h, r, r', htext => by
    cases ts with
    | nil => rfl
    | cons t ts => cases h
  | s :: ss, ts, h, r, r', htext => by
    cases ts with
    | nil => cases h
    | cons t ts =>
      obtain ⟨hs, hss⟩ := List.cons.inj h
      simp only [renderAll, List.flatMap_cons, List.cons_append, List.append_assoc,
        List.cons.injEq, true_and] at htext
      obtain rfl := eq_of_render_append s t hs _ _ htext
      rw [eq_of_renders_append ss ts hss _ _ (List.append_cancel_left htext)]

end

/-! ## Which types have one text

Types that are the same have equal normal forms.  If no zero in them has a sign they are in normal
form already, and so they are equal.
-/

/-- No bound is the zero with a sign. -/
def Unsigned : DataType → Prop
  | float min max => (∀ x ∈ min, x.normal = x) ∧ ∀ x ∈ max, x.normal = x
  | _ => True

/-- A bound without a signed zero is in normal form. -/
theorem map_normal_of_unsigned {x : Option Double} (h : ∀ y ∈ x, y.normal = y) :
    x.map Double.normal = x := by
  cases x with
  | none => rfl
  | some y => rw [Option.map_some, h y rfl]

mutual

/-- A type without signed zeros is in normal form. -/
theorem normal_of_unsigned : ∀ t : DataType, Everywhere Unsigned t → t.normal = t
  | float a b, h => by
    obtain ⟨hmin, hmax⟩ := h.here
    rw [normal, mapBounds, map_normal_of_unsigned hmin, map_normal_of_unsigned hmax]
  | array e, h => by rw [normal_array, normal_of_unsigned e (everywhere_array_iff.1 h).2]
  | hash k v, h => by
    obtain ⟨-, hk, hv⟩ := everywhere_hash_iff.1 h
    rw [normal_hash, normal_of_unsigned k hk, normal_of_unsigned v hv]
  | variant ts, h => by
    rw [normal_variant, map_normal_of_unsigneds ts (everywhere_variant_iff.1 h).2]
  | plain _, _ | integer _ _, _ | pattern _, _ | regexp _, _ | classes _, _ | resource _, _
  | enum _, _ => by simp [normal, mapBounds]

/-- So are the members of a variant. -/
theorem map_normal_of_unsigneds : ∀ ts : List DataType, (∀ t ∈ ts, Everywhere Unsigned t) →
    ts.map normal = ts
  | [], _ => rfl
  | t :: ts, h => by
    obtain ⟨ht, hts⟩ := List.forall_mem_cons.1 h
    rw [List.map_cons, normal_of_unsigned t ht, map_normal_of_unsigneds ts hts]

end

/-- Types that are the same have one canonical text exactly if they are equal, which they are if no
    bound in them is a zero with a sign. -/
theorem render_eq_iff_of_same {s t : DataType} (h : (s == t) = true) :
    (s.render = t.render ↔ s = t) ∧ (Everywhere Unsigned s → Everywhere Unsigned t → s = t) := by
  have hnormal : s.normal = t.normal := (same_iff s t).1 h
  refine ⟨⟨?_, ?_⟩, ?_⟩
  · intro hrender
    exact eq_of_render_append s t hnormal [] [] (by rw [hrender])
  · intro heq
    rw [heq]
  · intro hs ht
    rw [← normal_of_unsigned s hs, hnormal, normal_of_unsigned t ht]

end DataType

open DataType

/-- **Canonical texts**: of two texts that denote types that are the same, the canonical texts agree
    exactly if the types have the same signs of zeros, and so whenever no bound in them is a zero
    with a sign. -/
theorem render_eq_of_parse [PatternLanguage] :
    ∀ (a b : String) (s t : DataType), parse a = .ok s → parse b = .ok t →
    (s == t) = true → (s.render = t.render ↔ s = t) ∧
      (Everywhere Unsigned s → Everywhere Unsigned t → s.render = t.render) := by
  intro a b s t _ _ h
  obtain ⟨hiff, heq⟩ := render_eq_iff_of_same h
  refine ⟨hiff, ?_⟩
  intro hs ht
  exact hiff.2 (heq hs ht)

/-! ## The two zeros

The smallest example, for which the texts are put together from their tokens.
-/

open Grammar Rules

/-- A text whose tokens are a name for `Float`, a number and an open bound. -/
theorem parse_of_lower_bound [PatternLanguage] {text : String} {x : Double} (name : String)
    (h : Cursor.tokens? ⟨0, text.toList⟩ = some [.reference name, .openBracket, .float x, .comma,
      .name "default", .closeBracket]) (hname : referenceLeaf name = .reference "float") :
    parse text = .ok (.float (some x) none) := by
  have hexpr : Expression [.reference name, .openBracket, .float x, .comma, .name "default",
      .closeBracket] (.access (.leaf (referenceLeaf name) ())
        [.leaf (.float x) (), .leaf .unbounded ()] ()) :=
    .access (.primary (.leaf (.reference name)))
      (.listing (.more (.one (.primary (.leaf (.float x)))) (.primary (.leaf .unbounded))))
  rw [hname] at hexpr
  have hden : Denotes (.access (.leaf (.reference "float") ())
      [.leaf (.float x) (), .leaf .unbounded ()] ()) (.type (.float (some x) none)) :=
    .access () () (.cons (.float x ()) (.cons (.unbounded ()) .nil))
      (.floatRange (.float x) .unbounded)
  exact parse_eq_ok_iff.2 ⟨_, _, h, ⟨hexpr, by show 1 ≤ 256; omega⟩, hden⟩

open scoped Program in
/-- The zero without a sign is a bound. -/
theorem parse_zero : parse "Float[0.0, default]" = .ok (.float (some (.zero false)) none) :=
  parse_of_lower_bound "Float" (by decide +kernel) (by decide)

open scoped Program in
/-- The zero without a sign has one canonical text, however it is written. -/
theorem render_eq_of_parse_zero : ∃ s t : DataType, parse "Float[0.0, default]" = .ok s ∧
    parse "::FLOAT [ 0e3, default]" = .ok t ∧ (s == t) = true ∧
    Everywhere Unsigned s ∧ Everywhere Unsigned t ∧ s.render = t.render := by
  have hparse' : parse "::FLOAT [ 0e3, default]" = .ok (.float (some (.zero false)) none) :=
    parse_of_lower_bound "::FLOAT" (by decide +kernel) (by decide)
  have hsame : (float (some (.zero false)) none == float (some (.zero false)) none) = true :=
    same_refl _
  have hunsigned : Everywhere Unsigned (float (some (.zero false)) none) := by
    rintro u ⟨⟩
    refine ⟨?_, ?_⟩
    · rintro x ⟨⟩
      rfl
    · rintro x ⟨⟩
  exact ⟨_, _, parse_zero, hparse', hsame, hunsigned, hunsigned,
    (render_eq_of_parse _ _ _ _ parse_zero hparse' hsame).2 hunsigned hunsigned⟩

open scoped Program in
/-- With and without a sign zero is one bound, and it has two canonical texts. -/
theorem not_render_eq_of_parse : ∃ s t : DataType, parse "Float[0.0, default]" = .ok s ∧
    parse "Float[-0.0, default]" = .ok t ∧ (s == t) = true ∧ s.render ≠ t.render := by
  have hparse' : parse "Float[-0.0, default]" = .ok (.float (some (.zero true)) none) :=
    parse_of_lower_bound "Float" (by decide +kernel) (by decide)
  refine ⟨_, _, parse_zero, hparse', ?_, ?_⟩
  · decide
  · decide

end TypeExpr
