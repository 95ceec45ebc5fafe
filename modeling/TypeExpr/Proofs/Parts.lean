import TypeExpr.DataType.Basic

/-!
# The parts of a type

A type has parts: the elements of collections, the keys and values of hashes, the alternatives of a
variant, their parts, and itself.  What has to hold of a type before it can be told from its text
is a matter of each part for itself, so it is said of one type (`Lowered`, `Collects`, `Listed`,
`Bounded`) and then asked everywhere.
-/

namespace TypeExpr.DataType

/-- `PartOf u t`: the type `u` is `t` or stands somewhere in it. -/
inductive PartOf (u : DataType) : DataType → Prop where
  | self : PartOf u u
  | element {e} : PartOf u e → PartOf u (array e)
  | key {k v} : PartOf u k → PartOf u (hash k v)
  | value {k v} : PartOf u v → PartOf u (hash k v)
  | alternative {t ts} : t ∈ ts → PartOf u t → PartOf u (variant ts)

/-- Every part of a type has a property. -/
def Everywhere (P : DataType → Prop) (t : DataType) : Prop := ∀ u, PartOf u t → P u

section Everywhere

variable {P : DataType → Prop}

theorem Everywhere.here {t : DataType} (h : Everywhere P t) : P t := h t .self

/-- A type without parts other than itself. -/
theorem everywhere_iff_self {t : DataType} (ht : ∀ u, PartOf u t → u = t) :
    Everywhere P t ↔ P t := by
  refine ⟨Everywhere.here, fun h u hu => ?_⟩
  rw [ht u hu]
  exact h

/-- The parts of an array are the array and the parts of its elements' type. -/
theorem everywhere_array_iff {e : DataType} :
    Everywhere P (array e) ↔ P (array e) ∧ Everywhere P e := by
  constructor
  · intro h
    exact ⟨h.here, fun u hu => h u (.element hu)⟩
  · rintro ⟨h, he⟩ u hu
    cases hu with
    | self => exact h
    | element hu => exact he u hu

/-- The parts of a hash are the hash and the parts of its keys' and values' types. -/
theorem everywhere_hash_iff {k v : DataType} :
    Everywhere P (hash k v) ↔ P (hash k v) ∧ Everywhere P k ∧ Everywhere P v := by
  constructor
  · intro h
    exact ⟨h.here, fun u hu => h u (.key hu), fun u hu => h u (.value hu)⟩
  · rintro ⟨h, hk, hv⟩ u hu
    cases hu with
    | self => exact h
    | key hu => exact hk u hu
    | value hu => exact hv u hu

/-- The parts of a variant are the variant and the parts of its alternatives. -/
theorem everywhere_variant_iff {ts : List DataType} :
    Everywhere P (variant ts) ↔ P (variant ts) ∧ ∀ t ∈ ts, Everywhere P t := by
  constructor
  · intro h
    exact ⟨h.here, fun t ht u hu => h u (.alternative ht hu)⟩
  · rintro ⟨h, hts⟩ u hu
    cases hu with
    | self => exact h
    | alternative ht hu => exact hts _ ht u hu

theorem everywhere_and_iff {Q : DataType → Prop} {t : DataType} :
    Everywhere (fun u => P u ∧ Q u) t ↔ Everywhere P t ∧ Everywhere Q t :=
  ⟨fun h => ⟨fun u hu => (h u hu).1, fun u hu => (h u hu).2⟩,
    fun h u hu => ⟨h.1 u hu, h.2 u hu⟩⟩

end Everywhere

/-! ## What can be asked of a part

Properties of one type, which say nothing of the types in it.
-/

/-- The name of a class or of a kind of resource is in lower case, as it is in every type that is
    made by `classOf` or `resourceOf`. -/
def Lowered : DataType → Prop
  | classes (some name) => lowerName name = name
  | resource (some r) => lowerName r.typeName = r.typeName
  | _ => True

/-- Elements, keys and values are not `Undef`. -/
def Collects : DataType → Prop
  | array e => e ≠ plain .undef
  | hash k v => k ≠ plain .undef ∧ v ≠ plain .undef
  | _ => True

/-- A list of patterns, of texts or of alternatives is empty or has two members at least. -/
def Listed : DataType → Prop
  | pattern ps => ps.length = 0 ∨ 2 ≤ ps.length
  | enum ss => ss.length = 0 ∨ 2 ≤ ss.length
  | variant ts => ts.length = 0 ∨ 2 ≤ ts.length
  | _ => True

/-- The bounds of a range of doubles are finite. -/
def Bounded : DataType → Prop
  | float min max => (∀ x ∈ min, x.isFinite = true) ∧ ∀ x ∈ max, x.isFinite = true
  | _ => True

/-- What it takes for a type to be told from its text. -/
structure Readable (t : DataType) : Prop where
  collects : Everywhere Collects t
  listed : Everywhere Listed t
  bounded : Everywhere Bounded t

/-- What it takes of one part. -/
def Sound (t : DataType) : Prop := Collects t ∧ Listed t ∧ Bounded t

/-- A type is readable if each part is sound by itself. -/
theorem readable_iff {t : DataType} : t.Readable ↔ Everywhere Sound t := by
  constructor
  · rintro ⟨h₁, h₂, h₃⟩ u hu
    exact ⟨h₁ u hu, h₂ u hu, h₃ u hu⟩
  · intro h
    exact ⟨fun u hu => (h u hu).1, fun u hu => (h u hu).2.1, fun u hu => (h u hu).2.2⟩

end TypeExpr.DataType
