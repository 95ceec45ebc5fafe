import TypeExpr.DataType.Interning
import TypeExpr.Proofs.Documents
import TypeExpr.Proofs.Parts
import TypeExpr.Proofs.RoundTrip

/-!
# Types from JSON

A type whose bounds are finite is recovered from its JSON text (`DataType.ofJson?_toJson`): the text
is read as a document, the document's `kind` says which fields there have to be, and numbers are
read like those of a specification.  So no two such types have one text.

An infinite or undefined bound is written `null`, like a bound that is open.

There are two halves, and both are inductions on the type.  The document of a type is one that the
reader of documents reads back (`DataType.legible_document`), for which the texts of numbers have to
be looked at: what the writer makes of a double is a decimal numeral, hence made of characters of
numbers.  And from the document the type is recovered (`DataType.ofDocument?_document`), for which
the numbers have to be read: the numerals of integers and of doubles stand for what they were made
of.  Reading a number needs nothing of the reader of tokens but what it does with numbers.

That a type is recovered is more than that no two types have one text, but for the latter no reader
is needed; the reader is here to say what the former means.  It accepts documents that no type is
written as, such as a range of integers with a bound that is no integer of 64 bits, and answers that
there is no type.
-/

namespace TypeExpr

/-! ## Numbers

A number of a document is read by the reader of numbers of specifications, from its first character
to its last.
-/

/-- The token of a number that takes up a whole text. -/
def Token.ofNumber? (s : String) : Option Token :=
  match readNumber s.toList with
  | .token t _ [] => some t
  | _ => none

/-- A numeral, perhaps behind a minus sign, is the number that it stands for. -/
theorem Token.ofNumber?_eq {s : String} {n : Numeral} {negative : Bool} {t : Token}
    (hn : n.WellFormed) (hs : s.toList = (if negative then ['-'] else []) ++ n.spelling)
    (ht : n.token negative = .ok t) : ofNumber? s = some t := by
  have hread := Numeral.readNumber_spelling hn negative delimits_nil
  rw [List.append_nil, ← hs, ht] at hread
  rw [ofNumber?, hread]

namespace Numeral

theorem isNumeric_of_isDigit {c : Char} (h : isDigit c = true) : isNumeric c = true := by
  rw [isNumeric, h]
  rfl

/-- An exponent is made of characters of numbers. -/
theorem isNumeric_exponent {e : Exponent} (h : e.WellFormed) :
    ∀ c ∈ e.spelling, isNumeric c = true := by
  intro c hc
  rcases List.mem_cons.1 hc with rfl | hc
  · rcases h.mark with hmark | hmark <;> rw [hmark] <;> decide
  · rcases List.mem_append.1 hc with hc | hc
    · rcases h.sign c (Option.mem_toList.1 hc) with rfl | rfl <;> decide
    · exact isNumeric_of_isDigit (h.digits.2 c hc)

/-- A numeral that is not hexadecimal is made of characters of numbers. -/
theorem isNumeric_spelling {n : Numeral} (h : n.WellFormed)
    (hten : ∀ mark ds, n ≠ .hexadecimal mark ds) : ∀ c ∈ n.spelling, isNumeric c = true := by
  intro c hc
  cases h with
  | @hexadecimal mark ds => exact absurd rfl (hten mark ds)
  | whole hds => exact isNumeric_of_isDigit (hds.2 c hc)
  | @decimal ds fs e hds hfs _ he =>
    rcases List.mem_append.1 hc with hc | hc
    · -- in front of the exponent, a digit or the point
      rcases List.mem_append.1 hc with hc | hc
      · exact isNumeric_of_isDigit (hds.2 c hc)
      · split at hc
        · cases hc
        · rcases List.mem_cons.1 hc with rfl | hc
          · decide
          · exact isNumeric_of_isDigit (hfs c hc)
    · cases e with
      | none => cases hc
      | some x => exact isNumeric_exponent (he x rfl) c hc

end Numeral

namespace Document

/-- A number that is an integer of 64 bits. -/
def int64? : Document → Option Int64
  | number ds =>
    match Token.ofNumber? ds with
    | some (.integer n) => some n
    | _ => none
  | _ => none

/-- A number that is a double. -/
def double? : Document → Option Double
  | number ds =>
    match Token.ofNumber? ds with
    | some (.float x) => some x
    | _ => none
  | _ => none

/-- A string. -/
def string? : Document → Option String
  | text s => some s
  | _ => none

/-- Something that may be absent. -/
def optional? {α : Type} (read? : Document → Option α) : Document → Option (Option α)
  | null => some none
  | d => (read? d).map some

/-- A list of strings. -/
def strings? : Document → Option (List String)
  | list ds => ds.mapM string?
  | _ => none

/-- A resource. -/
def resourceRef? : Document → Option ResourceRef
  | object [("type_name", text name), ("title", title)] =>
    (optional? string? title).map (ResourceRef.mk name)
  | _ => none

/-! ## Reading what is written

One lemma for each kind of field.  A field that may be absent is written `null` if it is; nothing
that is there is written so, which is where a bound that is not finite would be in the way.
-/

/-- What may be absent is read back if what is there is, and is not written as what is not there. -/
theorem optional?_ofOption {α : Type} {read? : Document → Option α} {document : α → Document}
    {o : Option α} (hsome : ∀ a ∈ o, read? (document a) = some a)
    (hnull : ∀ a ∈ o, document a ≠ null) : optional? read? (ofOption document o) = some o := by
  cases o with
  | none => rfl
  | some a =>
    have hread := hsome a rfl
    have hne := hnull a rfl
    rw [ofOption]
    unfold optional?
    split
    · rename_i heq
      exact absurd heq hne
    · rw [hread]
      rfl

/-- An integer of 64 bits is read back. -/
theorem int64?_ofInt64 (n : Int64) : int64? (ofInt64 n) = some n := by
  have hsign : (toString n.toInt).toList =
      (if decide (n.toInt < 0) then ['-'] else []) ++ Nat.toDigits 10 n.toInt.natAbs := by
    simp only [toList_toString_int, decide_eq_true_eq]
  have htoken := Token.ofNumber?_eq (.whole (isRow_toDigits n.toInt.natAbs)) hsign (token_whole n)
  rw [ofInt64, int64?, htoken]

/-- A finite double is read back, with the sign of a zero. -/
theorem double?_ofDouble {x : Double} (h : x.isFinite = true) : double? (ofDouble x) = some x := by
  cases x with
  | finite negative rank =>
    obtain ⟨d, positional, htext, htoken⟩ := Double.exists_numeral jsonNotation rfl negative rank
    have hnumber := Token.ofNumber?_eq (d.wellFormed_numeral positional _) htext htoken
    rw [ofDouble, if_pos h, double?, hnumber]
  | _ => cases h

/-- A finite double is not written as if it were absent. -/
theorem ofDouble_ne_null {x : Double} (h : x.isFinite = true) : ofDouble x ≠ null := by
  rw [ofDouble, if_pos h]
  exact fun h => Document.noConfusion h

/-- A list of strings is read back. -/
theorem strings?_texts (ss : List String) : strings? (list (ss.map text)) = some ss := by
  rw [strings?]
  induction ss with
  | nil => rfl
  | cons s ss ih =>
    rw [List.map_cons, List.mapM_cons, ih]
    rfl

theorem optional?_text (o : Option String) : optional? string? (ofOption text o) = some o :=
  optional?_ofOption (fun _ _ => rfl) fun _ _ h => Document.noConfusion h

/-- The document of a resource. -/
def ofResourceRef (r : ResourceRef) : Document :=
  object [("type_name", text r.typeName), ("title", ofOption text r.title)]

theorem resourceRef?_ofResourceRef (r : ResourceRef) : resourceRef? (ofResourceRef r) = some r := by
  rw [ofResourceRef, resourceRef?, optional?_text]
  rfl

end Document

/-! ## What is written is legible

The reader of documents takes a number as far as there are characters of numbers.  Every number that
is written is made of these.
-/

namespace Document

open Numeral (isNumeric_of_isDigit isNumeric_spelling)

theorem legibleAll_iff {ds : List Document} : LegibleAll ds ↔ ∀ d ∈ ds, d.Legible := by
  induction ds with
  | nil => simp [LegibleAll]
  | cons d ds ih => simp [LegibleAll, ih]

/-- What may be absent is legible if what is there is. -/
theorem legible_ofOption {α : Type} {document : α → Document} {o : Option α}
    (h : ∀ a ∈ o, (document a).Legible) : (ofOption document o).Legible := by
  cases o with
  | none => trivial
  | some a => exact h a rfl

theorem legible_ofOption_text (o : Option String) : (ofOption text o).Legible :=
  legible_ofOption fun _ _ => trivial

/-- A list of strings is legible whatever is in them. -/
theorem legible_texts (ss : List String) : (list (ss.map text)).Legible := by
  rw [Legible, legibleAll_iff]
  intro d hd
  obtain ⟨s, -, rfl⟩ := List.mem_map.1 hd
  trivial

/-- A sign and characters of numbers, of which there is at least one. -/
theorem isRow_signed (negative : Bool) {cs : List Char} (h : IsRow isNumeric cs) :
    IsRow isNumeric ((if negative then ['-'] else []) ++ cs) := by
  refine ⟨by simp [h.1], ?_⟩
  intro c hc
  rcases List.mem_append.1 hc with hc | hc
  · cases negative with
    | false => cases hc
    | true =>
      rw [List.mem_singleton.1 hc]
      decide
  · exact h.2 c hc

/-- An integer is written with a sign and digits. -/
theorem legible_ofInt64 (n : Int64) : (ofInt64 n).Legible := by
  rw [ofInt64, Legible, toList_toString_int]
  have hdigits := isRow_toDigits n.toInt.natAbs
  have hrow : IsRow isNumeric (Nat.toDigits 10 n.toInt.natAbs) :=
    ⟨hdigits.1, fun c hc => isNumeric_of_isDigit (hdigits.2 c hc)⟩
  have hsigned := isRow_signed (decide (n.toInt < 0)) hrow
  simpa using hsigned

/-- No decimal is written in hexadecimal. -/
theorem numeral_ne_hexadecimal (d : Decimal) (positional plusSign : Bool) (mark : Char)
    (ds : List Char) : d.numeral positional plusSign ≠ .hexadecimal mark ds := by
  unfold Decimal.numeral
  cases positional with
  | true =>
    cases d.exponent with
    | ofNat e => exact fun h => Numeral.noConfusion h
    | negSucc e =>
      simp only [if_true]
      split <;> exact fun h => Numeral.noConfusion h
  | false => exact fun h => Numeral.noConfusion h

/-- A double is written with a sign and characters of numbers, or as if it were absent. -/
theorem legible_ofDouble (x : Double) : (ofDouble x).Legible := by
  cases x with
  | finite negative rank =>
    have hfinite : (Double.finite negative rank).isFinite = true := rfl
    obtain ⟨d, positional, htext, -⟩ := Double.exists_numeral jsonNotation rfl negative rank
    have hwell := d.wellFormed_numeral positional jsonNotation.plusSign
    obtain ⟨c, cs, hspelling, -⟩ := hwell.exists_cons
    have hrow : IsRow isNumeric (d.numeral positional jsonNotation.plusSign).spelling := by
      refine ⟨?_, isNumeric_spelling hwell (numeral_ne_hexadecimal d positional _)⟩
      rw [hspelling]
      exact List.cons_ne_nil c cs
    rw [ofDouble, if_pos hfinite, Legible, htext]
    exact isRow_signed negative hrow
  | _ => trivial

end Document

/-- The plain type of a title. -/
def Plain.ofTitle? (title : String) : Option Plain :=
  [numeric, string, boolean, data, literal, undef, object, collection, catalogEntry].find?
    fun p => p.title == title

theorem Plain.ofTitle?_title (p : Plain) : ofTitle? p.title = some p := by
  cases p <;> decide

namespace DataType

open Document (optional? int64? double? string? strings? resourceRef?)

mutual

/-- The type that a document is written for. -/
def ofDocument? : Document → Option DataType
  | .object [("kind", .text title)] => (Plain.ofTitle? title).map plain
  | .object [("kind", .text "Integer"), ("min", min), ("max", max)] => do
    return integer (← optional? int64? min) (← optional? int64? max)
  | .object [("kind", .text "Float"), ("min", min), ("max", max)] => do
    return float (← optional? double? min) (← optional? double? max)
  | .object [("kind", .text "Pattern"), ("patterns", ps)] => (strings? ps).map pattern
  | .object [("kind", .text "Regexp"), ("pattern", p)] => (optional? string? p).map regexp
  | .object [("kind", .text "Array"), ("element", e)] => (ofDocument? e).map array
  | .object [("kind", .text "Hash"), ("key", k), ("value", v)] => do
    return hash (← ofDocument? k) (← ofDocument? v)
  | .object [("kind", .text "Class"), ("name", n)] => (optional? string? n).map classes
  | .object [("kind", .text "Resource"), ("reference", r)] =>
    (optional? resourceRef? r).map resource
  | .object [("kind", .text "Enum"), ("values", vs)] => (strings? vs).map enum
  | .object [("kind", .text "Variant"), ("types", .list ts)] => (ofDocuments? ts).map variant
  | _ => none

/-- The types that documents are written for. -/
def ofDocuments? : List Document → Option (List DataType)
  | [] => some []
  | d :: ds => do return (← ofDocument? d) :: (← ofDocuments? ds)

end

open Document (optional?_ofOption int64?_ofInt64 double?_ofDouble ofDouble_ne_null strings?_texts
  optional?_text resourceRef?_ofResourceRef)

mutual

/-- A type is recovered from its document. -/
theorem ofDocument?_document : ∀ t : DataType, Everywhere Bounded t →
    ofDocument? t.document = some t
  | plain p, _ => by
    rw [document, ofDocument?, p.ofTitle?_title]
    rfl
  | integer min max, _ => by
    have hbound (b : Option Int64) : optional? int64? (Document.ofOption Document.ofInt64 b) =
        some b :=
      optional?_ofOption (fun n _ => int64?_ofInt64 n) fun _ _ h => Document.noConfusion h
    rw [document, ofDocument?, hbound min, hbound max]
    rfl
  | float min max, h => by
    have hbound (b : Option Double) (hb : ∀ x ∈ b, x.isFinite = true) :
        optional? double? (Document.ofOption Document.ofDouble b) = some b :=
      optional?_ofOption (fun x hx => double?_ofDouble (hb x hx))
        fun x hx => ofDouble_ne_null (hb x hx)
    -- this is where the bounds have to be finite
    obtain ⟨hmin, hmax⟩ := h.here
    rw [document, ofDocument?, hbound min hmin, hbound max hmax]
    rfl
  | pattern ps, _ => by
    rw [document, ofDocument?, strings?_texts]
    rfl
  | regexp p, _ => by
    rw [document, ofDocument?, optional?_text]
    rfl
  | array e, h => by
    rw [document, ofDocument?, ofDocument?_document e (everywhere_array_iff.1 h).2]
    rfl
  | hash k v, h => by
    obtain ⟨-, hk, hv⟩ := everywhere_hash_iff.1 h
    rw [document, ofDocument?, ofDocument?_document k hk, ofDocument?_document v hv]
    rfl
  | classes name, _ => by
    rw [document, ofDocument?, optional?_text]
    rfl
  | resource r, _ => by
    have href : optional? resourceRef? (Document.ofOption Document.ofResourceRef r) = some r :=
      optional?_ofOption (fun r _ => resourceRef?_ofResourceRef r)
        fun _ _ h => Document.noConfusion h
    rw [document, ofDocument?]
    exact congrArg (Option.map resource) href
  | enum vs, _ => by
    rw [document, ofDocument?, strings?_texts]
    rfl
  | variant ts, h => by
    rw [document, ofDocument?, ofDocuments?_documents ts (everywhere_variant_iff.1 h).2]
    rfl

/-- So are some types. -/
theorem ofDocuments?_documents : ∀ ts : List DataType, (∀ t ∈ ts, Everywhere Bounded t) →
    ofDocuments? (documents ts) = some ts
  | [], _ => by rw [documents, ofDocuments?]
  | t :: ts, h => by
    obtain ⟨ht, hts⟩ := List.forall_mem_cons.1 h
    rw [documents, ofDocuments?, ofDocument?_document t ht, ofDocuments?_documents ts hts]
    rfl

end

open Document (Legible LegibleAll LegibleFields legible_ofOption legible_ofOption_text legible_texts
  legible_ofInt64 legible_ofDouble)

mutual

/-- The document of a type is legible, whatever its bounds are: an infinite bound is written as if
    it were open. -/
theorem legible_document : ∀ t : DataType, t.document.Legible
  -- One case for each kind of type.  The fields are fixed texts; what has to be looked at are their
  -- values.
  | plain _ => by simp [document, Legible, LegibleFields]
  | integer min max => by
    have hbound (b : Option Int64) : (Document.ofOption Document.ofInt64 b).Legible :=
      legible_ofOption fun n _ => legible_ofInt64 n
    simp [document, Legible, LegibleFields, hbound]
  | float min max => by
    have hbound (b : Option Double) : (Document.ofOption Document.ofDouble b).Legible :=
      legible_ofOption fun x _ => legible_ofDouble x
    simp [document, Legible, LegibleFields, hbound]
  | pattern ps => by
    have := legible_texts ps
    simp_all [document, Legible, LegibleFields]
  | regexp p => by simp [document, Legible, LegibleFields, legible_ofOption_text]
  | array e => by simp [document, Legible, LegibleFields, legible_document e]
  | hash k v => by
    simp [document, Legible, LegibleFields, legible_document k, legible_document v]
  | classes name => by simp [document, Legible, LegibleFields, legible_ofOption_text]
  | resource r => by
    have href : (Document.ofOption Document.ofResourceRef r).Legible :=
      legible_ofOption fun r _ => by
        simp [Document.ofResourceRef, Legible, LegibleFields, legible_ofOption_text]
    simp only [document, Legible, LegibleFields, true_and, and_true]
    exact href
  | enum vs => by
    have := legible_texts vs
    simp_all [document, Legible, LegibleFields]
  | variant ts => by simp [document, Legible, LegibleFields, legible_documents ts]

/-- So are the documents of some types. -/
theorem legible_documents : ∀ ts : List DataType, LegibleAll (documents ts)
  | [] => by simp [documents, LegibleAll]
  | t :: ts => by simp [documents, LegibleAll, legible_document t, legible_documents ts]

end

/-! ## The text of a type

With both halves a type is recovered from its text; that two types with one text are one is what
follows from it.
-/

/-- The type that is written as the JSON text. -/
def ofJson? (s : String) : Option DataType := (Document.ofText? s).bind ofDocument?

/-- A type with finite bounds is recovered from its JSON text. -/
theorem ofJson?_toJson {t : DataType} (h : Everywhere Bounded t) : ofJson? t.toJson = some t := by
  rw [ofJson?, toJson, Document.ofText?_compact t.legible_document, Option.bind_some,
    ofDocument?_document t h]

/-- **JSON**: a type with finite bounds is recovered from its JSON text, and types with finite
    bounds that have one JSON text are the same. -/
theorem toJson_injective :
    (∀ t : DataType, Everywhere Bounded t → ofJson? t.toJson = some t) ∧
    ∀ t u : DataType, Everywhere Bounded t → Everywhere Bounded u → t.toJson = u.toJson →
      (t == u) = true := by
  refine ⟨fun t h => ofJson?_toJson h, ?_⟩
  intro t u ht hu hjson
  have hsome : some t = some u := by
    rw [← ofJson?_toJson ht, hjson, ofJson?_toJson hu]
  obtain rfl := Option.some.inj hsome
  exact same_refl t

example : (float (some (.infinite true)) none).toJson = (float none none).toJson := rfl

/-- A title that looks like the end of an object, and a zero that keeps its sign. -/
theorem toJson_injective_variant : ∃ t : DataType, Everywhere Bounded t ∧
    t.toJson = "\x7b\"kind\":\"Variant\",\"types\":[\x7b\"kind\":\"Float\",\"min\":-0.0," ++
      "\"max\":null\x7d,\x7b\"kind\":\"Resource\",\"reference\":\x7b\"type_name\":\"file\"," ++
      "\"title\":\"\\\"\x7d\\n\"\x7d\x7d]\x7d" ∧
    ofJson? t.toJson = some t ∧ (t == t) = true := by
  -- The one bound is a zero, which is finite.
  have hbounded : Everywhere Bounded (variant [float (some (.zero true)) none,
      resource (some ⟨"file", some "\"\x7d\n"⟩)]) := by
    refine everywhere_variant_iff.2 ⟨trivial, List.forall_mem_cons.2 ⟨?_, ?_⟩⟩
    · rintro u ⟨⟩
      refine ⟨?_, ?_⟩
      · rintro x ⟨⟩
        rfl
      · rintro x ⟨⟩
    · refine List.forall_mem_singleton.2 ?_
      rintro u ⟨⟩
      trivial
  refine ⟨_, hbounded, ?_, toJson_injective.1 _ hbounded,
    toJson_injective.2 _ _ hbounded hbounded rfl⟩
  decide

end DataType

end TypeExpr
