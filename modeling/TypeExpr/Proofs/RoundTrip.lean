import TypeExpr.Proofs.Made
import TypeExpr.Proofs.Rereading
import TypeExpr.Proofs.Sameness
import TypeExpr.Regex.Check

/-!
# The round trip

A type is written out and its text is read again.  What comes back is the type itself or an error,
and never another type: the text is read as the tokens of a form, these have one expression, and
that denotes the type or nothing (`parse_render_eq_ok_iff`).  It is an error exactly if a part of
the type is such as no text denotes, or if the text opens more brackets than may be open at once.

For a type that was read from a text the parts are in order (`DataType.of_parse`), and only the
brackets are left.  These can be too many: `Array` and `Hash` are written out with the type of their
elements, in brackets that the text they were read from need not have had.

The three things that have been shown by themselves come together here.  The canonical text is the
text of a form, and the form is faithful (`Canonical`); a faithful form that is legible is read as
its tokens, and these as its tree (`Form`); and the tree denotes the type exactly if all of it is
sound (`Rereading`).  What is left to say is that a form is legible exactly where bounds are not
infinite (`DataType.isSome_form`), so that no condition is needed for the tokens besides those that
the meaning asks for.

`Array` inside 256 arrays is the example of a type that is read and cannot be read again.
-/

namespace TypeExpr

open DataType Grammar Rules

/-! ## A type with finite bounds can be read

The form of a type has tokens unless a bound in it is negative infinity, which is written as
something that is no word.
-/

namespace Form

theorem tokenRows_eq_map (fs : List Form) : tokenRows fs = fs.map tokens? := by
  induction fs with
  | nil => rfl
  | cons f fs ih => simp [tokenRows, ih]

/-- Pieces with commas between them have tokens if each of them has. -/
theorem isSome_foldl_separated {o : Option (List Token)} {os : List (Option (List Token))}
    (ho : o.isSome) (h : ∀ p ∈ os, p.isSome) : (os.foldl separated o).isSome := by
  induction os generalizing o with
  | nil => exact ho
  | cons p os ih =>
    obtain ⟨hp, hos⟩ := List.forall_mem_cons.1 h
    refine ih ?_ hos
    obtain ⟨ts, rfl⟩ := Option.isSome_iff_exists.1 ho
    rwa [separated, Option.bind_some, Option.isSome_map]

/-- A reference with arguments has tokens if the arguments have. -/
theorem isSome_applied {name : String} {arguments : List Form}
    (h : ∀ f ∈ arguments, f.tokens?.isSome) : (applied name arguments).tokens?.isSome := by
  have hjoined : (joined (arguments.map tokens?)).isSome := by
    cases arguments with
    | nil => rfl
    | cons f fs =>
      obtain ⟨hf, hfs⟩ := List.forall_mem_cons.1 h
      exact isSome_foldl_separated hf (by simpa using hfs)
  rw [tokens?, tokenRows_eq_map]
  simpa [bracketed] using hjoined

end Form

/-- A bound has tokens if one that is there has. -/
theorem isSome_boundForm {α : Type} {form : α → Form} {b : Option α}
    (h : ∀ a ∈ b, (form a).tokens?.isSome) : (boundForm form b).tokens?.isSome := by
  cases b with
  | none => rfl
  | some a => exact h a rfl

/-- A finite double has a token. -/
theorem isSome_doubleForm {x : Double} (h : x.isFinite = true) :
    (doubleForm x).tokens?.isSome := by
  cases x with
  | finite negative rank => rfl
  | _ => cases h

/-- A resource has tokens, however it is written. -/
theorem ResourceRef.isSome_form (r : ResourceRef) : r.form.tokens?.isSome := by
  unfold form
  split
  · rfl
  · exact Form.isSome_applied (by simp [quoteForm, Form.tokens?])
  · exact Form.isSome_applied (by simp [quoteForm, Form.tokens?])
  · exact Form.isSome_applied (by simp [quoteForm, Form.tokens?])

namespace DataType

mutual

/-- The form of a type has an illegible part only where a bound is negative infinity. -/
theorem isSome_form : ∀ t : DataType, Everywhere Bounded t → t.form.tokens?.isSome
  | plain _, _ => rfl
  | integer min max, _ => by
    have hbound (b : Option Int64) : (boundForm integerForm b).tokens?.isSome :=
      isSome_boundForm fun _ _ => rfl
    cases min <;> cases max <;> simp only [form]
    · rfl
    -- with one bound at least there are brackets
    all_goals exact Form.isSome_applied (by simp [hbound])
  | float min max, h => by
    obtain ⟨hmin, hmax⟩ := h.here
    have hlower : (boundForm doubleForm min).tokens?.isSome :=
      isSome_boundForm fun x hx => isSome_doubleForm (hmin x hx)
    have hupper : (boundForm doubleForm max).tokens?.isSome :=
      isSome_boundForm fun x hx => isSome_doubleForm (hmax x hx)
    cases min <;> cases max <;> simp only [form]
    · rfl
    all_goals exact Form.isSome_applied (by simp [hlower, hupper])
  | pattern [], _ => rfl
  | pattern (p :: ps), _ => by
    simp only [form]
    exact Form.isSome_applied (by simp [quoteForm, Form.tokens?])
  | regexp none, _ => rfl
  | regexp (some p), _ => by
    rw [form]
    exact Form.isSome_applied (by simp [quoteForm, Form.tokens?])
  | array e, h => by
    rw [form]
    exact Form.isSome_applied (by simp [isSome_form e (everywhere_array_iff.1 h).2])
  | hash k v, h => by
    obtain ⟨-, hk, hv⟩ := everywhere_hash_iff.1 h
    rw [form]
    exact Form.isSome_applied (by simp [isSome_form k hk, isSome_form v hv])
  | classes none, _ => rfl
  | classes (some name), _ => by
    rw [form]
    refine Form.isSome_applied (List.forall_mem_singleton.2 ?_)
    unfold nameForm
    split <;> rfl
  | resource none, _ => rfl
  | resource (some r), _ => by
    rw [form]
    exact r.isSome_form
  | enum [], _ => rfl
  | enum (s :: ss), _ => by
    simp only [form]
    exact Form.isSome_applied (by simp [quoteForm, Form.tokens?])
  | variant [], _ => rfl
  | variant (t :: ts), h => by
    obtain ⟨ht, hts⟩ := List.forall_mem_cons.1 (everywhere_variant_iff.1 h).2
    rw [form]
    exact Form.isSome_applied (List.forall_mem_cons.2 ⟨isSome_form t ht, isSome_forms ts hts⟩)

/-- So do the forms of some types. -/
theorem isSome_forms : ∀ ts : List DataType, (∀ t ∈ ts, Everywhere Bounded t) →
    ∀ f ∈ forms ts, f.tokens?.isSome
  | [], _ => by simp [forms]
  | t :: ts, h => by
    obtain ⟨ht, hts⟩ := List.forall_mem_cons.1 h
    rw [forms]
    exact List.forall_mem_cons.2 ⟨isSome_form t ht, isSome_forms ts hts⟩

end

end DataType

/-! ## Reading the canonical text

For a text that is the text of a form, everything is known: its tokens, its tree, and how many
brackets it opens.
-/

/-- The text opens so many brackets inside each other at most.  Brackets in literals and comments do
    not count. -/
def OpensAtMost [PatternLanguage] (n : Nat) (text : String) : Prop :=
  ∀ ls, tokenize text = .ok ls → bracketDepth (ls.map (·.token)) ≤ n

/-- For a text whose tokens are known, brackets are counted in the tokens. -/
theorem opensAtMost_iff [PatternLanguage] {n : Nat} {text : String} {ts : List Token}
    (h : Cursor.tokens? ⟨0, text.toList⟩ = some ts) : OpensAtMost n text ↔ bracketDepth ts ≤ n := by
  obtain ⟨ls, hls, rfl⟩ := tokens?_eq_some_iff.1 h
  constructor
  · intro hopens
    exact hopens ls hls
  · intro hdepth ms hms
    cases hls.symm.trans hms
    exact hdepth

section Faithful

variable [PatternLanguage] {f : Form} (h : f.Faithful)

include h

/-- The text of a form opens what the form does. -/
theorem opensAtMost_text_iff {n : Nat} (hsome : f.tokens?.isSome) :
    OpensAtMost n f.text ↔ f.brackets ≤ n := by
  obtain ⟨ts, hts⟩ := Option.isSome_iff_exists.1 hsome
  rw [opensAtMost_iff (((Form.reads h).tokens?_eq 0).trans hts), bracketDepth,
    (Form.opens_tokens? h ts hts).2 0, Nat.zero_add]

/-- The text of a form denotes the type that its expression does, if it can be read. -/
theorem parse_text_eq_ok_iff {t : DataType} : parse f.text = .ok t ↔
    f.tokens?.isSome ∧ OpensAtMost maxDepth f.text ∧ Denotes f.tree (.type t) := by
  have htokens := (Form.reads h).tokens?_eq 0
  rw [parse_eq_ok_iff, htokens]
  constructor
  · rintro ⟨ts, n, hts, hspec, hden⟩
    -- the tokens have one expression, and the form's is one
    have htree : n = f.tree :=
      Node.specification_unique hspec ⟨Form.expression h ts hts, hspec.2⟩
    rw [htree] at hden
    exact ⟨Option.isSome_iff_exists.2 ⟨ts, hts⟩,
      (opensAtMost_iff (htokens.trans hts)).2 hspec.2, hden⟩
  · rintro ⟨hsome, hopens, hden⟩
    obtain ⟨ts, hts⟩ := Option.isSome_iff_exists.1 hsome
    have hdepth := (opensAtMost_iff (htokens.trans hts)).1 hopens
    exact ⟨ts, f.tree, hts, ⟨Form.expression h ts hts, hdepth⟩, hden⟩

end Faithful

/-- **The round trip**: the canonical text of a type is read as that type or not at all. -/
theorem parse_render_eq_ok_iff [PatternLanguage] {t u : DataType} (h : Everywhere Lowered t) :
    parse t.render = .ok u ↔ u = t ∧ t.Readable ∧ OpensAtMost maxDepth t.render := by
  rw [← text_form, parse_text_eq_ok_iff t.faithful_form, denotes_form_iff t h, ← readable_iff]
  constructor
  · rintro ⟨-, hopens, hvalue, hreadable⟩
    cases hvalue
    exact ⟨rfl, hreadable, hopens⟩
  · rintro ⟨rfl, hreadable, hopens⟩
    exact ⟨isSome_form u hreadable.bounded, hopens, rfl, hreadable⟩

/-- A text that denotes no type is an error. -/
theorem exists_error_of_forall_ne [PatternLanguage] {text : String} (h : ∀ u, parse text ≠ .ok u) :
    ∃ e, parse text = .error e := by
  cases hparse : parse text with
  | ok u => exact absurd hparse (h u)
  | error e => exact ⟨e, rfl⟩

/-! ## Arrays inside arrays

The text and the type with which the limit on brackets is reached. -/

/-- `Array` inside so many arrays, as a text. -/
def nestedArrays : Nat → String
  | 0 => "Array"
  | n + 1 => "Array[" ++ nestedArrays n ++ "]"

/-- The type of that text. -/
def nestedArray : Nat → DataType
  | 0 => array (plain .data)
  | n + 1 => array (nestedArray n)

/-- The text and how it is meant. -/
def nestedForm : Nat → Form
  | 0 => referenceForm Former.array.title
  | n + 1 => .applied Former.array.title [nestedForm n]

/-- The text of the nested form is the nested text. -/
theorem text_nestedForm (n : Nat) : (nestedForm n).text = nestedArrays n := by
  induction n with
  | zero => rfl
  | succ n ih =>
    have htitle : Former.array.title ++ "[" = "Array[" := by decide
    rw [nestedForm, nestedArrays, Form.text, Form.texts, Form.texts, ih, applied, htitle]
    rfl

/-- The nested form is read as it is meant. -/
theorem faithful_nestedForm [PatternLanguage] (n : Nat) : (nestedForm n).Faithful := by
  induction n with
  | zero => exact faithful_former _
  | succ n ih => exact faithful_applied_former _ (List.forall_mem_singleton.2 ih)

/-- The nested form has tokens, at any depth. -/
theorem isSome_nestedForm (n : Nat) : (nestedForm n).tokens?.isSome := by
  induction n with
  | zero => rfl
  | succ n ih => exact Form.isSome_applied (List.forall_mem_singleton.2 ih)

/-- It opens as many brackets as it is deep. -/
theorem brackets_nestedForm (n : Nat) : (nestedForm n).brackets = n := by
  induction n with
  | zero => rfl
  | succ n ih => simp [nestedForm, Form.brackets, Form.bracketsAll, ih]

theorem nestedArray_ne_undef (n : Nat) : nestedArray n ≠ plain .undef := by
  cases n <;> simp [nestedArray]

/-- It denotes the nested type. -/
theorem denotes_nestedForm (n : Nat) : Denotes (nestedForm n).tree (.type (nestedArray n)) := by
  induction n with
  | zero => exact (denotes_former_iff .array).2 rfl
  | succ n ih =>
    rw [nestedForm, denotes_applied_iff (referenceLeaf_former .array)]
    exact ⟨_, _, forall₂_one_iff.2 ⟨_, ih, rfl⟩, .array (nestedArray_ne_undef n), rfl⟩

/-- The text is read, down to the deepest bracket that there may be. -/
theorem parse_nestedArrays [PatternLanguage] {n : Nat} (h : n ≤ maxDepth) :
    parse (nestedArrays n) = .ok (nestedArray n) := by
  have hopens : OpensAtMost maxDepth (nestedForm n).text := by
    rwa [opensAtMost_text_iff (faithful_nestedForm n) (isSome_nestedForm n), brackets_nestedForm]
  rw [← text_nestedForm, parse_text_eq_ok_iff (faithful_nestedForm n)]
  exact ⟨isSome_nestedForm n, hopens, denotes_nestedForm n⟩

/-- What holds of lists of whatever is not undefined, and of the type in the middle, holds of all
    parts of the nested type. -/
theorem everywhere_nestedArray {P : DataType → Prop} (hdata : P (plain .data))
    (harray : ∀ e, e ≠ plain .undef → P (array e)) (n : Nat) : Everywhere P (nestedArray n) := by
  induction n with
  | zero =>
    have hplain : Everywhere P (plain .data) := (everywhere_iff_self (by rintro u ⟨⟩; rfl)).2 hdata
    exact everywhere_array_iff.2 ⟨harray _ (by simp), hplain⟩
  | succ n ih => exact everywhere_array_iff.2 ⟨harray _ (nestedArray_ne_undef n), ih⟩

theorem lowered_nestedArray (n : Nat) : Everywhere Lowered (nestedArray n) :=
  everywhere_nestedArray trivial (fun _ _ => trivial) n

/-- All of it can be read again but for the brackets. -/
theorem readable_nestedArray (n : Nat) : (nestedArray n).Readable := by
  rw [readable_iff]
  exact everywhere_nestedArray ⟨trivial, trivial, trivial⟩ (fun _ he => ⟨he, trivial, trivial⟩) n

/-- The canonical text opens one bracket more than the text it was read from: the innermost `Array`
    is written out with the type of its elements. -/
theorem brackets_form_nestedArray (n : Nat) : (nestedArray n).form.brackets = n + 1 := by
  induction n with
  | zero => simp [nestedArray, form, Form.brackets, Form.bracketsAll, referenceForm]
  | succ n ih => simp [nestedArray, form, Form.brackets, Form.bracketsAll, ih]

/-- The canonical text has one more bracket, since it says `Array[Data]` for `Array`. -/
theorem opensAtMost_nestedArray_iff [PatternLanguage] {n k : Nat} :
    OpensAtMost k (nestedArray n).render ↔ n + 1 ≤ k := by
  have hsome := isSome_form _ (readable_nestedArray n).bounded
  rw [← text_form, opensAtMost_text_iff (faithful_form _) hsome, brackets_form_nestedArray]

/-! ## What comes back

If a type is read back at all, it is this type.  When it is depends on its parts and on the
brackets; for a type that was parsed it depends on the brackets alone.
-/

/-- **Exactness**: a type whose names are in lower case is read back, as a type that is the same, if
    its parts are in order and its text opens no more than `maxDepth` brackets.  Otherwise it is an
    error, so that no type is ever read back as another one. -/
theorem DataType.reparse_exact [PatternLanguage] (t : DataType) (h : Everywhere Lowered t) :
    (t.Readable ∧ OpensAtMost maxDepth t.render →
      ∃ u, parse t.render = .ok u ∧ (u == t) = true) ∧
    (¬(t.Readable ∧ OpensAtMost maxDepth t.render) → ∃ e, parse t.render = .error e) := by
  constructor
  · rintro ⟨hreadable, hopens⟩
    exact ⟨t, (parse_render_eq_ok_iff h).2 ⟨rfl, hreadable, hopens⟩, t.same_refl⟩
  · intro hnot
    refine exists_error_of_forall_ne fun u hu => hnot ?_
    exact ((parse_render_eq_ok_iff h).1 hu).2

open scoped Program in
/-- At the limit a type is read back, and one bracket beyond it is not. -/
theorem reparse_exact_at_limit :
    Everywhere Lowered (nestedArray 255) ∧ Everywhere Lowered (nestedArray 256) ∧
    (∃ u, parse (nestedArray 255).render = .ok u ∧ (u == nestedArray 255) = true) ∧
    ∃ e, parse (nestedArray 256).render = .error e := by
  have hopens : OpensAtMost maxDepth (nestedArray 255).render :=
    opensAtMost_nestedArray_iff.2 (by decide)
  have hbeyond : ¬OpensAtMost maxDepth (nestedArray 256).render :=
    fun h => absurd (opensAtMost_nestedArray_iff.1 h) (by decide)
  refine ⟨lowered_nestedArray 255, lowered_nestedArray 256, ?_, ?_⟩
  · exact (DataType.reparse_exact (nestedArray 255) (lowered_nestedArray 255)).1
      ⟨readable_nestedArray 255, hopens⟩
  · exact (DataType.reparse_exact (nestedArray 256) (lowered_nestedArray 256)).2
      fun h => hbeyond h.2

/-- A type that was read from a text is read back, as a type that is the same, exactly if its own
    text opens no more than `maxDepth` brackets; if it opens more, that is an error. -/
theorem reparse_iff_opensAtMost [PatternLanguage] (text : String) (t : DataType)
    (h : parse text = .ok t) :
    ((∃ u, parse t.render = .ok u ∧ (u == t) = true) ↔ OpensAtMost maxDepth t.render) ∧
    (¬OpensAtMost maxDepth t.render → ∃ e, parse t.render = .error e) := by
  obtain ⟨hlowered, hreadable⟩ := of_parse h
  refine ⟨⟨?_, ?_⟩, ?_⟩
  · rintro ⟨u, hu, -⟩
    exact ((parse_render_eq_ok_iff hlowered).1 hu).2.2
  · intro hopens
    exact ⟨t, (parse_render_eq_ok_iff hlowered).2 ⟨rfl, hreadable, hopens⟩, t.same_refl⟩
  · intro hnot
    refine exists_error_of_forall_ne fun u hu => hnot ?_
    exact ((parse_render_eq_ok_iff hlowered).1 hu).2.2

open scoped Program in
/-- One bracket below the limit the type is read back, and at the limit it is not. -/
theorem reparse_nestedArrays :
    parse (nestedArrays 255) = .ok (nestedArray 255) ∧
    parse (nestedArrays 256) = .ok (nestedArray 256) ∧
    (∃ u, parse (nestedArray 255).render = .ok u ∧ (u == nestedArray 255) = true) ∧
    ∃ e, parse (nestedArray 256).render = .error e := by
  have hbelow := parse_nestedArrays (n := 255) (by decide)
  have hat := parse_nestedArrays (n := 256) (by decide)
  have hopens : OpensAtMost maxDepth (nestedArray 255).render :=
    opensAtMost_nestedArray_iff.2 (by decide)
  have hbeyond : ¬OpensAtMost maxDepth (nestedArray 256).render :=
    fun h => absurd (opensAtMost_nestedArray_iff.1 h) (by decide)
  refine ⟨hbelow, hat, ?_, ?_⟩
  · exact (reparse_iff_opensAtMost (nestedArrays 255) (nestedArray 255) hbelow).1.2 hopens
  · exact (reparse_iff_opensAtMost (nestedArrays 256) (nestedArray 256) hat).2 hbeyond

open scoped Program in
/-- With `maxDepth` brackets around `Array` the text is read, and the canonical text of what it
    denotes is not. -/
theorem not_reparse_nestedArrays : parse (nestedArrays 256) = .ok (nestedArray 256) ∧
    ¬∃ u, parse (nestedArray 256).render = .ok u ∧ (u == nestedArray 256) = true := by
  refine ⟨parse_nestedArrays (Nat.le_refl 256), ?_⟩
  rintro ⟨u, hu, -⟩
  -- the canonical text takes bracket number 257
  obtain ⟨-, -, hopens⟩ := (parse_render_eq_ok_iff (lowered_nestedArray 256)).1 hu
  exact absurd (opensAtMost_nestedArray_iff.1 hopens) (by decide)

end TypeExpr
