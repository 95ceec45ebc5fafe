import TypeExpr.Proofs.Case
import TypeExpr.Proofs.Form
import TypeExpr.Proofs.Numerals

/-!
# The canonical text as a form

The canonical text of a type comes with a reading that is meant: `DataType.form`.  Its text is the
canonical text (`text_form`), and it is faithful for every type whatever (`faithful_form`): each
word that is written, be it a name, a number or a text in apostrophes, is read as the token it is
meant as.  What that token then says of the type is left to the rules of meaning.

Bounds that are no numbers have no spelling of their own.  `NaN` and `inf` are written like a
reference and a name, and are meant as such; `-inf` is no word.

To say all this of a form and not of a text is what makes it an induction on the type.  A text would
have to be taken apart again to see where its parts are; a form says so itself, and how the words of
a faithful form are read has been settled for all forms at once.  So there are two short inductions
here, with one case for each kind of type: one compares the two ways to write a type, and the other
collects what is known of words.

The one place where a decision is made is the name of a class and the kind of a resource.  Both are
written bare if they can be and in apostrophes if not, and both ways are faithful; which of them is
taken, the canonical text and the form decide by the same test.
-/

namespace TypeExpr

/-! ## Forms of the parts

The form of a type says of each word of the canonical text how it is meant.  It is defined by the
same cases as the text is, and by no others.
-/

/-- A reference on its own. -/
def referenceForm (name : String) : Form := .word name (.reference name)

/-- A text in apostrophes. -/
def quoteForm (s : String) : Form := .word (Text.quote s) (.string s)

/-- The name of a class as an argument. -/
def nameForm (name : String) : Form :=
  if WordKind.name.isPlain name.toList && !keywords.contains name then .word name (.name name)
  else quoteForm name

/-- An integer. -/
def integerForm (n : Int64) : Form := .word (toString n.toInt) (.integer n)

/-- A double. -/
def doubleForm : Double → Form
  | .nan => referenceForm "NaN"
  | .infinite false => .word "inf" (.name "inf")
  | .infinite true => .illegible "-inf"
  | .finite negative rank =>
    .word (Double.text canonicalNotation (.finite negative rank)) (.float (.finite negative rank))

/-- A bound, or the word for none. -/
def boundForm {α : Type} (form : α → Form) : Option α → Form
  | some b => form b
  | none => .word "default" (.name "default")

/-- A resource type. -/
def ResourceRef.form (r : ResourceRef) : Form :=
  match asReference? r.typeName, r.title with
  | some reference, none => referenceForm reference
  | some reference, some title => .applied reference [quoteForm title]
  | none, none => .applied Former.resource.title [quoteForm r.typeName]
  | none, some title => .applied Former.resource.title [quoteForm r.typeName, quoteForm title]

namespace DataType

mutual

/-- The canonical text of a type and how it is meant. -/
def form : DataType → Form
  | plain p => referenceForm p.title
  | integer none none => referenceForm Former.integer.title
  | integer min max =>
    .applied Former.integer.title [boundForm integerForm min, boundForm integerForm max]
  | float none none => referenceForm Former.float.title
  | float min max =>
    .applied Former.float.title [boundForm doubleForm min, boundForm doubleForm max]
  | pattern [] => referenceForm Former.pattern.title
  | pattern patterns => .applied Former.pattern.title (patterns.map quoteForm)
  | regexp none => referenceForm Former.regexp.title
  | regexp (some p) => .applied Former.regexp.title [quoteForm p]
  | array element => .applied Former.array.title [element.form]
  | hash key value => .applied Former.hash.title [key.form, value.form]
  | classes none => referenceForm Former.classes.title
  | classes (some name) => .applied Former.classes.title [nameForm name]
  | resource none => referenceForm Former.resource.title
  | resource (some r) => r.form
  | enum [] => referenceForm Former.enum.title
  | enum values => .applied Former.enum.title (values.map quoteForm)
  | variant [] => referenceForm Former.variant.title
  | variant (t :: ts) => .applied Former.variant.title (t.form :: forms ts)

/-- The canonical texts of types and how they are meant. -/
def forms : List DataType → List Form
  | [] => []
  | t :: ts => t.form :: forms ts

end

end DataType

/-! ## The text of the form is the canonical text

By the cases of the definitions; nothing is read here.
-/

/-- Texts in apostrophes are written as quoted texts. -/
theorem texts_map_quoteForm (ss : List String) :
    Form.texts (ss.map quoteForm) = ss.map Text.quote := by
  induction ss with
  | nil => rfl
  | cons s ss ih => simp [Form.texts, ih, quoteForm, Form.text]

/-- The name of a class is written as it is written in the canonical text: bare if it can be, and in
    apostrophes if not. -/
theorem text_nameForm (name : String) : (nameForm name).text = nameArgument name := by
  unfold nameForm nameArgument
  split <;> rfl

/-- A double is written as it is written in the canonical text, also if it is no number. -/
theorem text_doubleForm (x : Double) : (doubleForm x).text = Double.text canonicalNotation x := by
  fun_cases doubleForm x <;> simp [referenceForm, Form.text, Double.text]

/-- An open bound is written as the same word by both. -/
theorem text_boundForm {α : Type} {form : α → Form} {text : α → String}
    (h : ∀ a, (form a).text = text a) (b : Option α) :
    (boundForm form b).text = boundText text b := by
  cases b with
  | none => rfl
  | some a => exact h a

/-- A resource is written as it is in the canonical text, in each of the four cases. -/
theorem ResourceRef.text_form (r : ResourceRef) : r.form.text = r.render := by
  obtain ⟨typeName, title⟩ := r
  unfold form render
  cases asReference? typeName <;> cases title <;>
    simp [referenceForm, quoteForm, Form.text, Form.texts]

namespace DataType

mutual

/-- The text of the form of a type is the canonical text of the type. -/
theorem text_form : ∀ t : DataType, t.form.text = t.render
  | plain p => by simp [form, render, referenceForm, Form.text]
  | integer min max => by
    have hbound : ∀ b, (boundForm integerForm b).text = boundText (fun n => toString n.toInt) b :=
      text_boundForm fun _ => rfl
    cases min <;> cases max <;>
      simp [form, render, referenceForm, Form.text, Form.texts, hbound]
  | float min max => by
    have hbound := text_boundForm text_doubleForm
    cases min <;> cases max <;>
      simp [form, render, referenceForm, Form.text, Form.texts, hbound]
  -- where the canonical text has two cases, such as for an empty list and another, so has the form
  | pattern [] => by simp [form, render, referenceForm, Form.text]
  | pattern (p :: ps) => by simp [form, render, Form.text, texts_map_quoteForm, -List.map_cons]
  | regexp none => by simp [form, render, referenceForm, Form.text]
  | regexp (some p) => by simp [form, render, quoteForm, Form.text, Form.texts]
  | array e => by simp [form, render, Form.text, Form.texts, text_form e]
  | hash k v => by simp [form, render, Form.text, Form.texts, text_form k, text_form v]
  | classes none => by simp [form, render, referenceForm, Form.text]
  | classes (some name) => by simp [form, render, Form.text, Form.texts, text_nameForm]
  | resource none => by simp [form, render, referenceForm, Form.text]
  | resource (some r) => by simp [form, render, r.text_form]
  | enum [] => by simp [form, render, referenceForm, Form.text]
  | enum (s :: ss) => by simp [form, render, Form.text, texts_map_quoteForm, -List.map_cons]
  | variant [] => by simp [form, render, referenceForm, Form.text]
  | variant (t :: ts) => by
    simp [form, render, Form.text, Form.texts, text_form t, texts_forms ts]

/-- The texts of the forms of some types are the canonical texts of the types. -/
theorem texts_forms : ∀ ts : List DataType, Form.texts (forms ts) = renderAll ts
  | [] => by simp [forms, Form.texts, renderAll]
  | t :: ts => by simp [forms, Form.texts, renderAll, text_form t, texts_forms ts]

end

end DataType

/-! ## The form is faithful

Every word is read as it is meant, in front of what stands behind it.  Words are delimited by the
brackets and commas of the form; where a name could be read as something else, the canonical text
puts it in apostrophes.
-/

section

variable [PatternLanguage]

/-- A plain reference is read as itself. -/
theorem faithful_referenceForm {name : String} (h : WordKind.reference.isPlain name.toList = true) :
    (referenceForm name).Faithful := by
  rw [referenceForm, Form.Faithful]
  exact ⟨reads_reference h, _, rfl⟩

/-- A plain name is read as itself. -/
theorem faithful_name {name : String} (h : WordKind.name.isPlain name.toList = true) :
    (Form.word name (.name name)).Faithful := by
  rw [Form.Faithful]
  refine ⟨reads_name h, ?_⟩
  by_cases hname : name ∈ keywords
  · simp only [keywords, List.mem_cons, List.not_mem_nil, or_false] at hname
    rcases hname with rfl | rfl | rfl | rfl <;> exact ⟨_, rfl⟩
  · exact ⟨_, Token.leaf?_name hname⟩

/-- A text in apostrophes is read as the text, whatever is in it. -/
theorem faithful_quoteForm (s : String) : (quoteForm s).Faithful := by
  rw [quoteForm, Form.Faithful]
  exact ⟨reads_quote s, _, rfl⟩

/-- The name of a class is read as itself, bare or in apostrophes. -/
theorem faithful_nameForm (name : String) : (nameForm name).Faithful := by
  unfold nameForm
  split
  · rename_i h
    rw [Bool.and_eq_true] at h
    exact faithful_name h.1
  · exact faithful_quoteForm name

/-- An integer is read as the one token that it is meant as. -/
theorem faithful_integerForm (n : Int64) : (integerForm n).Faithful := by
  rw [integerForm, Form.Faithful]
  exact ⟨reads_integer n, _, rfl⟩

/-- What begins with a minus sign and has no digit behind it is not read. -/
theorem reads_minus_inf : Reads "-inf".toList none := by
  obtain ⟨hblank, hcomment, hread⟩ := Numeral.readToken_of_number (c := '-') (by decide)
  have htext : "-inf".toList = ['-', 'i', 'n', 'f'] := by decide
  rw [htext]
  refine reads_none_of_readToken hblank hcomment fun rest => ?_
  rw [hread]
  exact ⟨_, _, _, _, rfl⟩

/-- A finite double is read as itself; what is written for the others is read as what it looks like.
    -/
theorem faithful_doubleForm (x : Double) : (doubleForm x).Faithful := by
  fun_cases doubleForm x with
  | case1 => exact faithful_referenceForm (by decide)
  | case2 => exact faithful_name (by decide)
  | case3 =>
    rw [Form.Faithful]
    exact reads_minus_inf
  | case4 negative rank =>
    rw [Form.Faithful]
    exact ⟨reads_float negative rank, _, rfl⟩

/-- A bound is read as it is meant if one that is there is; an open one is written as a word. -/
theorem faithful_boundForm {α : Type} {form : α → Form} (h : ∀ a, (form a).Faithful)
    (b : Option α) : (boundForm form b).Faithful := by
  cases b with
  | none => exact faithful_name (by decide)
  | some a => exact h a

/-- A reference with arguments is read as it is meant if its name and the arguments are. -/
theorem faithful_applied {name : String} {arguments : List Form}
    (hname : WordKind.reference.isPlain name.toList = true) (h : Form.FaithfulAll arguments) :
    (Form.applied name arguments).Faithful := by
  rw [Form.Faithful]
  exact ⟨reads_reference hname, h⟩

theorem faithfulAll_iff {fs : List Form} : Form.FaithfulAll fs ↔ ∀ f ∈ fs, f.Faithful := by
  induction fs with
  | nil => simp [Form.FaithfulAll]
  | cons f fs ih => simp [Form.FaithfulAll, ih]

/-- Texts in apostrophes are read as the texts. -/
theorem faithfulAll_map_quoteForm (ss : List String) : Form.FaithfulAll (ss.map quoteForm) := by
  rw [faithfulAll_iff]
  intro f hf
  obtain ⟨s, -, rfl⟩ := List.mem_map.1 hf
  exact faithful_quoteForm s

end

/-- A kind of resource that has a reference is a plain word, and the reference is its capitalised
    form. -/
theorem asReference?_eq_some_iff {typeName reference : String} :
    asReference? typeName = some reference ↔
      WordKind.lowerReference.isPlain typeName.toList = true ∧
        (TypeName.ofLower typeName).isReserved = false ∧
        reference = String.ofList (Text.capitalize typeName.toList) := by
  simp only [asReference?, Option.ite_none_right_eq_some, Bool.and_eq_true, Bool.not_eq_true',
    Option.some.injEq, and_assoc]
  constructor
  · rintro ⟨h₁, h₂, rfl⟩
    exact ⟨h₁, h₂, rfl⟩
  · rintro ⟨h₁, h₂, rfl⟩
    exact ⟨h₁, h₂, rfl⟩

/-- The reference that a kind of resource is written as is a plain one. -/
theorem isPlain_of_asReference? {typeName reference : String}
    (h : asReference? typeName = some reference) :
    WordKind.reference.isPlain reference.toList = true := by
  obtain ⟨hplain, -, rfl⟩ := asReference?_eq_some_iff.1 h
  rw [String.toList_ofList]
  exact Text.isPlain_capitalize hplain

/-- The titles are plain references, which is checked for one after the other. -/
theorem Former.isPlain_title (f : Former) : WordKind.reference.isPlain f.title.toList = true := by
  cases f <;> decide

theorem Plain.isPlain_title (p : Plain) : WordKind.reference.isPlain p.title.toList = true := by
  cases p <;> decide

/-- A resource is read as it is meant: what is not written as a reference is written in apostrophes.
    -/
theorem ResourceRef.faithful_form [PatternLanguage] (r : ResourceRef) : r.form.Faithful := by
  obtain ⟨typeName, title⟩ := r
  unfold form
  have hquotes (ss : List String) : Form.FaithfulAll (ss.map quoteForm) :=
    faithfulAll_map_quoteForm ss
  cases h : asReference? typeName with
  | none =>
    cases title with
    | none => exact faithful_applied (Former.isPlain_title _) (hquotes [typeName])
    | some title => exact faithful_applied (Former.isPlain_title _) (hquotes [typeName, title])
  | some reference =>
    cases title with
    | none => exact faithful_referenceForm (isPlain_of_asReference? h)
    | some title => exact faithful_applied (isPlain_of_asReference? h) (hquotes [title])

namespace DataType

/-- The title of a type former is read as a reference. -/
theorem faithful_former [PatternLanguage] (f : Former) : (referenceForm f.title).Faithful :=
  faithful_referenceForm f.isPlain_title

/-- A type former with arguments is read as it is meant if the arguments are. -/
theorem faithful_applied_former [PatternLanguage] (f : Former) {arguments : List Form}
    (h : ∀ a ∈ arguments, a.Faithful) : (Form.applied f.title arguments).Faithful :=
  faithful_applied f.isPlain_title (faithfulAll_iff.2 h)

mutual

/-- **Faithfulness**: every word of the canonical text of any type is read as it is meant. -/
theorem faithful_form [PatternLanguage] : ∀ t : DataType, t.form.Faithful
  | plain p => by
    rw [form]
    exact faithful_referenceForm p.isPlain_title
  | integer min max => by
    have hmin := faithful_boundForm faithful_integerForm min
    have hmax := faithful_boundForm faithful_integerForm max
    cases min <;> cases max <;> rw [form]
    · exact faithful_former _
    -- with one bound at least there are brackets, and both bounds in them
    all_goals simp_all [faithful_applied_former]
  | float min max => by
    have hmin := faithful_boundForm faithful_doubleForm min
    have hmax := faithful_boundForm faithful_doubleForm max
    cases min <;> cases max <;> rw [form]
    · exact faithful_former _
    all_goals simp_all [faithful_applied_former]
  | pattern [] => faithful_former _
  | pattern (p :: ps) => by
    simp only [form]
    exact faithful_applied_former _ (faithfulAll_iff.1 (faithfulAll_map_quoteForm _))
  | regexp none => faithful_former _
  | regexp (some p) => faithful_applied_former _ (by simp [faithful_quoteForm])
  | array e => by
    rw [form]
    exact faithful_applied_former _ (by simp [faithful_form e])
  | hash k v => by
    rw [form]
    exact faithful_applied_former _ (by simp [faithful_form k, faithful_form v])
  | classes none => faithful_former _
  | classes (some name) => faithful_applied_former _ (by simp [faithful_nameForm])
  | resource none => faithful_former _
  | resource (some r) => r.faithful_form
  | enum [] => faithful_former _
  | enum (s :: ss) => by
    simp only [form]
    exact faithful_applied_former _ (faithfulAll_iff.1 (faithfulAll_map_quoteForm _))
  | variant [] => faithful_former _
  | variant (t :: ts) => by
    rw [form]
    exact faithful_applied_former _ (List.forall_mem_cons.2 ⟨faithful_form t, faithful_forms ts⟩)

/-- So are the forms of some types. -/
theorem faithful_forms [PatternLanguage] : ∀ ts : List DataType, ∀ f ∈ forms ts, f.Faithful
  | [] => by simp [forms]
  | t :: ts => by
    rw [forms]
    exact List.forall_mem_cons.2 ⟨faithful_form t, faithful_forms ts⟩

end

end DataType

end TypeExpr
