import Mathlib.Data.List.Forall2
import TypeExpr.Proofs.Grammar
import TypeExpr.Proofs.Reading

/-!
# Written forms

A form is a text together with the reading that is meant: words with their tokens, and references
applied to lists of forms.  From a form come the text (`Form.text`), the tokens (`Form.tokens?`),
the expression (`Form.tree`) and the depth of brackets (`Form.brackets`), each by itself; a form is
faithful if its words are read as they are meant.  Then so is the whole: the text is read as the
tokens (`Form.reads`), they derive the expression (`Form.expression`), and they open so many
brackets inside each other (`Form.opens_tokens?`).

A form may hold a text that is no word at all.  Then nothing of the whole is read.

All of it goes by induction on the form, and a list of arguments is dealt with as it is written: one
argument, and then a comma and an argument as often as there are more.  So each of the three results
about lists (`reads_joined`, `arguments_joined`, `opens_joined`) is an induction that goes with the
fold in `joined`, over what has been put together so far.
-/

namespace TypeExpr

/-- A text and how it is meant. -/
inductive Form where
  /-- A word, which is meant as a token. -/
  | word (text : String) (token : Token)
  /-- A text that cannot be read. -/
  | illegible (text : String)
  /-- A reference with arguments in brackets. -/
  | applied (name : String) (arguments : List Form)

/-- The tokens of a list with commas. -/
def joined : List (Option (List Token)) → Option (List Token)
  | [] => some []
  | o :: os => os.foldl separated o

/-- The leaf that a reference stands for. -/
def referenceLeaf (name : String) : Leaf :=
  .reference (String.ofList (Text.lower (dropRoot name.toList)))

namespace Form

mutual

/-- The text of a form. -/
def text : Form → String
  | word text _ => text
  | illegible text => text
  | applied name arguments => TypeExpr.applied name (texts arguments)

/-- The texts of forms. -/
def texts : List Form → List String
  | [] => []
  | f :: fs => f.text :: texts fs

end

mutual

/-- The tokens of a form, if all of it can be read. -/
def tokens? : Form → Option (List Token)
  | word _ token => some [token]
  | illegible _ => none
  | applied name arguments => bracketed (some [.reference name]) (joined (tokenRows arguments))

/-- The tokens of each of some forms. -/
def tokenRows : List Form → List (Option (List Token))
  | [] => []
  | f :: fs => f.tokens? :: tokenRows fs

end

mutual

/-- The expression that a form is meant as. -/
def tree : Form → Node Unit
  | word _ token => .leaf (token.leaf?.getD .undefined) ()
  | illegible _ => .leaf .undefined ()
  | applied name arguments => .access (.leaf (referenceLeaf name) ()) (trees arguments) ()

/-- The expressions that forms are meant as. -/
def trees : List Form → List (Node Unit)
  | [] => []
  | f :: fs => f.tree :: trees fs

end

mutual

/-- The words are read as they are meant, and what is no word is not read. -/
def Faithful [PatternLanguage] : Form → Prop
  | word text token => Reads text.toList (some [token]) ∧ ∃ v, token.leaf? = some v
  | illegible text => Reads text.toList none
  | applied name arguments => Reads name.toList (some [.reference name]) ∧ FaithfulAll arguments

/-- All the forms are faithful. -/
def FaithfulAll [PatternLanguage] : List Form → Prop
  | [] => True
  | f :: fs => f.Faithful ∧ FaithfulAll fs

end

theorem trees_eq_map (fs : List Form) : trees fs = fs.map tree := by
  induction fs with
  | nil => rfl
  | cons f fs ih => simp [trees, ih]

end Form

/-! ## The text is read as the tokens

By induction on the form: a word is read as it is meant, and a list is its arguments with commas
between them.  What delimits a word here is always a mark of the form or the end of it.
-/

/-- Texts with a separator between them are the first one and then, each behind a separator, the
    others. -/
theorem toList_intercalate_cons (separator t : String) (ts : List String) :
    (separator.intercalate (t :: ts)).toList =
      t.toList ++ ts.flatMap fun u => separator.toList ++ u.toList := by
  induction ts generalizing t with
  | nil => simp
  | cons u ts ih => simp [String.intercalate_cons_cons, ih]

/-- Pieces that are read one by one are read as a list, with a comma before each but the first. -/
theorem Reads.separatedAll [PatternLanguage] {cs : List Char} {css : List (List Char)}
    {o : Option (List Token)}
    {os : List (Option (List Token))} (h : Reads cs o) (hs : List.Forall₂ Reads css os) :
    Reads (cs ++ css.flatMap (',' :: ·)) (os.foldl TypeExpr.separated o) := by
  -- on the induction the list before the next comma grows
  induction hs generalizing cs o with
  | nil => simpa using h
  | @cons ds p css os hds _ ih =>
    have := ih (h.separated hds)
    simpa using this

/-- The same of texts with a blank behind each comma. -/
theorem reads_joined [PatternLanguage] {ts : List String} {os : List (Option (List Token))}
    (h : List.Forall₂ (fun t o => Reads t.toList o) ts os) :
    Reads (", ".intercalate ts).toList (joined os) := by
  cases h with
  | nil => exact reads_nil
  | @cons t o ts os ht hts =>
    have hspaced : List.Forall₂ Reads (ts.map fun u => ' ' :: u.toList) os :=
      List.forall₂_map_left_iff.2 (hts.imp fun _ _ hu => hu.space)
    have htext : (", ".intercalate (t :: ts)).toList =
        t.toList ++ (ts.map fun u => ' ' :: u.toList).flatMap (',' :: ·) := by
      rw [toList_intercalate_cons, List.flatMap_map]
      rfl
    rw [htext]
    exact ht.separatedAll hspaced

/-- A reference with arguments is read as the reference, and its arguments between brackets. -/
theorem reads_applied [PatternLanguage] {name : String} {arguments : List String}
    {o p : Option (List Token)}
    (hname : Reads name.toList o) (harguments : Reads (", ".intercalate arguments).toList p) :
    Reads (applied name arguments).toList (bracketed o p) := by
  have htext : (applied name arguments).toList =
      name.toList ++ '[' :: (", ".intercalate arguments).toList ++ [']'] := by
    simp [applied]
  rw [htext]
  exact hname.bracketed harguments

namespace Form

mutual

/-- **Reading**: the text of a form is read as its tokens, in front of whatever delimits it. -/
theorem reads [PatternLanguage] : ∀ {f : Form}, f.Faithful → Reads f.text.toList f.tokens?
  | word _ _, h => by
    rw [Faithful] at h
    exact h.1
  | illegible _, h => by
    rw [Faithful] at h
    exact h
  | applied name arguments, h => by
    rw [Faithful] at h
    rw [text, tokens?]
    exact reads_applied h.1 (reads_joined (forall₂_reads h.2))

/-- The texts of faithful forms are read as their tokens, one by one. -/
theorem forall₂_reads [PatternLanguage] : ∀ {fs : List Form}, FaithfulAll fs →
    List.Forall₂ (fun t o => Reads t.toList o) (texts fs) (tokenRows fs)
  | [], _ => .nil
  | f :: fs, h => by
    rw [FaithfulAll] at h
    rw [texts, tokenRows]
    exact .cons (reads h.1) (forall₂_reads h.2)

end

/-! ## The tokens derive the expression

By induction on the form again.  A form may have a part that is no word; then it has no tokens, and
nothing is derived.
-/

open Grammar (Expression Arguments Listing)

/-- If one piece of a list has no tokens, the list has none. -/
theorem foldl_separated_none (os : List (Option (List Token))) :
    os.foldl separated none = none := by
  induction os with
  | nil => rfl
  | cons o os ih => exact ih

/-- Expressions one by one, as far as they have tokens. -/
def Derived (o : Option (List Token)) (n : Node Unit) : Prop := ∀ ts, o = some ts → Expression ts n

/-- Tokens with commas between them list the expressions, if each piece derives its own. -/
theorem listing_joined {ts us : List Token} {ns ms : List (Node Unit)}
    {os : List (Option (List Token))} (hts : Listing ts ns) (hos : List.Forall₂ Derived os ms)
    (h : os.foldl separated (some ts) = some us) : Listing us (ns ++ ms) := by
  induction hos generalizing ts ns with
  | nil =>
    cases h
    rwa [List.append_nil]
  | @cons o m os ms ho _ ih =>
    rw [List.foldl_cons] at h
    cases o with
    | none =>
      rw [separated, Option.bind_some, Option.map_none, foldl_separated_none] at h
      cases h
    | some vs =>
      have := ih (.more hts (ho vs rfl)) h
      rwa [List.append_assoc] at this

/-- So do the arguments of a reference, of which there may be none. -/
theorem arguments_joined {us : List Token} {ms : List (Node Unit)} {os : List (Option (List Token))}
    (hos : List.Forall₂ Derived os ms) (h : joined os = some us) : Arguments us ms := by
  cases hos with
  | nil =>
    cases h
    exact .none
  | @cons o m os ms ho hos =>
    rw [joined] at h
    cases o with
    | none =>
      rw [foldl_separated_none] at h
      cases h
    | some ts => exact .listing (listing_joined (.one (ho ts rfl)) hos h)

mutual

/-- **Deriving**: the tokens of a form derive its expression. -/
theorem expression [PatternLanguage] : ∀ {f : Form}, f.Faithful → Derived f.tokens? f.tree
  | word _ token, h => by
    rw [Faithful] at h
    obtain ⟨v, hv⟩ := h.2
    rintro ts ⟨⟩
    rw [tree, hv]
    exact .primary (.leaf (Token.leaf?_eq_some_iff.1 hv))
  | illegible _, _ => by
    rintro ts ⟨⟩
  | applied name arguments, h => by
    rw [Faithful] at h
    intro ts hts
    rw [tokens?, bracketed, Option.bind_some, Option.map_eq_some_iff] at hts
    obtain ⟨us, hus, rfl⟩ := hts
    rw [tree]
    exact .access (.primary (.leaf (.reference name))) (arguments_joined (forall₂_derived h.2) hus)

/-- The tokens of faithful forms derive their expressions, one by one. -/
theorem forall₂_derived [PatternLanguage] : ∀ {fs : List Form}, FaithfulAll fs →
    List.Forall₂ Derived (tokenRows fs) (trees fs)
  | [], _ => .nil
  | f :: fs, h => by
    rw [FaithfulAll] at h
    rw [tokenRows, trees]
    exact .cons (expression h.1) (forall₂_derived h.2)

end

/-! ## The brackets

A third induction on the form.  Since the tokens of a form close what they open, brackets can be
counted from outside: one more than in any of the arguments.
-/

mutual

/-- How many brackets a form opens inside each other. -/
def brackets : Form → Nat
  | word _ _ => 0
  | illegible _ => 0
  | applied _ arguments => bracketsAll arguments + 1

/-- The most that one of some forms opens. -/
def bracketsAll : List Form → Nat
  | [] => 0
  | f :: fs => max f.brackets (bracketsAll fs)

end

/-- The most that one of some forms opens is the greatest of what they open. -/
theorem bracketsAll_eq (fs : List Form) : bracketsAll fs = (fs.map brackets).foldr max 0 := by
  induction fs with
  | nil => rfl
  | cons f fs ih => simp [bracketsAll, ih]

open Grammar (openAfter mostOpen openAfter_append mostOpen_append)

/-- The tokens, as far as there are any, close what they open and open `d` brackets inside each
    other. -/
def Opens (o : Option (List Token)) (d : Nat) : Prop :=
  ∀ ts, o = some ts → (∀ k, openAfter k ts = k) ∧ ∀ k, mostOpen k ts = k + d

/-- A pair of brackets opens one more than what stands in between. -/
theorem opens_bracketed {o p : Option (List Token)} {d e : Nat} (ho : Opens o d) (hp : Opens p e) :
    Opens (bracketed o p) (max d (e + 1)) := by
  intro ts h
  obtain ⟨us, rfl, h⟩ := Option.bind_eq_some_iff.1 h
  obtain ⟨vs, rfl, rfl⟩ := Option.map_eq_some_iff.1 h
  obtain ⟨hus, houter⟩ := ho us rfl
  obtain ⟨hvs, hinner⟩ := hp vs rfl
  rw [List.append_assoc]
  refine ⟨fun k => ?_, fun k => ?_⟩
  · rw [openAfter_append, hus]
    exact Grammar.openAfter_bracketed hvs k
  · -- inside the bracket one more is open, and behind it as many as before
    rw [mostOpen_append, hus, houter]
    simp only [List.cons_append, mostOpen, Token.opened, mostOpen_append, hvs, hinner]
    omega

/-- Of two pieces with a comma between them the one counts that opens more. -/
theorem opens_separated {o p : Option (List Token)} {d e : Nat} (ho : Opens o d) (hp : Opens p e) :
    Opens (separated o p) (max d e) := by
  intro ts h
  obtain ⟨us, rfl, h⟩ := Option.bind_eq_some_iff.1 h
  obtain ⟨vs, rfl, rfl⟩ := Option.map_eq_some_iff.1 h
  obtain ⟨hus, hfirst⟩ := ho us rfl
  obtain ⟨hvs, hsecond⟩ := hp vs rfl
  have hcomma (k : Nat) : openAfter k (.comma :: vs) = k := hvs k
  refine ⟨fun k => ?_, fun k => ?_⟩
  · rw [openAfter_append, hus, hcomma]
  · rw [mostOpen_append, hus, hfirst]
    simp only [mostOpen, Token.opened, hsecond]
    omega

/-- Of a list the piece counts that opens the most. -/
theorem opens_joined {os : List (Option (List Token))} {ds : List Nat}
    (h : List.Forall₂ Opens os ds) : Opens (joined os) (ds.foldr max 0) := by
  cases h with
  | nil =>
    rintro ts ⟨⟩
    exact ⟨fun _ => rfl, fun _ => rfl⟩
  | @cons o d os ds ho hos =>
    rw [joined]
    -- on the induction the list before the next comma grows
    induction hos generalizing o d with
    | nil => simpa using ho
    | @cons p e os ds hp _ ih =>
      have := ih (opens_separated ho hp)
      simpa [Nat.max_assoc] using this

mutual

/-- **Opening**: the tokens of a form open as many brackets inside each other as the form does. -/
theorem opens_tokens? [PatternLanguage] : ∀ {f : Form}, f.Faithful → Opens f.tokens? f.brackets
  | word _ token, h => by
    rw [Faithful] at h
    obtain ⟨v, hv⟩ := h.2
    rintro ts ⟨⟩
    have hopened := Grammar.opened_of_means (Token.leaf?_eq_some_iff.1 hv)
    exact ⟨hopened, fun k => by simp [mostOpen, hopened, brackets]⟩
  -- what cannot be read has no tokens to count brackets in
  | illegible _, _ => by
    rintro ts ⟨⟩
  | applied name arguments, h => by
    rw [Faithful] at h
    have hname : Opens (some [.reference name]) 0 := by
      rintro ts ⟨⟩
      exact ⟨fun _ => rfl, fun k => Nat.max_self k⟩
    rw [tokens?, brackets]
    rw [bracketsAll_eq]
    have := opens_bracketed hname (opens_joined (forall₂_opens h.2))
    rwa [Nat.zero_max] at this

/-- The tokens of faithful forms open as many brackets as the forms do, one by one. -/
theorem forall₂_opens [PatternLanguage] : ∀ {fs : List Form}, FaithfulAll fs →
    List.Forall₂ Opens (tokenRows fs) (fs.map brackets)
  | [], _ => .nil
  | f :: fs, h => by
    rw [FaithfulAll] at h
    rw [tokenRows, List.map_cons]
    exact .cons (opens_tokens? h.1) (forall₂_opens h.2)

end

end Form

end TypeExpr
