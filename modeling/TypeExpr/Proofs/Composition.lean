import Mathlib.Data.List.MinMax
import Mathlib.Order.Nat
import TypeExpr.Proofs.Faults
import TypeExpr.Proofs.Lines
import TypeExpr.Proofs.Rereading
import TypeExpr.Proofs.RoundTrip
import TypeExpr.Regex.Check

/-!
# Texts put together

A text that denotes a type can be put into the brackets of another one.  Behind a line feed nothing
of it is left open: a comment at its end is over, and its last word is delimited.  So `a` and a line
feed are read, in front of anything, as the tokens of `a` (`reads_line`).  Listed with commas
in the brackets of a name they derive the access of that name with the expressions of the texts as
arguments, one bracket deeper, and it comes to what the name makes of their types
(`parse_listed`).

A name does not make a type of any arguments. `Array` and `Hash` refuse `Undef`, and what comes of
that is part of the statement; `Variant` takes all types, of which there have to be two at least
(`parse_composed`).

The condition is the same for each text: it opens 255 brackets inside each other at most, which
leaves one bracket for the name.  It is a condition on the text and not on its type, since two texts
of one type may differ in their brackets: `Array` stands without one, and `Array[Data]` has one.

The proof goes through the grammar and not through the reader.  The tokens of the whole are known
from those of the texts, a derivation of the whole is put together from theirs, and a derivation
within the limit is what reading finds.
-/

namespace TypeExpr

open Text (byteLength isBlank splitTrivia)
open DataType Grammar Rules

/-! ## A line -/

/-- A line is read as its tokens, whatever stands on the next one. -/
theorem reads_line [PatternLanguage] {text : String} {ts : List Token}
    (h : Cursor.tokens? ⟨0, text.toList⟩ = some ts) :
    Reads (text.toList ++ ['\n']) (some ts) := by
  obtain ⟨ls, hls, rfl⟩ := tokens?_eq_some_iff.1 h
  intro offset more _
  -- in another place the same tokens are read
  have hplace : Cursor.lexemes ⟨offset, text.toList⟩ = .ok (ls.map (Lexeme.shift offset)) := by
    rw [Cursor.lexemes_toList, hls, shiftResult]
  have hline := Cursor.lexemes_line hplace more
  have htext : text.toList ++ ['\n'] ++ more = text.toList ++ '\n' :: more := by simp
  have hlength : offset + byteLength (text.toList ++ ['\n']) =
      offset + byteLength text.toList + 1 := by
    simp [utf8Size_lineFeed, Nat.add_assoc]
  rw [htext, hlength, Cursor.tokens?, Cursor.tokens?, hline]
  cases Cursor.lexemes ⟨offset + byteLength text.toList + 1, more⟩ <;>
    simp [Except.map, Except.toOption, Lexeme.shift]

/-! ## A list of lines -/

/-- A name with lines in its brackets, and commas at the beginning of each but the first. -/
def listed (name : String) (texts : List String) : String :=
  name ++ "[" ++ "\n,".intercalate texts ++ "\n]"

/-- The characters of listed texts: each ends with a line feed, and each but the first begins with a
    comma. -/
theorem toList_lines (text : String) (texts : List String) :
    ("\n,".intercalate (text :: texts)).toList ++ ['\n'] = text.toList ++ ['\n'] ++
      (texts.map fun u => u.toList ++ ['\n']).flatMap (',' :: ·) := by
  have hseparator : "\n,".toList = ['\n', ','] := rfl
  rw [toList_intercalate_cons, hseparator]
  -- a line feed moves from the front of each line to the end of the one before
  generalize text.toList = cs
  induction texts generalizing cs with
  | nil => simp
  | cons u us ih =>
    have := ih (cs ++ '\n' :: ',' :: u.toList)
    simpa using this

/-- A name with lines in its brackets is read as the tokens of the name, and in brackets those of
    the texts with commas between them. -/
theorem reads_listed [PatternLanguage] {name : String} {o : Option (List Token)}
    (hname : Reads name.toList o)
    {text : String} {texts : List String} {ts : List Token} {rows : List (List Token)}
    (h : List.Forall₂ (fun a ts => Cursor.tokens? ⟨0, a.toList⟩ = some ts) (text :: texts)
      (ts :: rows)) :
    Reads (listed name (text :: texts)).toList (bracketed o (joined ((ts :: rows).map some))) := by
  have htext : (listed name (text :: texts)).toList =
      name.toList ++ '[' :: (("\n,".intercalate (text :: texts)).toList ++ ['\n']) ++ [']'] := by
    simp [listed]
  obtain ⟨hfirst, hrest⟩ := List.forall₂_cons.1 h
  have hlines : List.Forall₂ Reads (texts.map fun u => u.toList ++ ['\n']) (rows.map some) :=
    List.forall₂_map_left_iff.2 (List.forall₂_map_right_iff.2 (hrest.imp fun _ _ => reads_line))
  rw [htext, toList_lines]
  exact hname.bracketed ((reads_line hfirst).separatedAll hlines)

/-! ## The brackets of an expression

The tokens of an expression open brackets and close all of them again.  So in another expression
they open one more than the bracket they stand in, whatever stands beside them.
-/

namespace Grammar

open Form (Opens opens_bracketed opens_separated)

/-- An expression opens the same number of brackets inside each other wherever it stands. -/
theorem Expression.exists_opens {ts : List Token} {n : Node Unit} (h : Expression ts n) :
    ∃ d, Opens (some ts) d := by
  have hnone : Opens (some []) 0 := by
    rintro us ⟨⟩
    exact ⟨fun _ => rfl, fun _ => rfl⟩
  -- By induction on the derivation: what stands in brackets opens one bracket more, and of things
  -- side by side the deepest counts.
  refine Expression.induct (P := fun ts _ => ∃ d, Opens (some ts) d)
    (Q := fun ts _ => ∃ d, Opens (some ts) d) (R := fun ts _ => ∃ d, Opens (some ts) d)
    ?_ ?_ ?_ ⟨0, hnone⟩ id ?_ id ?_ h
  · intro t v ht
    have hopened := opened_of_means ht
    refine ⟨0, ?_⟩
    rintro us ⟨⟩
    exact ⟨hopened, fun k => by simp [mostOpen, hopened]⟩
  · rintro us ns ⟨d, hus⟩
    exact ⟨_, opens_bracketed hnone hus⟩
  · rintro ts us n ns ⟨d, hts⟩ ⟨e, hus⟩
    exact ⟨_, opens_bracketed hts hus⟩
  · rintro ts ns ⟨d, hts⟩
    exact ⟨_, opens_separated hts hnone⟩
  · rintro ts us ns n ⟨d, hts⟩ ⟨e, hus⟩
    exact ⟨_, opens_separated hts hus⟩

/-- How many brackets an expression opens inside each other can be read off its tokens. -/
theorem Expression.opens {ts : List Token} {n : Node Unit} (h : Expression ts n) :
    Opens (some ts) (bracketDepth ts) := by
  obtain ⟨d, hd⟩ := h.exists_opens
  have hdepth : bracketDepth ts = 0 + d := (hd ts rfl).2 0
  rwa [hdepth, Nat.zero_add]

end Grammar

/-! ## What is listed

Each text has tokens and an expression.  Put together with brackets and commas, they are the tokens
and the expression of the list; and since the meaning of an expression has nothing to do with where
it stands, the arguments denote the types of the texts.
-/

/-- The text denotes the type and opens fewer brackets than may be open. -/
def Fitting [PatternLanguage] (text : String) (t : DataType) : Prop :=
  parse text = .ok t ∧ OpensAtMost 255 text

/-- The tokens and expressions of texts. -/
theorem exists_rows [PatternLanguage] {texts : List String} {types : List DataType}
    (h : List.Forall₂ Fitting texts types) : ∃ rows ns,
      List.Forall₂ (fun a ts => Cursor.tokens? ⟨0, a.toList⟩ = some ts) texts rows ∧
      List.Forall₂ Expression rows ns ∧
      (∀ ts ∈ rows, Form.Opens (some ts) (bracketDepth ts) ∧ bracketDepth ts ≤ 255) ∧
      List.Forall₂ Denotes ns (types.map .type) := by
  induction h with
  | nil => exact ⟨[], [], .nil, .nil, by simp, .nil⟩
  | @cons a t texts types ha _ ih =>
    obtain ⟨hparse, hopens⟩ := ha
    obtain ⟨ts, n, hts, hspec, hden⟩ := parse_eq_ok_iff.1 hparse
    obtain ⟨rows, ns, hrows, hns, hdepths, hdens⟩ := ih
    have hdepth := (opensAtMost_iff hts).1 hopens
    exact ⟨ts :: rows, n :: ns, .cons hts hrows, .cons hspec.1 hns,
      List.forall_mem_cons.2 ⟨⟨hspec.1.opens, hdepth⟩, hdepths⟩, .cons hden hdens⟩

section Listed

variable {f : Former} {text : String} {texts : List String} {types : List DataType}

theorem ofLower_word (f : Former) : TypeName.ofLower (TypeName.former f).word = .former f := by
  cases f <;> rfl

/-- Behind a name each text has its brackets inside those of the name. -/
theorem bracketDepth_listed (name : String) {rows : List (List Token)} {us : List Token}
    (hus : joined (rows.map some) = some us)
    (h : ∀ ts ∈ rows, Form.Opens (some ts) (bracketDepth ts) ∧ bracketDepth ts ≤ 255) :
    bracketDepth (.reference name :: .openBracket :: us ++ [.closeBracket]) ≤ maxDepth := by
  have hname : Form.Opens (some [.reference name]) 0 := by
    rintro vs ⟨⟩
    exact ⟨fun _ => rfl, fun k => Nat.max_self k⟩
  have hrows : List.Forall₂ Form.Opens (rows.map some) (rows.map bracketDepth) := by
    refine List.forall₂_map_left_iff.2 (List.forall₂_map_right_iff.2 (List.forall₂_same.2 ?_))
    exact fun ts hts => (h ts hts).1
  -- one bracket more than the deepest of the texts
  have hall := Form.opens_bracketed hname (Form.opens_joined hrows)
  rw [hus] at hall
  have hdepth : bracketDepth (.reference name :: .openBracket :: us ++ [.closeBracket]) =
      0 + max 0 ((rows.map bracketDepth).foldr max 0 + 1) := (hall _ rfl).2 0
  have hinner : (rows.map bracketDepth).foldr max 0 ≤ 255 :=
    List.max_le_of_forall_le _ _ (List.forall_mem_map.2 fun ts hts => (h ts hts).2)
  show _ ≤ 256
  omega

/-- Texts that are listed behind a name are read as the arguments of an access. -/
theorem exists_root_of_listed [PatternLanguage] (h : List.Forall₂ Fitting (text :: texts) types) :
    ∃ root ns, Node.ofText (listed f.title (text :: texts)) = .ok (some root) ∧
      root.shape = .access (.leaf (.reference (TypeName.former f).word) ()) ns () ∧
      List.Forall₂ Denotes ns (types.map .type) := by
  obtain ⟨rows, ns, hrows, hexpr, hdepths, hden⟩ := exists_rows h
  cases rows with
  | nil => cases hrows
  | cons ts rows =>
    -- The tokens are those of the texts, in brackets and with commas between them, and so is the
    -- derivation.  No text opens more than 255 brackets, which leaves room for the one around them.
    have hread := (reads_listed (reads_reference f.isPlain_title) hrows).tokens?_eq 0
    obtain ⟨us, hus⟩ : ∃ us, joined ((ts :: rows).map some) = some us :=
      Option.isSome_iff_exists.1 (Form.isSome_foldl_separated rfl (by simp))
    have hderived : List.Forall₂ Form.Derived ((ts :: rows).map some) ns := by
      refine List.forall₂_map_left_iff.2 (hexpr.imp fun _ _ hn => ?_)
      rintro _ ⟨⟩
      exact hn
    rw [hus] at hread
    have hdepth := bracketDepth_listed f.title hus hdepths
    have hexpr' : Expression ([.reference f.title] ++ .openBracket :: us ++ [.closeBracket])
        (.access (.leaf (referenceLeaf f.title) ()) ns ()) :=
      .access (.primary (.leaf (.reference f.title))) (Form.arguments_joined hderived hus)
    rw [referenceLeaf_former] at hexpr'
    obtain ⟨root, hroot, hshape⟩ := Node.exists_ofText_iff.2 ⟨_, hread, hexpr', hdepth⟩
    exact ⟨root, ns, hroot, hshape, hden⟩

/-- Outside of all brackets an access comes to what its name makes of its arguments. -/
theorem denote_access_former (f : Former) {arguments : List (Node Span)}
    {args : List (Argument Span)} (hargs : Node.denoteAll 1 arguments = .ok args) (a b : Span) :
    (Node.access (.leaf (.reference (TypeName.former f).word) b) arguments a).denote 0 =
      (TypeName.apply a (.former f) args).map .type := by
  have hroom : ¬maxDepth ≤ 0 := by decide
  simp only [Node.denote, Node.reference?, if_neg hroom, hargs, ofLower_word]
  cases happly : TypeName.apply a (.former f) args <;>
    simp [bind, Except.bind, happly, Except.map, pure, Except.pure]

/-- **Composition**: texts that are listed behind a name come to what the name makes of their
    types. -/
theorem parse_listed [PatternLanguage] (h : List.Forall₂ Fitting (text :: texts) types) :
    ∃ note args, args.map (·.value) = types.map .type ∧
      parse (listed f.title (text :: texts)) =
        (TypeName.apply note (.former f) args).mapError fun fault =>
          .ofSpan (listed f.title (text :: texts)) fault.cause fault.note := by
  obtain ⟨root, ns, hroot, hshape, hden⟩ := exists_root_of_listed (f := f) h
  have hlimit := Node.withinLimit_of_ofText hroot
  -- Only an access has the shape that is known of the root.
  cases root with
  | leaf v a => cases hshape
  | array items a => cases hshape
  | access target arguments a =>
    rw [Node.shape, Node.access.injEq] at hshape
    obtain ⟨htarget, rfl, -⟩ := hshape
    cases target with
    | array items b => cases htarget
    | access target us b => cases htarget
    | leaf v b =>
      cases htarget
      obtain ⟨args, hargs, hvalues⟩ := (Node.denoteAll_eq_ok_iff arguments 1 _).2
        ⟨(Node.withinLimit_access_iff.1 hlimit).2, (Node.forall₂_denotes_shapes arguments _).1 hden⟩
      refine ⟨a, args, hvalues, ?_⟩
      rw [parse_of_ofText hroot, Node.interpret, denote_access_former f hargs]
      cases TypeName.apply a (.former f) args <;> rfl

/-- If the name makes a type of the types, that type is what the text comes to. -/
theorem parse_listed_of_applied [PatternLanguage] {t : DataType}
    (h : List.Forall₂ Fitting (text :: texts) types)
    (happlied : Applied (TypeName.former f).word (types.map .type) t) :
    parse (listed f.title (text :: texts)) = .ok t := by
  obtain ⟨note, args, hvalues, hparse⟩ := parse_listed (f := f) h
  rw [← hvalues] at happlied
  have happly : TypeName.apply note (.ofLower (TypeName.former f).word) args = .ok t :=
    TypeName.apply_of_applied happlied
  rw [ofLower_word] at happly
  rw [hparse, happly]
  rfl

/-- If the name takes as many arguments, and makes nothing of these types, one of them is blamed. -/
theorem parse_listed_of_not_applied [PatternLanguage]
    (h : List.Forall₂ Fitting (text :: texts) types)
    (hcount : (TypeName.former f).refusal? types.length = none)
    (hnot : ∀ t, ¬Applied (TypeName.former f).word (types.map .type) t) :
    ∃ e, parse (listed f.title (text :: texts)) = .error e ∧
      e.cause = .invalidSpecification none := by
  obtain ⟨note, args, hvalues, hparse⟩ := parse_listed (f := f) h
  have hlength : args.length = types.length := by
    simpa using congrArg List.length hvalues
  -- a type would be one by the rules, and the number of arguments is not what is wrong
  cases happly : TypeName.apply note (.former f) args with
  | ok t =>
    rw [← ofLower_word, TypeName.apply_eq_ok_iff, hvalues] at happly
    exact absurd happly (hnot t)
  | error fault =>
    rw [happly] at hparse
    refine ⟨_, hparse, ?_⟩
    rcases TypeName.exists_of_apply_eq_error happly with ⟨cause, hrefusal, -⟩ | rfl | ⟨a, -, rfl⟩
    · rw [hlength, hcount] at hrefusal
      cases hrefusal
    · rfl
    · rfl

end Listed

/-! ## Collections and variants

Three names that make a type of any types that are not `Undef`, or of any types at all.
-/

theorem listed_one (f : Former) (a : String) :
    listed f.title [a] = f.title ++ "[" ++ a ++ "\n]" := by
  simp [listed]

theorem listed_two (f : Former) (a b : String) :
    listed f.title [a, b] = f.title ++ "[" ++ a ++ "\n," ++ b ++ "\n]" := by
  simp [listed, String.append_assoc]

/-- **Composition**: texts that denote types and leave room for a bracket denote, on lines of their
    own in the brackets of `Array`, `Hash` or `Variant`, the array, hash or variant of these types.
    In an array or a hash `Undef` is blamed. -/
theorem parse_composed [PatternLanguage] :
    (∀ a s, parse a = .ok s → OpensAtMost 255 a →
      (s ≠ .plain .undef → parse ("Array[" ++ a ++ "\n]") = .ok (.array s)) ∧
      (s = .plain .undef → ∃ e, parse ("Array[" ++ a ++ "\n]") = .error e ∧
        e.cause = .invalidSpecification none)) ∧
    (∀ a b s t, parse a = .ok s → parse b = .ok t → OpensAtMost 255 a → OpensAtMost 255 b →
      (s ≠ .plain .undef ∧ t ≠ .plain .undef →
        parse ("Hash[" ++ a ++ "\n," ++ b ++ "\n]") = .ok (.hash s t)) ∧
      (¬(s ≠ .plain .undef ∧ t ≠ .plain .undef) →
        ∃ e, parse ("Hash[" ++ a ++ "\n," ++ b ++ "\n]") = .error e ∧
          e.cause = .invalidSpecification none)) ∧
    (∀ texts types, 2 ≤ texts.length →
      List.Forall₂ (fun a t => parse a = .ok t ∧ OpensAtMost 255 a) texts types →
      parse ("Variant[" ++ "\n,".intercalate texts ++ "\n]") = .ok (.variant types)) := by
  -- Each form is a text listed behind a name, and what the name makes of the types is known from
  -- the rules.
  refine ⟨?_, ?_, ?_⟩
  · intro a s hs hopens
    have hfitting : List.Forall₂ Fitting [a] [s] := .cons ⟨hs, hopens⟩ .nil
    have hname : "Array[" = Former.array.title ++ "[" := by decide
    rw [hname, ← listed_one]
    refine ⟨?_, ?_⟩
    · intro hne
      exact parse_listed_of_applied hfitting (.array hne)
    · intro hundef
      refine parse_listed_of_not_applied hfitting rfl fun t happlied => ?_
      obtain ⟨e, hvalue, hne, -⟩ := applied_array_iff.1 happlied
      cases hvalue
      exact hne hundef
  · intro a b s t hs ht hopens hopens'
    have hfitting : List.Forall₂ Fitting [a, b] [s, t] :=
      .cons ⟨hs, hopens⟩ (.cons ⟨ht, hopens'⟩ .nil)
    have hname : "Hash[" = Former.hash.title ++ "[" := by decide
    rw [hname, ← listed_two]
    refine ⟨?_, ?_⟩
    · rintro ⟨hkey, hvalue⟩
      exact parse_listed_of_applied hfitting (.hash hkey hvalue)
    · intro hundef
      refine parse_listed_of_not_applied hfitting rfl fun u happlied => ?_
      obtain ⟨k, v, hk, hv, hkey, hvalue, -⟩ := applied_hash_iff.1 happlied
      cases hk
      cases hv
      exact hundef ⟨hkey, hvalue⟩
  · intro texts types hlength h
    have hlength' : 2 ≤ types.length := h.length_eq ▸ hlength
    have hname : "Variant[" = Former.variant.title ++ "[" := by decide
    rw [hname]
    cases texts with
    | nil => cases hlength
    | cons a texts => exact parse_listed_of_applied h (.variant hlength')

/-- A text whose only token is a reference denotes what the reference does. -/
theorem parse_of_reference [PatternLanguage] {text lowered : String} {t : DataType} (name : String)
    (h : Cursor.tokens? ⟨0, text.toList⟩ = some [.reference name])
    (hlowered : String.ofList (Text.lower (dropRoot name.toList)) = lowered)
    (hbare : Bare lowered t) : parse text = .ok t ∧ OpensAtMost 255 text := by
  subst hlowered
  have hdepth : bracketDepth [.reference name] = 0 := rfl
  refine ⟨(parse_eq_ok_iff_of_means h (.reference name)).2 (.reference () hbare),
    (opensAtMost_iff h).2 ?_⟩
  rw [hdepth]
  exact Nat.zero_le _

open scoped Program in
/-- A comment at the end, a bracket in it, and the most brackets that there may be. -/
theorem parse_composed_of_lines :
    parse ("Array[" ++ nestedArrays 255 ++ "\n]") = .ok (.array (nestedArray 255)) ∧
    (∃ e, parse ("Array[" ++ "Undef" ++ "\n]") = .error e ∧
      e.cause = .invalidSpecification none) ∧
    parse ("Hash[" ++ "String # ]" ++ "\n," ++ "::DATA" ++ "\n]") =
      .ok (.hash (.plain .string) (.plain .data)) ∧
    (∃ e, parse ("Hash[" ++ "String # ]" ++ "\n," ++ "Undef" ++ "\n]") = .error e ∧
      e.cause = .invalidSpecification none) ∧
    parse ("Variant[" ++ "\n,".intercalate ["Undef", "String # ]"] ++ "\n]") =
      .ok (.variant [.plain .undef, .plain .string]) := by
  have hnested : OpensAtMost 255 (nestedArrays 255) := by
    rw [← text_nestedForm, opensAtMost_text_iff (faithful_nestedForm 255) (isSome_nestedForm 255),
      brackets_nestedForm]
  obtain ⟨hundef, hundef'⟩ : parse "Undef" = .ok (.plain .undef) ∧ OpensAtMost 255 "Undef" :=
    parse_of_reference "Undef" (by decide +kernel) (by decide) .undef
  obtain ⟨hstring, hstring'⟩ : parse "String # ]" = .ok (.plain .string) ∧
      OpensAtMost 255 "String # ]" :=
    parse_of_reference "String" (by decide +kernel) (by decide) .string
  obtain ⟨hdata, hdata'⟩ : parse "::DATA" = .ok (.plain .data) ∧ OpensAtMost 255 "::DATA" :=
    parse_of_reference "::DATA" (by decide +kernel) (by decide) .data
  obtain ⟨harray, hhash, hvariant⟩ := parse_composed
  refine ⟨?_, ?_, ?_, ?_, ?_⟩
  · exact (harray _ _ (parse_nestedArrays (by decide)) hnested).1 (nestedArray_ne_undef 255)
  · exact (harray _ _ hundef hundef').2 rfl
  · exact (hhash _ _ _ _ hstring hdata hstring' hdata').1 ⟨by simp, by simp⟩
  · exact (hhash _ _ _ _ hstring hundef hstring' hundef').2 fun h => h.2 rfl
  · exact hvariant _ _ (by decide) (.cons ⟨hundef, hundef'⟩ (.cons ⟨hstring, hstring'⟩ .nil))

end TypeExpr
