import TypeExpr.Proofs.Depth
import TypeExpr.Proofs.Made
import TypeExpr.Proofs.Positions
import TypeExpr.Proofs.Refusals
import TypeExpr.Regex.Check

/-!
# What is blamed

A failure that is about a name says what is wrong with it, and has the span of the node that is
wrong.  What it says is true of that node (`exists_blamed_of_parse`): an unknown type is one of the
two names that have no type behind them, an unparameterised type is applied and takes no arguments,
and a wrong number of parameters is the number of arguments that stand in the brackets.

The name in the failure is written with capitals.  In lower case it is the name in the tree
(`TypeName.lower_title`), since the names in a tree that was read are words of ASCII letters
(`Node.isPlain_of_way`).

That a number of parameters is wrong is more than that it was refused: no access of the name, with
any arguments and anywhere in a tree, is blamed for its number of arguments if it has as many as the
failure asks for (`denote_located_ne_of_admits`).  Positions make this a statement about the node;
its note could be that of another one.
-/

namespace TypeExpr

open Rules
open Text (lower)

variable {α : Type}

/-! ## The name in the failure

A failure shows the title of a name.  Since names in a tree are in lower case, the name can be found
again (`TypeName.lower_title`).
-/

/-- A leaf that fails is a reference without a type behind it, or none at all. -/
theorem Leaf.exists_of_denote_eq_error {l : Leaf} {note : α} {fault : Fault α}
    (h : l.denote note = .error fault)
    (hcause : ∀ detail, fault.cause ≠ .invalidSpecification detail) :
    ∃ name, l = .reference name ∧ name ∈ unknownNames ∧ fault = ⟨.unknownType, note⟩ := by
  -- Of the leaves only `true`, `false` and `undef` denote nothing besides names, and they are
  -- refused without a name being said.
  cases l with
  | reference name =>
    have hbare := bare_eq_error_of_denote h
    cases hk : TypeName.ofLower name with
    | ruby =>
      rw [hk] at hbare
      cases hbare
      exact ⟨name, rfl, TypeName.mem_unknownNames_iff.2 (Or.inl hk), rfl⟩
    | type =>
      rw [hk] at hbare
      cases hbare
      exact ⟨name, rfl, TypeName.mem_unknownNames_iff.2 (Or.inr hk), rfl⟩
    | _ => rw [hk] at hbare; cases hbare
  | boolean => cases h; exact absurd rfl (hcause none)
  | undefined => cases h; exact absurd rfl (hcause none)
  | _ => cases h

namespace Node

/-- A reference in a tree that was read has a plain word for its name. -/
theorem isPlain_of_way [PatternLanguage] {text : String} {root m : Node Span}
    {steps : List (Step Span)}
    {name : String} (h : ofText text = .ok (some root)) (hway : Way root steps m)
    (hname : m.reference? = some name) :
    WordKind.lowerReference.isPlain name.toList = true := by
  obtain ⟨ls, hls, hderives, -⟩ := derives_of_ofText h
  obtain ⟨part, hinfix, hm⟩ := hderives.exists_infix_of_way hway
  obtain ⟨span, rfl⟩ := reference?_eq_some_iff.1 hname
  cases hm with
  | @leaf t _ _ ht =>
    have hmem := hinfix.subset (List.mem_singleton.2 rfl)
    have hlexical := Cursor.lexical_of_lexemes hls _ hmem
    cases ht
    rw [String.toList_ofList]
    exact Text.isPlain_lower hlexical.isWord_reference

/-! ## The node that raises a fault about a name

Such a fault comes from a reference that has no type, or from one that refuses the number of its
arguments.
-/

/-- A fault about a name is that of a reference without a type behind it, or of a reference that
    refuses so many arguments. -/
theorem Raises.cases_of_name {n : Node α} {depth : Nat} {fault : Fault α} (h : n.Raises depth fault)
    (hcause : ∀ detail, fault.cause ≠ .invalidSpecification detail) :
    (∃ name b, n = .leaf (.reference name) b ∧ name ∈ unknownNames ∧ fault.cause = .unknownType) ∨
      ∃ name arguments a b, n = .access (.leaf (.reference name) b) arguments a ∧
        Refused name arguments.length fault.cause := by
  cases h with
  | @leaf l note _ h =>
    obtain ⟨name, rfl, hname, rfl⟩ := Leaf.exists_of_denote_eq_error h hcause
    exact Or.inl ⟨name, note, rfl, hname, rfl⟩
  -- neither a list in brackets nor a target nor the limit is refused for a name
  | array => exact absurd rfl (hcause none)
  | target => exact absurd rfl (hcause none)
  | tooDeep => exact absurd rfl (hcause none)
  | @applied target arguments note name values _ hname hdepth hvalues happly =>
    obtain ⟨b, rfl⟩ := reference?_eq_some_iff.1 hname
    have hlen := (denoteAll_eq_ok_iff_forall₂.1 hvalues).length_eq
    have hrefused := TypeName.refused_of_apply_eq_error happly hcause
    rw [← hlen] at hrefused
    exact Or.inr ⟨name, arguments, note, b, rfl, hrefused⟩

/-- An access is not blamed for the number of its arguments if the arity of its name allows it. -/
theorem denote_located_ne_of_admits {name : String} {arguments : List (Node α)} {a b : α}
    (h : (arityOf name).admits arguments.length = true) (depth : Nat) (typeName : String)
    (required : Arity) (given : Nat) :
    (access (leaf (.reference name) b) arguments a).located.denote depth ≠
      .error ⟨.invalidParameterCount typeName required given, []⟩ := by
  intro hden
  have hraises := raises_of_denote_located hden (by rintro detail ⟨⟩)
  rw [located, label, label] at hraises
  rcases hraises.cases_of_name (by rintro detail ⟨⟩) with ⟨_, _, -, -, ⟨⟩⟩ | ⟨_, _, _, _, heq, href⟩
  cases heq
  rw [length_labelAll] at href
  obtain ⟨-, rfl, -, hadmits⟩ := href.of_count
  rw [h] at hadmits
  cases hadmits

end Node

/-! ## What a failure says

Each cause says something of the node that is blamed; that it is true is what is left to show for
the two cases above.
-/

open Node (Way)

/-- What a cause says is true of a node.  Of a number of parameters it says that no access of the
    name is blamed for it if it has as many arguments as required. -/
def Failure.Cause.HoldsOf (m : Node α) : Failure.Cause → Prop
  | .invalidSpecification _ => True
  | .unknownType => ∃ name ∈ unknownNames,
      (∃ b, m = .leaf (.reference name) b) ∨
        ∃ arguments a b, m = .access (.leaf (.reference name) b) arguments a
  | .unparameterizedType => ∃ name arguments a b,
      m = .access (.leaf (.reference name) b) arguments a ∧
        (name ∈ plainNames ∨ name = "pattern" ∧ arguments.length = 1)
  | .invalidParameterCount typeName required given => ∃ name arguments a b,
      m = .access (.leaf (.reference name) b) arguments a ∧ arguments.length = given ∧
        required.admits given = false ∧ String.ofList (lower typeName.toList) = name ∧
        ∀ (others : List (Node α)) (a' b' : α) (depth : Nat) (typeName' : String)
          (required' : Arity) (given' : Nat), required.admits others.length = true →
          (Node.access (.leaf (.reference name) b') others a').located.denote depth ≠
            .error ⟨.invalidParameterCount typeName' required' given', []⟩

/-- What a fault about a name says is true of the node that raises it. -/
theorem Node.Raises.holdsOf {m : Node α} {depth : Nat} {fault : Fault α}
    (h : m.Raises depth fault)
    (hcause : ∀ detail, fault.cause ≠ .invalidSpecification detail)
    (hword : ∀ name arguments a b, m = .access (.leaf (.reference name) b) arguments a →
      WordKind.lowerReference.isPlain name.toList = true) : fault.cause.HoldsOf m := by
  rcases h.cases_of_name hcause with
    ⟨name, b, rfl, hname, hunknown⟩ | ⟨name, arguments, a, b, rfl, hrefused⟩
  · rw [hunknown]
    exact ⟨name, hname, Or.inl ⟨b, rfl⟩⟩
  · -- The fault is one that the rules give for the name and the number of its arguments.
    have hplain := hword name arguments a b rfl
    generalize fault.cause = cause at hrefused hcause ⊢
    cases cause with
    | invalidSpecification detail => exact absurd rfl (hcause detail)
    | unknownType => exact ⟨name, hrefused.of_unknown, Or.inr ⟨arguments, a, b, rfl⟩⟩
    | unparameterizedType => exact ⟨name, arguments, a, b, rfl, hrefused.of_unparameterized⟩
    | invalidParameterCount typeName required given =>
      obtain ⟨rfl, rfl, rfl, hadmits⟩ := hrefused.of_count
      refine ⟨name, arguments, a, b, rfl, rfl, hadmits, TypeName.lower_title hplain, ?_⟩
      intro others a' b' depth typeName' required' given' hothers
      exact Node.denote_located_ne_of_admits hothers depth typeName' required' given'

/-- **Blame**: if an expression is read and then fails, the failure has the span of a node of which
    it is true what the failure says. -/
theorem exists_blamed_of_parse [PatternLanguage] (text : String) (f : Failure)
    (h : parse text = .error f) (htype : ¬DenotesNoType text) :
    ∃ root steps m, Node.ofText text = .ok (some root) ∧ Way root steps m ∧ f.span = m.note ∧
      f.cause.HoldsOf m := by
  rcases parse_eq_error_cases h with ⟨hno, -⟩ | ⟨root, fault, hroot, hfault, rfl⟩
  · exact absurd hno htype
  -- a cause that is about no name says nothing of the node, so any node with the span will do
  by_cases hcause : ∃ detail, fault.cause = .invalidSpecification detail
  · obtain ⟨detail, hcause⟩ := hcause
    obtain ⟨steps, m, hway, hnote⟩ := Node.exists_way_of_denote hfault
    have hholds : fault.cause.HoldsOf m := by
      rw [hcause]
      trivial
    exact ⟨root, steps, m, hroot, hway, hnote, hholds⟩
  · have hname := not_exists.1 hcause
    obtain ⟨steps, m, depth, hway, hraises, hnote, -⟩ :=
      Node.exists_raises_way_of_denote hfault hname
    refine ⟨root, steps, m, hroot, hway, hnote, hraises.holdsOf hname ?_⟩
    rintro name arguments a b rfl
    exact Node.isPlain_of_way hroot (hway.trans (.down (.target ..) (.here _))) rfl

open scoped Program in
/-- Two arguments are counted; the comma behind the second one is not. -/
theorem exists_blamed_of_parse_trailing : ∃ f : Failure,
    parse "Hash[A::B[1,2,]]" = .error f ∧ ¬DenotesNoType "Hash[A::B[1,2,]]" ∧
    f.span = ⟨5, 15⟩ ∧ ∃ root steps m, Node.ofText "Hash[A::B[1,2,]]" = .ok (some root) ∧
      Way root steps m ∧ f.span = m.note ∧ ∃ name arguments a b,
        m = .access (.leaf (.reference name) b) arguments a ∧ arguments.length = 2 ∧
          String.ofList (lower "A::B".toList) = name := by
  have htokens : tokenize "Hash[A::B[1,2,]]" = .ok [⟨.reference "Hash", ⟨0, 4⟩⟩,
      ⟨.openBracket, ⟨4, 5⟩⟩, ⟨.reference "A::B", ⟨5, 9⟩⟩, ⟨.openBracket, ⟨9, 10⟩⟩,
      ⟨.integer 1, ⟨10, 11⟩⟩, ⟨.comma, ⟨11, 12⟩⟩, ⟨.integer 2, ⟨12, 13⟩⟩, ⟨.comma, ⟨13, 14⟩⟩,
      ⟨.closeBracket, ⟨14, 15⟩⟩, ⟨.closeBracket, ⟨15, 16⟩⟩] := by
    decide +kernel
  have h : parse "Hash[A::B[1,2,]]" =
      .error ⟨.invalidParameterCount "A::B" (.exactly 1) 2, "A::B[1,2,]", ⟨5, 15⟩⟩ := by
    rw [parse, Node.ofText, htokens]
    rfl
  have htype : ¬DenotesNoType "Hash[A::B[1,2,]]" := by
    intro hno
    obtain ⟨detail, hwhole⟩ := hno.exists_parse_eq
    cases h.symm.trans hwhole
  obtain ⟨root, steps, m, hroot, hway, hspan, name, arguments, a, b, hm, hlen, -, hname, -⟩ :=
    exists_blamed_of_parse _ _ h htype
  exact ⟨_, h, htype, rfl, root, steps, m, hroot, hway, hspan, name, arguments, a, b, hm, hlen,
    hname⟩

end TypeExpr
