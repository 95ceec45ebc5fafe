import TypeExpr.Proofs.Refusals

/-!
# The failure that is reported

More than one thing can be wrong with a name and its arguments, and one failure is reported.  The
order is that of evaluation: an argument that denotes nothing comes before all else, and the first
of them before the others; then the number of arguments, which some names refuse whatever the
arguments are (`Rules.Refused`); and only then whether each argument is of a kind that the name can
use where it stands (`Rules.Fits`), from left to right.

This holds of every name, although each makes its type in a way of its own.  What all the ways have
in common is that they take one argument after the other (`BlamesFirst`), and that is what is shown
of each (`TypeName.blamesFirst_build`).  The statement for an access is
`Node.outcome_access_of_first`.

An argument may fail in any way of its own, and it may be any expression.  So the failure of an
argument is not described but handed on, together with its span; only failures that arise at the
access itself are said to be of this or that kind.

The limit on accesses is a hypothesis, because an access beyond it is refused before its arguments
are looked at.
-/

namespace TypeExpr

open Rules Argument

variable {α : Type}

/-! ## Arguments that fit

Which values a name can use, and that each way of making a type of arguments blames the first that
it cannot use.  The names are gone through once, in `TypeName.blamesFirst_build`.
-/

/-- `Fits name i v`: as argument number `i`, counted from zero, a name can use the value.  The
    second argument of `resource` is a title, and so is what a kind of resource is applied to. -/
def Rules.Fits : String → Nat → Value → Prop
  | "array", _, v | "hash", _, v => ∃ t, v = .type t ∧ t ≠ .plain .undef
  | "class", _, v | "enum", _, v => ∃ s, v = .string s
  | "resource", 0, v => ∃ kind, IsResourceKind v kind
  | "regexp", _, v | "pattern", _, v => ∃ p, IsPattern v p
  | "variant", _, v => ∃ t, v = .type t
  | "integer", _, v => ∃ b, IsIntegerBound v b
  | "float", _, v => ∃ b, IsFloatBound v b
  | _, _, v => ∃ title, IsTitle v title

/-- A name that is not reserved is a kind of resource, and can use exactly the titles. -/
theorem Rules.fits_other {name : String} (h : name ∉ reservedNames) (i : Nat) (v : Value) :
    Fits name i v ↔ ∃ title, IsTitle v title := by
  unfold Fits
  split <;> first | rfl | exact absurd (by decide) h

/-- A result that comes from arguments taken one after the other: a type if all of them fit, and
    else the fault of the first that does not. -/
def BlamesFirst : (Nat → Value → Prop) → List (Argument α) → Except (Fault α) DataType → Prop
  | _, [], result => ∃ t, result = .ok t
  | fits, a :: args, result =>
    (fits 0 a.value → BlamesFirst (fun i => fits (i + 1)) args result) ∧
      (¬fits 0 a.value → result = .error (.invalid a.note))

namespace BlamesFirst

variable {β : Type} {fits : Nat → Value → Prop} {a : Argument α} {args : List (Argument α)}
  {result : Except (Fault α) DataType} {read : Value → Option β}

/-- The fault is that of the first argument that does not fit: all before it were passed over. -/
theorem eq_error (h : BlamesFirst fits args result) {i : Nat} (ha : args[i]? = some a)
    (hmisfit : ¬fits i a.value)
    (hfit : ∀ j b, j < i → args[j]? = some b → fits j b.value) :
    result = .error (.invalid a.note) := by
  induction args generalizing fits i with
  | nil => cases ha
  | cons b args ih =>
    cases i with
    | zero =>
      cases ha
      exact h.2 hmisfit
    | succ i =>
      have hb := hfit 0 b (Nat.succ_pos i) rfl
      exact ih (h.1 hb) ha hmisfit fun j c hj hc => hfit (j + 1) c (Nat.succ_lt_succ hj) hc

/-- If all arguments fit, there is a type. -/
theorem exists_ok (h : BlamesFirst fits args result)
    (hfit : ∀ i b, args[i]? = some b → fits i b.value) : ∃ t, result = .ok t := by
  induction args generalizing fits with
  | nil => exact h
  | cons b args ih => exact ih (h.1 (hfit 0 b rfl)) fun i c hc => hfit (i + 1) c hc

/-- What can be read as something is what it is read from. -/
theorem exists_iff {P : Value → β → Prop} (h : ∀ {v b}, read v = some b ↔ P v b) (v : Value) :
    (∃ b, P v b) ↔ ∃ b, read v = some b :=
  exists_congr fun _ => h.symm

/-- **Step**: one argument is taken, and then the others. -/
theorem take {k : β → Except (Fault α) DataType} (hread : ∀ v, fits 0 v ↔ ∃ b, read v = some b)
    (hk : ∀ b, BlamesFirst (fun i => fits (i + 1)) args (k b)) :
    BlamesFirst fits (a :: args) (a.take read >>= k) := by
  rw [BlamesFirst, hread a.value]
  -- the argument cannot be taken, and then it is blamed at once; or it can, and the others decide
  cases hb : read a.value with
  | none =>
    have htake : a.take read = .error (.invalid a.note) := by
      rw [Argument.take, hb]
    rw [htake]
    constructor
    · rintro ⟨b, ⟨⟩⟩
    · intro _
      rfl
  | some b =>
    rw [Argument.take_eq_ok_iff.2 hb]
    exact ⟨fun _ => hk b, fun h => absurd ⟨b, rfl⟩ h⟩

/-- **Run**: all arguments are taken for something of one kind. -/
theorem mapM {k : List β → Except (Fault α) DataType}
    (hread : ∀ i v, fits i v ↔ ∃ b, read v = some b) (hk : ∀ bs, ∃ t, k bs = .ok t) :
    BlamesFirst fits args (args.mapM (·.take read) >>= k) := by
  induction args generalizing fits k with
  | nil => exact hk []
  | cons a args ih =>
    rw [List.mapM_cons]
    simp only [bind_assoc, pure_bind]
    exact take (hread 0) fun b => ih (fun i => hread (i + 1)) fun bs => hk (b :: bs)

end BlamesFirst

open BlamesFirst (exists_iff) in
/-- Whatever the name, the first argument that does not fit is blamed. -/
theorem TypeName.blamesFirst_build {note : α} {name : String} {args : List (Argument α)}
    (hn : (ofLower name).refusal? args.length = none) :
    BlamesFirst (Fits name) args (build note (ofLower name) args) := by
  -- The cases are those of the names.  In each the number of arguments is known first; then every
  -- one that is taken answers for itself, by the law of what it is taken as.
  have hword := word_ofLower name
  cases hk : ofLower name with
  | plain p => rw [hk] at hn; cases hn
  | ruby => rw [hk] at hn; cases hn
  | type => rw [hk] at hn; cases hn
  | other kind =>
    obtain ⟨rfl, hother⟩ := eq_of_ofLower_eq_other hk
    rw [hk] at hn
    obtain ⟨a, rfl⟩ := List.length_eq_one_iff.1 (refusal?_other.1 hn)
    refine .take (fun v => ?_) fun title => ⟨_, rfl⟩
    rw [fits_other hother]
    exact exists_congr fun _ => Value.title?_eq_some_iff.symm
  | former f =>
    rw [hk] at hn hword
    subst hword
    cases f with
    | array =>
      obtain ⟨a, rfl⟩ := List.length_eq_one_iff.1 ((refusal?_exactly rfl).1 hn)
      exact .take (exists_iff Value.structural?_eq_some_iff) fun t => ⟨_, rfl⟩
    | hash =>
      rcases (refusal?_between rfl).1 hn with hlen | hlen
      · obtain ⟨a, rfl⟩ := List.length_eq_one_iff.1 hlen
        exact .take (exists_iff Value.structural?_eq_some_iff) fun t => ⟨_, rfl⟩
      · obtain ⟨a, b, rfl⟩ := List.length_eq_two.1 hlen
        exact .take (exists_iff Value.structural?_eq_some_iff) fun k =>
          .take (exists_iff Value.structural?_eq_some_iff) fun t => ⟨_, rfl⟩
    | classes =>
      obtain ⟨a, rfl⟩ := List.length_eq_one_iff.1 ((refusal?_exactly rfl).1 hn)
      exact .take (exists_iff Value.string?_eq_some_iff) fun s => ⟨_, rfl⟩
    | resource =>
      rcases (refusal?_between rfl).1 hn with hlen | hlen
      · obtain ⟨a, rfl⟩ := List.length_eq_one_iff.1 hlen
        exact .take (exists_iff Value.resourceKind?_eq_some_iff) fun k => ⟨_, rfl⟩
      · obtain ⟨a, b, rfl⟩ := List.length_eq_two.1 hlen
        exact .take (exists_iff Value.resourceKind?_eq_some_iff) fun k =>
          .take (exists_iff Value.title?_eq_some_iff) fun s => ⟨_, rfl⟩
    | regexp =>
      obtain ⟨a, rfl⟩ := List.length_eq_one_iff.1 ((refusal?_exactly rfl).1 hn)
      exact .take (exists_iff Value.pattern?_eq_some_iff) fun p => ⟨_, rfl⟩
    | enum => exact .mapM (fun _ => exists_iff Value.string?_eq_some_iff) fun ss => ⟨_, rfl⟩
    | pattern => exact .mapM (fun _ => exists_iff Value.pattern?_eq_some_iff) fun ps => ⟨_, rfl⟩
    | variant => exact .mapM (fun _ => exists_iff Value.type?_eq_some_iff) fun ts => ⟨_, rfl⟩
    | integer =>
      rcases (refusal?_between rfl).1 hn with hlen | hlen
      · obtain ⟨a, rfl⟩ := List.length_eq_one_iff.1 hlen
        exact .take (exists_iff Value.integerBound?_eq_some_iff) fun n => ⟨_, rfl⟩
      · obtain ⟨a, b, rfl⟩ := List.length_eq_two.1 hlen
        exact .take (exists_iff Value.integerBound?_eq_some_iff) fun n =>
          .take (exists_iff Value.integerBound?_eq_some_iff) fun m => ⟨_, rfl⟩
    | float =>
      rcases (refusal?_between rfl).1 hn with hlen | hlen
      · obtain ⟨a, rfl⟩ := List.length_eq_one_iff.1 hlen
        exact .take (exists_iff Value.floatBound?_eq_some_iff) fun x => ⟨_, rfl⟩
      · obtain ⟨a, b, rfl⟩ := List.length_eq_two.1 hlen
        exact .take (exists_iff Value.floatBound?_eq_some_iff) fun x =>
          .take (exists_iff Value.floatBound?_eq_some_iff) fun y => ⟨_, rfl⟩

namespace Node

/-! ## Arguments that denote nothing

Arguments are evaluated from left to right, and no other way of failing comes before that.
-/

/-- The first argument that denotes nothing is blamed, whatever comes after it. -/
theorem denoteAll_eq_error {before after : List (Node α)} {n : Node α} {depth : Nat}
    {fault : Fault α} (hbefore : ∀ m ∈ before, ∃ v, m.denote depth = .ok v)
    (hn : n.denote depth = .error fault) :
    denoteAll depth (before ++ n :: after) = .error fault := by
  induction before with
  | nil =>
    rw [List.nil_append, denoteAll, hn]
    rfl
  | cons m before ih =>
    obtain ⟨hm, hbefore⟩ := List.forall_mem_cons.1 hbefore
    obtain ⟨v, hv⟩ := hm
    rw [List.cons_append, denoteAll, hv]
    exact bind_eq_error_iff.2 (Or.inr ⟨v, rfl, bind_eq_error_iff.2 (Or.inl (ih hbefore))⟩)

/-- Arguments that all denote something denote it together. -/
theorem exists_denoteAll_of_forall₂ {ns : List (Node α)} {values : List Value} {depth : Nat}
    (h : List.Forall₂ (fun n v => n.denote depth = .ok v) ns values) :
    ∃ args, denoteAll depth ns = .ok args ∧ args.map (·.value) = values := by
  induction h with
  | nil => exact ⟨[], rfl, rfl⟩
  | @cons n v ns values hv _ ih =>
    obtain ⟨args, hargs, rfl⟩ := ih
    exact ⟨⟨v, n.note⟩ :: args, bind_eq_ok_iff.2 ⟨v, hv, bind_eq_ok_iff.2 ⟨args, hargs, rfl⟩⟩, rfl⟩

/-! ## A name that is applied

The three stages of an access in their order: the arguments, how many there are, and what they are.
-/

section Applied

variable {name : String} {arguments : List (Node α)} {a b : α} {depth : Nat}
  {args : List (Argument α)} (h : depth < maxDepth)

include h

/-- What an access to a name denotes: the arguments come first, then the name is applied to them. -/
theorem denote_access_reference : (access (leaf (.reference name) b) arguments a).denote depth =
    (denoteAll (depth + 1) arguments >>= fun values =>
      TypeName.apply a (.ofLower name) values >>= fun t => .ok (.type t)) := by
  simp only [denote, reference?, if_neg (Nat.not_le.2 h)]
  rfl

/-- An argument that denotes nothing is blamed before anything is asked of the name. -/
theorem denote_access_of_error {before after : List (Node α)} {n : Node α} {fault : Fault α}
    (hbefore : ∀ m ∈ before, ∃ v, m.denote (depth + 1) = .ok v)
    (hn : n.denote (depth + 1) = .error fault) :
    (access (leaf (.reference name) b) (before ++ n :: after) a).denote depth = .error fault := by
  rw [denote_access_reference h, denoteAll_eq_error hbefore hn]
  rfl

variable (hargs : denoteAll (depth + 1) arguments = .ok args)

include hargs

/-- Once the arguments have values, only applying the name can fail. -/
theorem denote_access_of_denoteAll : (access (leaf (.reference name) b) arguments a).denote depth =
    (TypeName.apply a (.ofLower name) args >>= fun t => .ok (.type t)) := by
  rw [denote_access_reference h, hargs]
  rfl

/-- A number of arguments that is refused is blamed on the access. -/
theorem denote_access_of_refused {cause : Failure.Cause} (hcause : Refused name args.length cause) :
    (access (leaf (.reference name) b) arguments a).denote depth = .error ⟨cause, a⟩ := by
  rw [denote_access_of_denoteAll h hargs, TypeName.apply, TypeName.refusal?_eq_some_iff.2 hcause]
  rfl

/-- A fault that is about the name comes from the number of arguments. -/
theorem refused_of_denote_access {fault : Fault α}
    (hfault : (access (leaf (.reference name) b) arguments a).denote depth = .error fault)
    (hcause : ∀ detail, fault.cause ≠ .invalidSpecification detail) :
    Refused name args.length fault.cause := by
  rw [denote_access_of_denoteAll h hargs] at hfault
  rcases bind_eq_error_iff.1 hfault with hfault | ⟨t, -, ⟨⟩⟩
  exact TypeName.refused_of_apply_eq_error hfault hcause

variable (hn : ¬∃ cause, Refused name args.length cause)

include hn

/-- If the number of arguments is not refused, what the access denotes is decided by taking one
    argument after the other. -/
theorem blamesFirst_of_not_refused : ∃ result, BlamesFirst (Fits name) args result ∧
    (access (leaf (.reference name) b) arguments a).denote depth =
      (result >>= fun t => .ok (.type t)) := by
  have hnone : (TypeName.ofLower name).refusal? args.length = none :=
    Option.eq_none_iff_forall_ne_some.2 fun cause hcause =>
      hn ⟨cause, TypeName.refusal?_eq_some_iff.1 hcause⟩
  refine ⟨TypeName.build a (.ofLower name) args, TypeName.blamesFirst_build hnone, ?_⟩
  rw [denote_access_of_denoteAll h hargs, TypeName.apply, hnone]

/-- If the number of arguments is not refused, the first that does not fit is blamed. -/
theorem denote_access_of_misfit {i : Nat} {arg : Argument α} (harg : args[i]? = some arg)
    (hmisfit : ¬Fits name i arg.value)
    (hfit : ∀ j w, j < i → args[j]? = some w → Fits name j w.value) :
    (access (leaf (.reference name) b) arguments a).denote depth = .error (.invalid arg.note) := by
  obtain ⟨result, hfirst, hden⟩ := blamesFirst_of_not_refused (a := a) (b := b) h hargs hn
  rw [hden, hfirst.eq_error harg hmisfit hfit]
  rfl

/-- If all of them fit, nothing else can be wrong. -/
theorem exists_denote_access_of_fits (hfit : ∀ i arg, args[i]? = some arg → Fits name i arg.value) :
    ∃ t, (access (leaf (.reference name) b) arguments a).denote depth = .ok (.type t) := by
  obtain ⟨result, hfirst, hden⟩ := blamesFirst_of_not_refused (a := a) (b := b) h hargs hn
  obtain ⟨t, rfl⟩ := hfirst.exists_ok hfit
  exact ⟨t, hden⟩

end Applied

/-! ## Failures of nodes

The same with failures that quote the text instead of faults that have a note.
-/

/-- What a node that stands inside `depth` accesses comes to: a value, or the failure that quotes
    what is blamed. -/
def outcome (text : String) (depth : Nat) (n : Node Span) : Except Failure Value :=
  (n.denote depth).mapError fun fault => .ofSpan text fault.cause fault.note

section Outcome

variable {text : String} {depth : Nat} {n : Node Span}

/-- What a tree is found to denote is what its root comes to, if that is a type. -/
theorem interpret_eq_outcome : n.interpret text =
    match n.outcome text 0 with
    | .ok (.type t) => .ok t
    | .ok _ => .error (.ofWhole text none)
    | .error f => .error f := by
  unfold interpret outcome
  cases n.denote 0 with
  | error fault => rfl
  | ok v => cases v <;> rfl

theorem outcome_eq_ok_iff {v : Value} : n.outcome text depth = .ok v ↔ n.denote depth = .ok v := by
  unfold outcome
  cases n.denote depth <;> simp [Except.mapError]

/-- An outcome that is a failure is the fault with the text that it blames. -/
theorem outcome_eq_error_iff {f : Failure} : n.outcome text depth = .error f ↔
    ∃ fault, n.denote depth = .error fault ∧ .ofSpan text fault.cause fault.note = f := by
  unfold outcome
  cases n.denote depth <;> simp [Except.mapError]

end Outcome

/-- **First failure**: what is applied is a name, and the access is not too deep.  If an argument
    comes to a failure, the first such failure is what comes out.  If all come to values, then how
    many there are decides whether the failure is about the name; and only if they are not refused
    for their number, the first one that does not fit is blamed. -/
theorem outcome_access_of_first (text name : String) (arguments : List (Node Span)) (a b : Span)
    (depth : Nat) (h : depth < maxDepth) :
    let result := (access (leaf (.reference name) b) arguments a).outcome text depth
    (∀ before n after failure, arguments = before ++ n :: after →
      (∀ m ∈ before, ∃ v, m.outcome text (depth + 1) = .ok v) →
      n.outcome text (depth + 1) = .error failure → result = .error failure) ∧
    ∀ values, List.Forall₂ (fun n v => n.outcome text (depth + 1) = .ok v) arguments values →
      (∀ cause, Refused name arguments.length cause → result = .error (.ofSpan text cause a)) ∧
      (∀ failure, result = .error failure →
        (∀ detail, failure.cause ≠ .invalidSpecification detail) →
        Refused name arguments.length failure.cause) ∧
      ((¬∃ cause, Refused name arguments.length cause) →
        (∀ i n v, arguments[i]? = some n → values[i]? = some v → ¬Fits name i v →
          (∀ j w, j < i → values[j]? = some w → Fits name j w) →
          result = .error (.ofSpan text (.invalidSpecification none) n.note)) ∧
        ((∀ i v, values[i]? = some v → Fits name i v) → ∃ t, result = .ok (.type t))) := by
  intro result
  -- First the arguments that denote nothing; then, for those that all have values, the number, and
  -- after it the misfits.
  constructor
  · rintro before n after failure rfl hbefore hn
    obtain ⟨fault, hfault, rfl⟩ := outcome_eq_error_iff.1 hn
    simp only [outcome_eq_ok_iff] at hbefore
    exact outcome_eq_error_iff.2 ⟨fault, denote_access_of_error h hbefore hfault, rfl⟩
  · intro values hvalues
    simp only [outcome_eq_ok_iff] at hvalues
    obtain ⟨args, hargs, rfl⟩ := exists_denoteAll_of_forall₂ hvalues
    have hlen : arguments.length = args.length := by
      rw [hvalues.length_eq, List.length_map]
    rw [hlen]
    refine ⟨fun cause hcause => ?_, fun failure hfailure hcause => ?_, fun hn => ⟨?_, ?_⟩⟩
    · exact outcome_eq_error_iff.2 ⟨_, denote_access_of_refused h hargs hcause, rfl⟩
    · obtain ⟨fault, hfault, rfl⟩ := outcome_eq_error_iff.1 hfailure
      exact refused_of_denote_access h hargs hfault hcause
    · intro i n v hi hv hmisfit hfit
      simp only [List.getElem?_map, Option.map_eq_some_iff] at hv hfit
      obtain ⟨arg, harg, rfl⟩ := hv
      have hden := denote_access_of_misfit (a := a) (b := b) h hargs hn harg hmisfit
        fun j w hj hw => hfit j w.value hj ⟨w, hw, rfl⟩
      -- The fault names the note of the argument's value, which is the note of the argument itself.
      have hnote := congrArg (·[i]?) (map_note_of_denoteAll hargs)
      simp only [List.getElem?_map, harg, hi, Option.map_some, Option.some.injEq] at hnote
      exact outcome_eq_error_iff.2 ⟨_, hden, by rw [hnote]; rfl⟩
    · intro hfit
      simp only [List.getElem?_map, Option.map_eq_some_iff] at hfit
      obtain ⟨t, ht⟩ := exists_denote_access_of_fits (a := a) (b := b) h hargs hn
        fun i arg harg => hfit i arg.value ⟨arg, harg, rfl⟩
      exact ⟨t, outcome_eq_ok_iff.2 ht⟩

/-- In `Hash[1, []]` the first argument is of no use, but the second denotes nothing and is blamed;
    in `Hash[1, 2]` it is the first. -/
theorem outcome_access_of_first_hash : 255 < maxDepth ∧
    (access (leaf (.reference "hash") ⟨0, 4⟩) [leaf (.integer 1) ⟨5, 6⟩, array [] ⟨8, 10⟩]
      ⟨0, 11⟩).outcome "Hash[1, []]" 255 =
      .error (.ofSpan "Hash[1, []]" (.invalidSpecification none) ⟨8, 10⟩) ∧
    (access (leaf (.reference "hash") ⟨0, 4⟩) [leaf (.integer 1) ⟨5, 6⟩, leaf (.integer 2) ⟨8, 9⟩]
      ⟨0, 10⟩).outcome "Hash[1, 2]" 255 =
      .error (.ofSpan "Hash[1, 2]" (.invalidSpecification none) ⟨5, 6⟩) := by
  have h : 255 < maxDepth := by decide
  refine ⟨h, ?_, ?_⟩
  · have hfirst := (outcome_access_of_first "Hash[1, []]" "hash"
      [leaf (.integer 1) ⟨5, 6⟩, array [] ⟨8, 10⟩] ⟨0, 11⟩ ⟨0, 4⟩ 255 h).1
    refine hfirst [leaf (.integer 1) ⟨5, 6⟩] _ [] _ rfl (fun m hm => ?_) rfl
    obtain rfl := List.mem_singleton.1 hm
    exact ⟨.integer 1, rfl⟩
  · have hvalues := (outcome_access_of_first "Hash[1, 2]" "hash"
      [leaf (.integer 1) ⟨5, 6⟩, leaf (.integer 2) ⟨8, 9⟩] ⟨0, 10⟩ ⟨0, 4⟩ 255 h).2
      [.integer 1, .integer 2] (.cons rfl (.cons rfl .nil))
    -- two arguments are as many as the name takes
    have hnone : ¬∃ cause, Refused "hash" 2 cause := by
      rintro ⟨cause, hcause⟩
      cases TypeName.refusal?_eq_some_iff.2 hcause
    refine (hvalues.2.2 hnone).1 0 _ _ rfl rfl ?_ fun j w hj => absurd hj (Nat.not_lt_zero j)
    rintro ⟨t, ⟨⟩, -⟩

end Node

end TypeExpr
