/-!
# Commands

What a command leaves behind: what it writes for the reader, what it writes about what went wrong,
and how it ends.  Outcomes of one command after another add up, and the whole fails if one of them
does; but behind one that crashes nothing is done any more (`Outcome.all_cons_of_crash`).
-/

namespace TypeExpr.Command

/-- How a command ends. -/
inductive Ending where
  | success
  /-- Having said what went wrong. -/
  | failure
  /-- In the middle of its work, with nothing said but that. -/
  | crash
  deriving DecidableEq

namespace Ending

/-- The status that stands for an ending. -/
def status : Ending → Nat
  | success => 0
  | failure => 1
  | crash => 101

/-- How two commands end, one of which comes after the other. -/
def andThen : Ending → Ending → Ending
  | success, next => next
  | failure, crash => crash
  | failure, _ => failure
  | crash, _ => crash

end Ending

/-- What a command writes, and how it ends.  The notice of a crash is not part of what it writes. -/
structure Outcome where
  output : String
  complaints : String
  ending : Ending
  deriving DecidableEq

namespace Outcome

/-- The status that a command ends with. -/
def status (o : Outcome) : Nat := o.ending.status

/-- The outcome of a command that cannot do its work. -/
def refused (message : String) : Outcome := ⟨"", "error: " ++ message ++ "\n", .failure⟩

/-- The outcome of two commands, the second of which is only begun if the first one does not
    crash. -/
def andThen (o next : Outcome) : Outcome :=
  if o.ending = .crash then o
  else ⟨o.output ++ next.output, o.complaints ++ next.complaints, o.ending.andThen next.ending⟩

/-- The outcome of some commands one after another. -/
def all (os : List Outcome) : Outcome := os.foldr andThen ⟨"", "", .success⟩

@[simp] theorem all_singleton (o : Outcome) : all [o] = o := by
  obtain ⟨output, complaints, ending⟩ := o
  cases ending <;> simp [all, andThen, Ending.andThen]

/-- Behind a crash nothing is done any more. -/
theorem all_cons_of_crash {o : Outcome} (h : o.ending = .crash) (os : List Outcome) :
    all (o :: os) = o := by
  rw [all, List.foldr_cons, andThen, if_pos h]

end Outcome

end TypeExpr.Command
