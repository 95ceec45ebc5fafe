import Mathlib.Data.List.Sort
import TypeExpr.Command.Check
import TypeExpr.Files.Search
import TypeExpr.Proofs.Locating
import TypeExpr.Proofs.Messages
import TypeExpr.Proofs.Stepwise
import TypeExpr.Regex.Check

/-!
# What a check accounts for

A check of files says of every line that fails where it stands and what is wrong with it, and how
many lines there were.  `IsAccount` says this of one file, and `Accounts` of some files one after
another, both without the lists that the program filters: an account has the numbers of the lines
with a specification and of those that fail, in ascending order and no others, so that there is only
one (`IsAccount.unique`).

Each failure takes one line of the output, since its message is one line
(`isOneLine_message_of_parse`).  Accounts of two rows of files make up that of both
(`Accounts.append`), and so does the output (`check_accounts`).

The condition on the inputs is that they are paths to files that can be read.  What becomes of an
input that is of no use is another matter, since one of them ends the whole check
(`check_of_unusable`).  A path has to be one line too: nothing else keeps a row of the output to one
line.

The statement about two rows of files says that the rows come one after the other and the numbers
add up; whatever is said of one file, such as the numbers of its lines, does not depend on the files
around it.
-/

namespace TypeExpr.Command

open Text (IsLine trim)

/-! ## One file

What an account of a file is, and that the lines which the program filters make one.
-/

/-- The line of a number has a specification: it is what is left without the blanks around it, if
    that is something and no comment. -/
def SpecAt (content : String) (number : Nat) (spec : String) : Prop :=
  ∃ start line, IsLine content.toList start line ∧ number = start.count '\n' + 1 ∧
    spec = String.ofList (trim line) ∧ trim line ≠ [] ∧ (trim line).head? ≠ some '#'

/-- The line of a number has a specification that fails. -/
def FailsAt [PatternLanguage] (content : String) (number : Nat) (f : Failure) : Prop :=
  ∃ spec, SpecAt content number spec ∧ TypeExpr.parse spec = .error f

/-- The numbers of the lines of a file that have a specification, and of those that fail with what
    is wrong there, in ascending order. -/
structure IsAccount [PatternLanguage] (content : String) (specs : List Nat)
    (failures : List (Nat × Failure)) : Prop where
  specs_ascend : specs.Pairwise (· < ·)
  mem_specs_iff : ∀ n, n ∈ specs ↔ ∃ spec, SpecAt content n spec
  failures_ascend : failures.Pairwise fun a b => a.1 < b.1
  mem_failures_iff : ∀ n f, (n, f) ∈ failures ↔ FailsAt content n f

/-- A file has one account only. -/
theorem IsAccount.unique [PatternLanguage] {content : String} {specs specs' : List Nat}
    {failures failures' : List (Nat × Failure)} (h : IsAccount content specs failures)
    (h' : IsAccount content specs' failures') : specs = specs' ∧ failures = failures' := by
  have : Std.Antisymm fun a b : Nat × Failure => a.1 < b.1 := ⟨fun a b hab hba => by omega⟩
  have : Std.Irrefl fun a b : Nat × Failure => a.1 < b.1 := ⟨fun a => Nat.lt_irrefl _⟩
  constructor
  · refine h.specs_ascend.eq_of_mem_iff h'.specs_ascend fun n => ?_
    rw [h.mem_specs_iff, h'.mem_specs_iff]
  · refine h.failures_ascend.eq_of_mem_iff h'.failures_ascend fun ⟨n, f⟩ => ?_
    rw [h.mem_failures_iff, h'.mem_failures_iff]

/-- A line has a specification if trimming leaves something that is no comment. -/
theorem hasSpec_iff {line : List Char} :
    hasSpec line = true ↔ trim line ≠ [] ∧ (trim line).head? ≠ some '#' := by
  simp [hasSpec]

/-- The lines with their numbers, counted from one, are the lines that the numbers lead to. -/
theorem mem_zipIdx_lines_iff {text line : List Char} {n : Nat} :
    (line, n) ∈ (Text.lines text).zipIdx 1 ↔ Text.line? text n = some line := by
  rw [List.mk_mem_zipIdx_iff_le_and_getElem?_sub]
  cases n with
  | zero => simp [Text.line?]
  | succ n => simp [Text.line?]

/-- What is found in a file are the lines that have a specification. -/
theorem mem_specLines_iff {path content : String} {s : SpecLine} :
    s ∈ specLines path content ↔ s.path = path ∧ SpecAt content s.number s.text := by
  simp only [specLines, List.mem_map, List.mem_filter, Prod.exists, mem_zipIdx_lines_iff,
    hasSpec_iff, Text.line?_eq_some_iff]
  constructor
  · rintro ⟨line, n, ⟨⟨start, hline, hn⟩, hspec⟩, rfl⟩
    exact ⟨rfl, start, line, hline, hn, rfl, hspec⟩
  · rintro ⟨rfl, start, line, hline, hn, htext, hspec⟩
    exact ⟨line, s.number, ⟨⟨start, hline, hn⟩, hspec⟩, by rw [← htext]⟩

/-- The lines that have a specification are found in ascending order. -/
theorem pairwise_specLines (path content : String) :
    (specLines path content).Pairwise fun s t => s.number < t.number := by
  have hnumbers : ((Text.lines content.toList).zipIdx 1).Pairwise fun a b => a.2 < b.2 := by
    rw [← List.pairwise_map (f := Prod.snd) (R := (· < ·)), List.zipIdx_map_snd]
    exact List.pairwise_lt_range'
  exact List.pairwise_map.2 (hnumbers.filter _)

section

variable [PatternLanguage]

/-- The number of a line that fails, and what is wrong there. -/
def SpecLine.failure? (s : SpecLine) : Option (Nat × Failure) :=
  match TypeExpr.parse s.text with
  | .ok _ => none
  | .error f => some (s.number, f)

/-- A line fails with its own number and with what parsing it fails with. -/
theorem SpecLine.failure?_eq_some_iff {s : SpecLine} {n : Nat} {f : Failure} :
    s.failure? = some (n, f) ↔ s.number = n ∧ TypeExpr.parse s.text = .error f := by
  unfold failure?
  cases TypeExpr.parse s.text <;> simp

/-- **One file**: what is found in a file is its account. -/
theorem isAccount_specLines (path content : String) : IsAccount content
    ((specLines path content).map SpecLine.number)
    ((specLines path content).filterMap SpecLine.failure?) where
  specs_ascend := List.pairwise_map.2 (pairwise_specLines path content)
  mem_specs_iff := by
    intro n
    rw [List.mem_map]
    constructor
    · rintro ⟨s, hs, rfl⟩
      exact ⟨s.text, (mem_specLines_iff.1 hs).2⟩
    · rintro ⟨spec, hspec⟩
      exact ⟨⟨path, n, spec⟩, mem_specLines_iff.2 ⟨rfl, hspec⟩, rfl⟩
  failures_ascend := by
    -- A failure keeps the number of its line, so the order of the lines is that of the failures.
    refine (pairwise_specLines path content).filterMap _ ?_
    rintro s t hst ⟨n, f⟩ hn ⟨m, g⟩ hm
    rw [← (SpecLine.failure?_eq_some_iff.1 hn).1, ← (SpecLine.failure?_eq_some_iff.1 hm).1]
    exact hst
  mem_failures_iff := by
    intro n f
    simp only [List.mem_filterMap, SpecLine.failure?_eq_some_iff]
    constructor
    · rintro ⟨s, hs, rfl, hparse⟩
      exact ⟨s.text, (mem_specLines_iff.1 hs).2, hparse⟩
    · rintro ⟨spec, hspec, hparse⟩
      exact ⟨⟨path, n, spec⟩, mem_specLines_iff.2 ⟨rfl, hspec⟩, rfl, hparse⟩

/-! ## The line that is written of a failure

A specification stands on one line, so what is said of it is one line
(`isOneLine_message_of_parse`).
-/

/-- The line that is written of a failure. -/
def complaint (path : String) (failure : Nat × Failure) : String :=
  path ++ ":" ++ toString failure.1 ++ ": " ++ failure.2.message

/-- What the program writes of a line is what is written of its failure. -/
theorem SpecLine.complaint?_eq (s : SpecLine) :
    s.complaint? = s.failure?.map fun failure => complaint s.path failure ++ "\n" := by
  unfold complaint? failure? complaint
  cases TypeExpr.parse s.text <;> rfl

end

/-- Trimming adds no character. -/
theorem mem_of_mem_trim {c : Char} {line : List Char} (h : c ∈ trim line) : c ∈ line := by
  unfold trim at h
  rw [List.mem_reverse] at h
  have hback := List.mem_reverse.1 ((List.dropWhile_sublist _).subset h)
  exact (List.dropWhile_sublist _).subset hback

/-- A line that fails is said to do so on one line. -/
theorem FailsAt.isOneLine [PatternLanguage] {path content : String} {n : Nat} {f : Failure}
    (h : FailsAt content n f) (hpath : IsOneLine path) : IsOneLine (complaint path (n, f)) := by
  obtain ⟨spec, ⟨start, line, hline, -, rfl, -⟩, hparse⟩ := h
  have hspec : IsOneLine (String.ofList (trim line)) :=
    isOneLine_ofList.2 fun hmem => hline.single (mem_of_mem_trim hmem)
  have hmessage := isOneLine_message_of_parse hparse hspec
  have hplace : IsOneLine (path ++ ":" ++ toString n ++ ": ") :=
    .append (.append (.append hpath (by decide)) (isOneLine_nat n)) (by decide)
  exact hplace.append hmessage

/-! ## Some files

Accounts are put together file by file.  The induction is on the list of files.
-/

/-- The lines that are written of the failures in some files, and how many specifications there are
    in them. -/
inductive Accounts [PatternLanguage] (here : Place) : List String → List String → Nat → Prop where
  | nil : Accounts here [] [] 0
  | cons {path content specs failures paths rows checked} : here.read path = .ok content →
      IsAccount content specs failures → Accounts here paths rows checked →
      Accounts here (path :: paths) (failures.map (complaint path) ++ rows) (specs.length + checked)

variable {here : Place}

section

variable [PatternLanguage]

/-- Accounts add up. -/
theorem Accounts.append {front back rows rows' : List String} {checked checked' : Nat}
    (h : Accounts here front rows checked) (h' : Accounts here back rows' checked') :
    Accounts here (front ++ back) (rows ++ rows') (checked + checked') := by
  induction h with
  | nil => simpa using h'
  | cons hread haccount _ ih =>
    rw [List.append_assoc, Nat.add_assoc]
    exact .cons hread haccount ih

/-- Files that can be read have an account. -/
theorem exists_accounts {paths : List String}
    (h : ∀ path ∈ paths, ∃ content, here.read path = .ok content) :
    ∃ rows checked, Accounts here paths rows checked := by
  induction paths with
  | nil => exact ⟨[], 0, .nil⟩
  | cons path paths ih =>
    obtain ⟨⟨content, hread⟩, hpaths⟩ := List.forall_mem_cons.1 h
    obtain ⟨rows, checked, hrows⟩ := ih hpaths
    exact ⟨_, _, .cons hread (isAccount_specLines path content) hrows⟩

/-- Each row is one line if each path is, since every message is. -/
theorem Accounts.isOneLine {paths rows : List String} {checked : Nat}
    (h : Accounts here paths rows checked) (hpaths : ∀ path ∈ paths, IsOneLine path) :
    ∀ row ∈ rows, IsOneLine row := by
  induction h with
  | nil => simp
  | cons hread haccount _ ih =>
    rw [List.forall_mem_cons] at hpaths
    refine List.forall_mem_append.2 ⟨?_, ih hpaths.2⟩
    rintro row hrow
    obtain ⟨⟨n, f⟩, hmem, rfl⟩ := List.mem_map.1 hrow
    exact ((haccount.mem_failures_iff n f).1 hmem).isOneLine hpaths.1

/-- The files with their texts that an account is about, and what is found in them. -/
theorem Accounts.exists_files {paths rows : List String} {checked : Nat}
    (h : Accounts here paths rows checked) : ∃ files : List (String × String),
      files.map Prod.fst = paths ∧ (∀ file ∈ files, here.read file.1 = .ok file.2) ∧
      (files.flatMap fun (path, content) => specLines path content).length = checked ∧
      (files.flatMap fun (path, content) => specLines path content).filterMap
        SpecLine.complaint? = rows.map (· ++ "\n") := by
  -- By induction on the account.  A file has one account only, so what is found in it is what was
  -- accounted for.
  induction h with
  | nil => exact ⟨[], rfl, by simp, rfl, rfl⟩
  | @cons path content specs failures paths rows checked hread haccount _ ih =>
    obtain ⟨files, hfiles, hreads, hlength, hrows⟩ := ih
    obtain ⟨rfl, rfl⟩ := haccount.unique (isAccount_specLines path content)
    refine ⟨(path, content) :: files, by rw [List.map_cons, hfiles],
      List.forall_mem_cons.2 ⟨hread, hreads⟩, ?_, ?_⟩
    · rw [List.flatMap_cons, List.length_append, hlength, List.length_map]
    · have hfile : (specLines path content).filterMap SpecLine.complaint? =
          (((specLines path content).filterMap SpecLine.failure?).map (complaint path)).map
            (· ++ "\n") := by
        rw [List.map_map, List.map_filterMap]
        refine List.filterMap_congr fun s hs => ?_
        rw [SpecLine.complaint?_eq, (mem_specLines_iff.1 hs).1]
        rfl
      rw [List.flatMap_cons, List.filterMap_append, hrows, List.map_append, hfile]

end

/-! ## Gathering the files

Inputs that are no patterns are paths, and each is read by itself; no search is made for them.
-/

/-- Inputs that are no patterns stand for themselves. -/
theorem mapM_inputPaths [PathSearch] {inputs : List String}
    (h : ∀ input ∈ inputs, Files.isPattern input = false) :
    inputs.mapM (inputPaths here) = .ok (inputs.map fun input => [input]) := by
  rw [mapM_eq_ok_iff, List.forall₂_map_right_iff, List.forall₂_same]
  intro input hinput
  rw [inputPaths, h input hinput]
  rfl

/-- Files that can be read are read with their paths. -/
theorem mapM_inputText {files : List (String × String)}
    (h : ∀ file ∈ files, here.read file.1 = .ok file.2) :
    (files.map Prod.fst).mapM (fun path => do return (path, ← inputText here path)) =
      .ok files := by
  rw [mapM_eq_ok_iff, List.forall₂_map_left_iff, List.forall₂_same]
  intro file hfile
  rw [inputText, h file hfile]
  rfl

/-- Files that are named by their paths are gathered in the order of the inputs. -/
theorem gather_of_literal [PathSearch] {files : List (String × String)}
    (hliteral : ∀ input ∈ files.map Prod.fst, Files.isPattern input = false)
    (hreads : ∀ file ∈ files, here.read file.1 = .ok file.2) :
    gather (inputPaths here) (inputText here) (files.map Prod.fst) = .ok files := by
  unfold gather
  rw [mapM_inputPaths hliteral]
  show List.mapM _ (List.flatten _) = _
  rw [← List.flatMap_def, List.flatMap_singleton', mapM_inputText hreads]

/-! ## The output of a check

The output is the rows, one below the other, and the summary.  Since no row has a line feed in it,
the lines of the output are the rows.
-/

/-- The outcome has written the lines, and behind them how many there are among how many
    specifications; it has failed if there are any. -/
structure Outcome.Reports (o : Outcome) (rows : List String) (checked : Nat) : Prop where
  output : o.output = String.join (rows.map (· ++ "\n")) ++
    ("checked " ++ toString checked ++ " specifications, " ++ toString rows.length ++
      " failed" ++ "\n")
  isOneLine : ∀ row ∈ rows, IsOneLine row
  complaints : o.complaints = ""
  status : o.status = if 0 < rows.length then 1 else 0

/-- **Output**: the check of files writes their account. -/
theorem Accounts.reports [PatternLanguage] [PathSearch] {inputs rows : List String} {checked : Nat}
    (h : Accounts here inputs rows checked)
    (hliteral : ∀ input ∈ inputs, Files.isPattern input = false)
    (hpaths : ∀ input ∈ inputs, IsOneLine input) : (check here inputs).Reports rows checked := by
  obtain ⟨files, rfl, hreads, hlength, hrows⟩ := h.exists_files
  have houtcome : check here (files.map Prod.fst) =
      ⟨String.join (rows.map (· ++ "\n")) ++ summary checked rows.length, "",
        if (rows.map (· ++ "\n")).isEmpty then .success else .failure⟩ := by
    rw [check, gather_of_literal hliteral hreads, conclude, checkTexts, checkLines, hrows, hlength,
      List.length_map]
  refine ⟨?_, h.isOneLine hpaths, by rw [houtcome], ?_⟩
  · have hfailed : " failed\n" = " failed" ++ "\n" := rfl
    simp only [houtcome, summary, hfailed, String.append_assoc]
  · rw [houtcome]
    cases rows <;> rfl

/-- **Accounting**: the check of files that can be read writes one line for each line of them that
    fails, in the order of the files and of the lines in them, and behind these how many
    specifications there are and how many fail; it fails exactly if there are any.  For files
    behind others the lines stand behind theirs, and both counts add up. -/
theorem check_accounts [PatternLanguage] [PathSearch] (here : Place) (inputs : List String)
    (h : ∀ input ∈ inputs, Files.isPattern input = false ∧ IsOneLine input ∧
      ∃ content, here.read input = .ok content) :
    (∃ rows checked, Accounts here inputs rows checked ∧
      (check here inputs).Reports rows checked) ∧
    ∀ front back, inputs = front ++ back → ∃ rows checked rows' checked',
      Accounts here front rows checked ∧ Accounts here back rows' checked' ∧
      (check here front).Reports rows checked ∧ (check here back).Reports rows' checked' ∧
      (check here inputs).Reports (rows ++ rows') (checked + checked') := by
  have hliteral : ∀ input ∈ inputs, Files.isPattern input = false := fun input hi => (h input hi).1
  have hpaths : ∀ input ∈ inputs, IsOneLine input := fun input hi => (h input hi).2.1
  have hreads : ∀ input ∈ inputs, ∃ content, here.read input = .ok content :=
    fun input hi => (h input hi).2.2
  constructor
  · obtain ⟨rows, checked, haccounts⟩ := exists_accounts hreads
    exact ⟨rows, checked, haccounts, haccounts.reports hliteral hpaths⟩
  · -- the account of both is that of the one and then that of the other, and both checks are of
    -- files that can be read
    rintro front back rfl
    rw [List.forall_mem_append] at hliteral hpaths hreads
    obtain ⟨rows, checked, hfront⟩ := exists_accounts hreads.1
    obtain ⟨rows', checked', hback⟩ := exists_accounts hreads.2
    exact ⟨rows, checked, rows', checked', hfront, hback, hfront.reports hliteral.1 hpaths.1,
      hback.reports hliteral.2 hpaths.2,
      (hfront.append hback).reports (List.forall_mem_append.2 hliteral)
        (List.forall_mem_append.2 hpaths)⟩

/-- A directory with one file, in which one line fails, one is blank and one is a comment. -/
def sample : Place :=
  ⟨.directory [("specs", .file "Integer\n\n# é\n  Foo[1\r\n".toUTF8)], []⟩

open scoped Program in
/-- The file is named twice and accounted for twice. -/
theorem check_accounts_twice :
    (∃ rows checked, Accounts sample ["specs", "./specs"] rows checked ∧
      (check sample ["specs", "./specs"]).Reports rows checked) ∧
    ∃ rows checked rows' checked',
      Accounts sample ["specs"] rows checked ∧ Accounts sample ["./specs"] rows' checked' ∧
      (check sample ["specs"]).Reports rows checked ∧
      (check sample ["./specs"]).Reports rows' checked' ∧
      (check sample ["specs", "./specs"]).Reports (rows ++ rows') (checked + checked') := by
  have hread : ∀ input ∈ ["specs", "./specs"], Files.isPattern input = false ∧ IsOneLine input ∧
      ∃ content, sample.read input = .ok content := by
    intro input hinput
    simp only [List.mem_cons, List.not_mem_nil, or_false] at hinput
    rcases hinput with rfl | rfl
    · exact ⟨by decide, by decide, _, rfl⟩
    · exact ⟨by decide, by decide, _, rfl⟩
  obtain ⟨haccounts, hadd⟩ := check_accounts sample ["specs", "./specs"] hread
  exact ⟨haccounts, hadd ["specs"] ["./specs"] rfl⟩

end TypeExpr.Command
