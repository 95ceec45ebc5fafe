import Mathlib.Data.List.TakeWhile
import TypeExpr.Command.Arguments
import TypeExpr.Proofs.Accounts
import TypeExpr.Proofs.Trimming
import TypeExpr.Proofs.Underline
import TypeExpr.Regex.Check

/-!
# Checking a line and parsing it

The line of a file is trimmed before it is parsed, and an argument of the command line is parsed as
it is.  That makes no difference to whether it denotes a type, which one, or what kind of failure
there is, since blanks around a text make none (`IsPadded.verdict_eq`).  So a file that holds just
one line passes a check exactly if the line can be parsed (`check_agrees_with_parse`).

The two do not agree in everything they write.  What is wrong with a line is the same for both only
if there is nothing to trim, since a failure that blames the whole text quotes it with its blanks.
And parsing writes a report, for which a line has to be padded up to the column where the failure
begins.  A failure beyond the last column that can be padded has no report (`Failure.report?`);
there parsing crashes and writes nothing, while a check, which writes no report, still says what is
wrong.  Both sides are in the statement: the message is written by both exactly up to that column.

* A check is followed from the text of the file to its lines, to the one line with a specification,
  and to what is written of it (`check_of_holdsLine`, `checkLines_singleton`).
* Parsing is followed from its argument to the failure, and from there to the report
  (`exists_parse_singleton_eq`).
* That both come to the same type, or to a failure of one kind, is shown of texts, and neither
  program is mentioned (`mapError_parse_trimmed`).

A line of which only a check says what is wrong is at the end of the module.  How far to the right
its failure stands is a variable there until the last step.
-/

namespace TypeExpr

open Text (trim)

/-! ## Trimmed texts

Blanks around a text make no difference to what it denotes.  A failure keeps its kind; its text need
not stay the same, since a failure that blames the whole text quotes the blanks too.
-/

/-- A text without the blanks around it. -/
def trimmed (s : String) : String := String.ofList (trim s.toList)

/-- A text comes to the type or to the kind of failure that it comes to without the blanks around
    it. -/
theorem mapError_parse_trimmed [PatternLanguage] (s : String) :
    (parse (trimmed s)).mapError (·.cause.kindName) = (parse s).mapError (·.cause.kindName) := by
  obtain ⟨k, hpadded⟩ := exists_isPadded_trim s
  rcases hpadded.verdict_eq with hsame | ⟨hnone, hnone'⟩
  · have hkind (s : String) : (verdict s).mapError (fun p => p.1.kindName) =
        (parse s).mapError (·.cause.kindName) := by
      unfold verdict
      cases parse s <;> rfl
    rw [← hkind, ← hkind, hsame, trimmed]
  · obtain ⟨detail, hparse⟩ := hnone.exists_parse_eq
    obtain ⟨detail', hparse'⟩ := hnone'.exists_parse_eq
    rw [hparse, trimmed, hparse']
    rfl

/-- A text denotes what it denotes without the blanks around it. -/
theorem parse_eq_ok_iff_trimmed [PatternLanguage] {s : String} {t : DataType} :
    parse s = .ok t ↔ parse (trimmed s) = .ok t := by
  have htype (s : String) : (parse s).mapError (·.cause.kindName) = .ok t ↔ parse s = .ok t := by
    cases parse s <;> simp [Except.mapError]
  rw [← htype, ← htype, mapError_parse_trimmed]

/-- A text fails for a cause of the kind for which it fails without the blanks around it. -/
theorem exists_parse_trimmed_eq_error [PatternLanguage] {s : String} {f : Failure}
    (h : parse s = .error f) :
    ∃ g, parse (trimmed s) = .error g ∧ g.cause.kindName = f.cause.kindName := by
  have hsame := mapError_parse_trimmed s
  rw [h] at hsame
  cases htrimmed : parse (trimmed s) with
  | ok t =>
    rw [htrimmed] at hsame
    cases hsame
  | error g =>
    rw [htrimmed] at hsame
    exact ⟨g, rfl, Except.error.inj hsame⟩

/-- Blanks at the end of a text are trimmed. -/
theorem trim_append_blanks (cs : List Char) {trail : List Char} (h : AllBlank trail) :
    trim (cs ++ trail) = trim cs := by
  unfold trim
  rw [List.dropWhile_append]
  split
  · rename_i hnil
    rw [List.isEmpty_iff] at hnil
    rw [hnil, List.dropWhile_eq_nil_iff.2 h]
  · rw [List.reverse_append, List.dropWhile_append_of_pos fun c hc => h c (List.mem_reverse.1 hc)]

/-- A carriage return is a blank, so trimming takes it away together with the others. -/
theorem allBlank_return : AllBlank ['\r'] := by
  intro c hc
  rw [List.mem_singleton.1 hc]
  decide

namespace Command

/-! ## A file with one line

Both programs are followed for one specification: a check down to the line it writes, and parsing
down to the report.  A report is not always made, so parsing has one case more.
-/

/-- The text of a file that holds just one line, with or without an end of line behind it. -/
def HoldsLine (content line : String) : Prop :=
  '\n' ∉ line.toList ∧ (content = line ∨ content = line ++ "\n" ∨ content = line ++ "\r\n")

/-- A line with a line feed behind it; a carriage return before that is a blank. -/
theorem exists_lines_append_lineFeed {line : List Char} (h : '\n' ∉ line) :
    ∃ cs, Text.lines (line ++ ['\n']) = [cs] ∧ trim cs = trim line := by
  have hlines := Text.linesAfter_of_not_mem [] h ['\n']
  rw [List.append_nil] at hlines
  refine ⟨(Text.dropReturn line.reverse).reverse, hlines, ?_⟩
  unfold Text.dropReturn
  split
  · rename_i cs hcs
    have hline : line = cs.reverse ++ ['\r'] := by
      rw [← List.reverse_cons, ← hcs, List.reverse_reverse]
    rw [hline, trim_append_blanks _ allBlank_return]
  · rw [List.reverse_reverse]

/-- The lines of such a file, without the blanks around them. -/
theorem HoldsLine.exists_lines_eq {content line : String} (h : HoldsLine content line)
    (hne : line.toList ≠ []) :
    ∃ cs, Text.lines content.toList = [cs] ∧ trim cs = trim line.toList := by
  -- the line is all, or a line feed ends it, or a carriage return and a line feed
  obtain ⟨hsingle, rfl | rfl | rfl⟩ := h
  · have hlines := Text.linesAfter_of_not_mem [] hsingle []
    rw [List.append_nil, List.append_nil] at hlines
    refine ⟨content.toList, ?_, rfl⟩
    rw [Text.lines, hlines, Text.linesAfter, if_neg (by simpa using hne), List.reverse_reverse]
  · rw [String.toList_append]
    exact exists_lines_append_lineFeed hsingle
  · have hreturn : '\n' ∉ line.toList ++ ['\r'] := by simp [hsingle]
    obtain ⟨cs, hlines, htrim⟩ := exists_lines_append_lineFeed hreturn
    rw [trim_append_blanks _ allBlank_return] at htrim
    have htext : (line ++ "\r\n").toList = line.toList ++ ['\r'] ++ ['\n'] := by simp
    exact ⟨cs, by rw [htext, hlines], htrim⟩

/-- If the line of such a file has a specification, it is the only one, and it is the trimmed line.
    -/
theorem HoldsLine.specLines_eq {content line : String} (h : HoldsLine content line)
    (hspec : hasSpec line.toList = true) (path : String) :
    specLines path content = [⟨path, 1, trimmed line⟩] := by
  have hne : line.toList ≠ [] := by
    rintro hnil
    rw [hnil] at hspec
    cases hspec
  obtain ⟨cs, hlines, htrim⟩ := h.exists_lines_eq hne
  have hcs : hasSpec cs = true := by
    rw [hasSpec, htrim]
    exact hspec
  rw [specLines, hlines]
  simp [hcs, htrim, trimmed]

section

variable [PatternLanguage]

/-- What a check writes of one specification. -/
theorem checkLines_singleton (s : SpecLine) : checkLines [s] =
    match TypeExpr.parse s.text with
    | .ok _ => ⟨summary 1 0, "", .success⟩
    | .error f => ⟨s.path ++ ":" ++ toString s.number ++ ": " ++ f.message ++ "\n" ++ summary 1 1,
        "", .failure⟩ := by
  cases hparse : TypeExpr.parse s.text with
  | ok t =>
    have hnone : s.complaint? = none := by
      rw [SpecLine.complaint?, hparse]
    simp [checkLines, hnone]
  | error f =>
    have hsome : s.complaint? =
        some (s.path ++ ":" ++ toString s.number ++ ": " ++ f.message ++ "\n") := by
      rw [SpecLine.complaint?, hparse]
    simp [checkLines, hsome]

/-- The check of a file that holds just one line. -/
theorem check_of_holdsLine [PathSearch] {here : Place}
    {input path content line : String} (hfind : inputPaths here input = .ok [path])
    (hread : here.read path = .ok content) (h : HoldsLine content line)
    (hspec : hasSpec line.toList = true) :
    check here [input] = checkLines [⟨path, 1, trimmed line⟩] := by
  have hpaths : [input].mapM (inputPaths here) = .ok [[path]] :=
    mapM_eq_ok_iff.2 (.cons hfind .nil)
  have hgather : gather (inputPaths here) (inputText here) [input] = .ok [(path, content)] := by
    refine bind_eq_ok_iff.2 ⟨_, hpaths, ?_⟩
    exact @mapM_inputText here [(path, content)] (by simpa using hread)
  rw [check, hgather, conclude, checkTexts, List.flatMap_singleton]
  exact congrArg checkLines (h.specLines_eq hspec path)

/-- A check of one line passes exactly if the line can be parsed. -/
theorem status_checkLines_singleton (s : SpecLine) :
    (checkLines [s]).status = 0 ↔ ∃ t, TypeExpr.parse s.text = .ok t := by
  rw [checkLines_singleton]
  cases TypeExpr.parse s.text <;> simp [Outcome.status, Ending.status]

/-- One specification is parsed by itself. -/
theorem parse_singleton (format : Format) (color : Bool) (s : String) :
    parse format color [s] = parseOne format color s := by
  rw [parse, List.map_singleton, Outcome.all_singleton]

/-- One specification is parsed with success if it denotes a type. -/
theorem status_parse_singleton (format : Format) (color : Bool) (s : String) :
    (parse format color [s]).status = 0 ↔ ∃ t, TypeExpr.parse s = .ok t := by
  rw [parse_singleton, parseOne]
  cases TypeExpr.parse s with
  | ok t => simp [Outcome.status, Ending.status]
  | error f =>
    -- with a report or without one, parsing has failed
    simp only
    split <;> simp [Outcome.status, Ending.status]

/-- What parsing writes of one line that fails: a report that begins with what is wrong, if room can
    be made on the left of the failure, and nothing if not. -/
theorem exists_parse_singleton_eq (format : Format) (color : Bool) {s : String}
    {f : Failure} (hne : s ≠ "") (hsingle : '\n' ∉ s.toList) (h : TypeExpr.parse s = .error f) :
    ∃ rest, parse format color [s] =
      if (Text.position s.toList f.span.start).column ≤ widest + 1 then
        ⟨"", f.heading (Text.position s.toList f.span.start) color ++ rest, .failure⟩
      else ⟨"", "", .crash⟩ := by
  obtain ⟨rest, hreport⟩ := exists_report?_eq_of_single hne hsingle h color
  refine ⟨rest, ?_⟩
  rw [parse_singleton, parseOne, h]
  by_cases hnear : (Text.position s.toList f.span.start).column ≤ widest + 1
  · simp only [hreport, if_pos hnear]
  · simp only [hreport, if_neg hnear]

/-- **Agreement**: a file that holds just one line passes a check exactly if the line can be parsed.
    With the blanks around it and without them it denotes the same type, or it fails for a cause of
    one kind.  If there are none, a check writes what is wrong; parsing writes the same message,
    exactly if the failure begins no further to the right than can be padded, and if it does not,
    parsing crashes and writes nothing. -/
theorem check_agrees_with_parse [PathSearch] (here : Place)
    (input path content s : String) (format : Format) (color : Bool)
    (hfind : inputPaths here input = .ok [path]) (hread : here.read path = .ok content)
    (hholds : HoldsLine content s) (hblank : trim s.toList ≠ [])
    (hcomment : (trim s.toList).head? ≠ some '#') :
    Request.ofArguments? ["parse", "--", s] = some ⟨.parse .text [s], false⟩ ∧
    ((check here [input]).status = 0 ↔ (parse format color [s]).status = 0) ∧
    (∀ t, TypeExpr.parse s = .ok t ↔ TypeExpr.parse (trimmed s) = .ok t) ∧
    (∀ f, TypeExpr.parse s = .error f → ∃ g, TypeExpr.parse (trimmed s) = .error g ∧
      g.cause.kindName = f.cause.kindName) ∧
    (trim s.toList = s.toList → ∀ f, TypeExpr.parse s = .error f →
      (check here [input]).output = path ++ ":1: " ++ f.message ++ "\n" ++ summary 1 1 ∧
      ((∃ rest, (parse format color [s]).complaints =
        paint color ("error[" ++ f.cause.kindName ++ "]") ++ ": " ++ f.message ++ "\n" ++ rest) ↔
          (Text.position s.toList f.span.start).column ≤ widest + 1) ∧
      (widest + 1 < (Text.position s.toList f.span.start).column →
        parse format color [s] = ⟨"", "", .crash⟩)) := by
  have hcheck := check_of_holdsLine hfind hread hholds (hasSpec_iff.2 ⟨hblank, hcomment⟩)
  -- Both programs parse one text, the trimmed one and the one as it is; that the two agree on types
  -- and on kinds of failures is what has been shown of blanks.
  refine ⟨rfl, ?_, fun t => parse_eq_ok_iff_trimmed, fun f => exists_parse_trimmed_eq_error, ?_⟩
  · rw [hcheck, status_checkLines_singleton, status_parse_singleton]
    exact exists_congr fun t => parse_eq_ok_iff_trimmed.symm
  · intro htrim f hf
    have htrimmed : trimmed s = s := by
      rw [trimmed, htrim, String.ofList_toList]
    have hne : s ≠ "" := by
      rintro rfl
      exact hblank rfl
    obtain ⟨rest, hparse⟩ := exists_parse_singleton_eq format color hne hholds.1 hf
    refine ⟨?_, ?_, fun hfar => ?_⟩
    · have hplace : path ++ ":" ++ toString 1 ++ ": " = path ++ ":1: " := by
        rw [String.append_assoc, String.append_assoc]
        rfl
      rw [hcheck, checkLines_singleton, htrimmed, hf, ← hplace]
    · -- The report begins with the heading if there is one, and a crash leaves nothing.
      rw [hparse]
      split
      · rename_i hnear
        refine iff_of_true ?_ hnear
        exact ⟨_, by simp only [Failure.heading, String.append_assoc]; rfl⟩
      · rename_i hfar
        refine iff_of_false ?_ hfar
        rintro ⟨rest, hnothing⟩
        simpa using congrArg String.toList hnothing
    · rw [hparse, if_neg (Nat.not_le.2 hfar)]

end

/-- A directory with a file in which a string is not closed, and a backslash takes a blank at the
    end of the line along; and a file with a trimmed line, whose name has a parameter too many. -/
def lineFiles : Place :=
  ⟨.directory [("name", .file "Boolean[1]".toUTF8), ("string", .file "\u3000'a\\ \r\n".toUTF8)], []⟩

open scoped Program in
/-- Both lines fail, and of the trimmed one the same is said. -/
theorem check_agrees_with_parse_of_failures :
    ((check lineFiles ["string"]).status = 0 ↔
      (parse .text false ["\u3000'a\\ "]).status = 0) ∧
    (∃ f g, TypeExpr.parse "\u3000'a\\ " = .error f ∧
      TypeExpr.parse (trimmed "\u3000'a\\ ") = .error g ∧
      g.cause.kindName = f.cause.kindName) ∧
    ∃ f, TypeExpr.parse "Boolean[1]" = .error f ∧ (check lineFiles ["name"]).output =
      "name" ++ ":1: " ++ f.message ++ "\n" ++ summary 1 1 ∧
      ∃ rest, (parse .text false ["Boolean[1]"]).complaints =
        "error[" ++ f.cause.kindName ++ "]" ++ ": " ++ f.message ++ "\n" ++ rest := by
  -- The quoted text of the first failure is the whole line, so it is enough to know that the line
  -- is no expression.
  have hunended : tokenize "\u3000'a\\ " = .error ⟨.unterminatedString, ⟨3, 7⟩⟩ := by
    decide +kernel
  have hopen : Node.ofText "\u3000'a\\ " = .error ⟨.unterminatedString, ⟨3, 7⟩⟩ := by
    rw [Node.ofText, hunended]
  have htokens : tokenize "Boolean[1]" = .ok [⟨.reference "Boolean", ⟨0, 7⟩⟩,
      ⟨.openBracket, ⟨7, 8⟩⟩, ⟨.integer 1, ⟨8, 9⟩⟩, ⟨.closeBracket, ⟨9, 10⟩⟩] := by
    decide +kernel
  have hname : TypeExpr.parse "Boolean[1]" =
      .error ⟨.unparameterizedType, "Boolean[1]", ⟨0, 10⟩⟩ := by
    rw [TypeExpr.parse, Node.ofText, htokens]
    rfl
  obtain ⟨detail, hf⟩ := exists_parse_eq_ofWhole fun root hroot => by cases hopen.symm.trans hroot
  obtain ⟨-, hstatus, -, hkind, -⟩ := check_agrees_with_parse lineFiles "string" "string" _
    "\u3000'a\\ " .text false (by rfl) (by rfl)
    ⟨by decide, Or.inr (Or.inr (by rfl))⟩ (by decide) (by decide)
  obtain ⟨-, -, -, -, hmessage⟩ := check_agrees_with_parse lineFiles "name" "name" _
    "Boolean[1]" .text false (by rfl) (by rfl)
    ⟨by decide, Or.inl (by rfl)⟩ (by decide) (by decide)
  obtain ⟨g, hg, hsame⟩ := hkind _ hf
  obtain ⟨houtput, hcomplaints, -⟩ := hmessage (by decide) _ hname
  exact ⟨hstatus, ⟨_, g, hf, hg, hsame⟩, _, hname, houtput, hcomplaints.2 (by decide)⟩

/-! ## A line of which only a check says what is wrong

A failure that begins beyond the last column up to which a line can be padded.  The line is one
argument of a list with blanks before it, and the number of blanks is left open until the end, so
that nothing is evaluated on a text of that length.
-/

/-- A directory with a file that holds one line, whose failure stands far to the right. -/
def farFile (n : Nat) : Place := ⟨.directory [("far", .file (farAway n).toUTF8)], []⟩

/-- The file holds the text. -/
theorem read_farFile (n : Nat) : (farFile n).read "far" = .ok (farAway n) := by
  have hfollow : (farFile n).follow "far" =
      .ok ⟨.file (farAway n).toUTF8, [(farFile n).entry]⟩ := rfl
  have htext : String.fromUTF8? (farAway n).toUTF8 = some (farAway n) :=
    fromUTF8?_eq_some_iff.2 rfl
  simp only [Place.read, hfollow, htext, bind, Except.bind]

/-- The text begins with a name and ends with a bracket, so trimming leaves it as it is. -/
theorem trim_farAway (n : Nat) : trim (farAway n).toList = (farAway n).toList := by
  have hfirst : Text.isBlank 'A' = false := by decide
  have hlast : Text.isBlank ']' = false := by decide
  simp [toList_farAway, trim, hfirst, hlast]

/-- However far to the right the failure stands, a check says what it is. -/
theorem check_farFile [PatternLanguage] [PathSearch] (n : Nat) {f : Failure}
    (h : TypeExpr.parse (farAway n) = .error f) :
    (check (farFile n) ["far"]).output = "far" ++ ":1: " ++ f.message ++ "\n" ++ summary 1 1 := by
  have hspec : hasSpec (farAway n).toList = true := by
    rw [hasSpec, trim_farAway, toList_farAway]
    rfl
  have htrimmed : trimmed (farAway n) = farAway n := by
    rw [trimmed, trim_farAway, String.ofList_toList]
  rw [check_of_holdsLine rfl (read_farFile n) ⟨single_farAway n, Or.inl rfl⟩ hspec,
    checkLines_singleton, htrimmed]
  simp only [h]
  rfl

/-- One column too far to the right, parsing says nothing. -/
theorem parse_farAway_eq_crash [PatternLanguage] {n : Nat} (h : widest < 6 + n) :
    parse .text false [farAway n] = ⟨"", "", .crash⟩ := by
  obtain ⟨rest, hreport⟩ := exists_report?_farAway_eq n false
  rw [if_neg (Nat.not_le.2 h)] at hreport
  rw [parse_singleton, parseOne, parse_farAway]
  simp only [hreport]

open scoped Program in
/-- A trimmed line that fails: a check writes the message, and parsing crashes and writes none. -/
theorem exists_check_output_of_crash : ∃ f, TypeExpr.parse (farAway 65530) = .error f ∧
    trim (farAway 65530).toList = (farAway 65530).toList ∧
    (check (farFile 65530) ["far"]).output = "far" ++ ":1: " ++ f.message ++ "\n" ++ summary 1 1 ∧
    parse .text false [farAway 65530] = ⟨"", "", .crash⟩ := by
  have hparse := parse_farAway 65530
  exact ⟨_, hparse, trim_farAway 65530, check_farFile 65530 hparse,
    parse_farAway_eq_crash (by decide)⟩

end Command

end TypeExpr
