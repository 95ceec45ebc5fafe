import TypeExpr.Command.Check
import TypeExpr.Files.Search
import TypeExpr.Proofs.Stepwise
import TypeExpr.Regex.Check

/-!
# Inputs of no use

A check finds the files that all of its inputs stand for, then reads all of them, and only then
looks at a line.  So one input of no use keeps it from writing anything but one complaint, wherever
it stands among the others and whatever is in them (`check_of_unusable`), and nothing else does
(`check_output_eq_empty_iff`).

What an input of no use is, is said without the program (`Unusable`): by the place that a path leads
to, by the bytes of the file there, and by what is found for a pattern.  How patterns are searched
for plays no part; all of it holds for any search (`PathSearch`).  Which one of several is
complained about is `RefusedFor`: the first input whose files cannot be found, and only if there is
no such input, the first file that cannot be read.

Nothing is asked of the other inputs.  They may be of no use as well, or hold lines that fail; that
no line is looked at before all files are read is what keeps them from showing.
-/

namespace TypeExpr

/-! ## Paths that lead to no text

The ways in which reading a path fails, without saying what the error is.
-/

/-- A path leads to no text: it cannot be followed, since nothing is there or for another reason, or
    it leads to a directory, or to a file whose bytes are not those of a text in UTF-8. -/
inductive Place.LeadsToNoText (here : Place) (path : String) : Prop where
  | unreachable {e} : here.follow path = .error e → LeadsToNoText here path
  | directory {p es} : here.follow path = .ok p → p.entry = .directory es → LeadsToNoText here path
  | notText {p bytes} : here.follow path = .ok p → p.entry = .file bytes →
      (∀ text : String, text.toUTF8 ≠ bytes) → LeadsToNoText here path

/-- Reading fails exactly where there is no text. -/
theorem Place.exists_read_eq_error_iff {here : Place} {path : String} :
    (∃ e, here.read path = .error e) ↔ here.LeadsToNoText path := by
  unfold read
  -- the path cannot be followed, or what it leads to cannot be read
  simp only [bind_eq_error_iff]
  constructor
  · rintro ⟨e, he | ⟨p, hp, he⟩⟩
    · exact .unreachable he
    · split at he
      · rename_i es hentry
        exact .directory hp hentry
      · rename_i bytes hentry
        split at he
        · rename_i hbytes
          exact .notText hp hentry (fromUTF8?_eq_none_iff.1 hbytes)
        · cases he
  · rintro (he | ⟨hp, hentry⟩ | ⟨hp, hentry, hbytes⟩)
    · exact ⟨_, Or.inl he⟩
    · exact ⟨.isADirectory, Or.inr ⟨_, hp, by rw [hentry]⟩⟩
    · refine ⟨.notText, Or.inr ⟨_, hp, ?_⟩⟩
      rw [hentry]
      simp only [fromUTF8?_eq_none_iff.2 hbytes]

namespace Command

/-! ## Reading one file

An error of reading is reported with the path it belongs to.
-/

/-- A file is complained about exactly if it cannot be read, with its path. -/
theorem inputText_eq_error_iff {here : Place} {path : String} {e : InputError} :
    inputText here path = .error e ↔ ∃ reason, here.read path = .error reason ∧
      e = .unreadable path reason := by
  unfold inputText
  cases here.read path <;> simp [eq_comm]

/-- The step of `gather` that reads a file fails as reading does. -/
theorem readStep_eq_error_iff {here : Place} {path : String} {e : InputError} :
    (do return (path, ← inputText here path) : Except InputError (String × String)) = .error e ↔
      ∃ reason, here.read path = .error reason ∧ e = .unreadable path reason := by
  rw [← inputText_eq_error_iff]
  cases inputText here path <;> simp [bind, Except.bind, pure, Except.pure]

/-- A file has been read exactly if its path leads to a text. -/
theorem exists_readStep_eq_ok_iff {here : Place} {path : String} :
    (∃ file, (do return (path, ← inputText here path) : Except InputError (String × String)) =
      .ok file) ↔ ∃ text, here.read path = .ok text := by
  unfold inputText
  cases here.read path <;> simp [bind, Except.bind, pure, Except.pure]

/-! ## Inputs of no use

A pattern is of no use if the search for it fails, finds nothing, fails in part, or finds something
that cannot be read.  How the search is made does not matter: all that is used is what it gives.
-/

section

variable [PathSearch]

/-- An input of no use: a path that leads to no text, or a pattern that is not well formed, for
    which nothing is found, a part of the tree could not be searched, or a path is found that leads
    to no text. -/
inductive Unusable (here : Place) (input : String) : Prop where
  | path : Files.isPattern input = false → here.LeadsToNoText input → Unusable here input
  | badPattern {reason} : Files.isPattern input = true →
      PathSearch.find here input = .error reason → Unusable here input
  | noMatch : Files.isPattern input = true → PathSearch.find here input = .ok [] →
      Unusable here input
  | unlisted {found reason} : Files.isPattern input = true →
      PathSearch.find here input = .ok found → .error reason ∈ found → Unusable here input
  | matched {found path} : Files.isPattern input = true →
      PathSearch.find here input = .ok found → .ok path ∈ found → here.LeadsToNoText path →
      Unusable here input

variable {here : Place} {inputs : List String}

/-- An input that is no pattern is a path by itself. -/
theorem inputPaths_of_literal {input : String} (h : Files.isPattern input = false) :
    inputPaths here input = .ok [input] := by
  rw [inputPaths, h]
  rfl

/-- Where something is found for a pattern, it is the paths, if nothing went wrong among it. -/
theorem inputPaths_of_found {input : String} {found : List (Except String String)}
    (hpattern : Files.isPattern input = true) (hfind : PathSearch.find here input = .ok found)
    (hne : found ≠ []) : inputPaths here input = (found.mapM id).mapError .unlisted := by
  cases found with
  | nil => exact absurd rfl hne
  | cons => simp only [inputPaths, hpattern, if_true, hfind]

/-- An input is of no use exactly if its files cannot be found or one of them cannot be read. -/
theorem unusable_iff {input : String} : Unusable here input ↔
    (∃ e, inputPaths here input = .error e) ∨
      ∃ paths, inputPaths here input = .ok paths ∧ ∃ path ∈ paths, here.LeadsToNoText path := by
  constructor
  · rintro (⟨hpath, h⟩ | ⟨hpattern, he⟩ | ⟨hpattern, hnone⟩ | ⟨hpattern, hfind, hmem⟩ |
      ⟨hpattern, hfind, hmem, h⟩)
    · exact Or.inr ⟨[input], inputPaths_of_literal hpath, input, by simp, h⟩
    · exact Or.inl ⟨_, by rw [inputPaths, if_pos hpattern, he]⟩
    · exact Or.inl ⟨_, by rw [inputPaths, if_pos hpattern, hnone]⟩
    · rename_i found reason
      rw [inputPaths_of_found hpattern hfind (List.ne_nil_of_mem hmem)]
      have hfails : ∃ e, found.mapM id = .error e :=
        exists_mapM_eq_error_iff.2 ⟨_, hmem, reason, rfl⟩
      obtain ⟨e, he⟩ := hfails
      exact Or.inl ⟨.unlisted e, by rw [he]; rfl⟩
    · -- something else may have gone wrong before the path was found
      rename_i found path
      rw [inputPaths_of_found hpattern hfind (List.ne_nil_of_mem hmem)]
      cases hpaths : found.mapM id with
      | error e => exact Or.inl ⟨.unlisted e, rfl⟩
      | ok paths =>
        obtain ⟨path', hpath', ⟨⟩⟩ := exists_of_forall₂_left (mapM_eq_ok_iff.1 hpaths) hmem
        exact Or.inr ⟨paths, rfl, path, hpath', h⟩
  · intro h
    cases hpattern : Files.isPattern input with
    | false =>
      rw [inputPaths_of_literal hpattern] at h
      obtain ⟨e, ⟨⟩⟩ | ⟨_, ⟨⟩, path, hmem, hread⟩ := h
      rw [List.mem_singleton.1 hmem] at hread
      exact .path hpattern hread
    | true =>
      cases hfind : PathSearch.find here input with
      | error reason => exact .badPattern hpattern hfind
      | ok found =>
        by_cases hne : found = []
        · exact .noMatch hpattern (hne ▸ hfind)
        · rw [inputPaths_of_found hpattern hfind hne] at h
          cases hpaths : found.mapM id with
          | error reason =>
            obtain ⟨x, hmem, e, hx⟩ := exists_mapM_eq_error_iff.1 ⟨reason, hpaths⟩
            exact .unlisted hpattern hfind ((show x = Except.error e from hx) ▸ hmem)
          | ok paths =>
            rw [hpaths] at h
            obtain ⟨e, ⟨⟩⟩ | ⟨_, ⟨⟩, path, hmem, hread⟩ := h
            obtain ⟨x, hx, hpath⟩ := exists_of_forall₂_right (mapM_eq_ok_iff.1 hpaths) hmem
            exact .matched hpattern hfind ((show x = Except.ok path from hpath) ▸ hx) hread

/-! ## What a check is refused for

First all inputs are searched for, in their order, and then all that has been found is read, in its
order.  Nothing is written before both are over.
-/

/-- The error that a check is refused for: that of the first input whose files cannot be found, or,
    if all can be, that of the first file that cannot be read. -/
inductive RefusedFor (here : Place) (inputs : List String) : InputError → Prop where
  | find {front input back e} : inputs = front ++ input :: back →
      (∀ i ∈ front, ∃ paths, inputPaths here i = .ok paths) → inputPaths here input = .error e →
      RefusedFor here inputs e
  | read {found front path back e} :
      List.Forall₂ (fun input paths => inputPaths here input = .ok paths) inputs found →
      found.flatten = front ++ path :: back → (∀ p ∈ front, ∃ text, here.read p = .ok text) →
      here.read path = .error e → RefusedFor here inputs (.unreadable path e)

/-- Files are not gathered exactly if the check is refused, and for the same error. -/
theorem gather_eq_error_iff {e : InputError} :
    gather (inputPaths here) (inputText here) inputs = .error e ↔ RefusedFor here inputs e := by
  rw [gather, bind_eq_error_iff]
  simp only [mapM_eq_error_iff, mapM_eq_ok_iff, exists_readStep_eq_ok_iff, readStep_eq_error_iff]
  constructor
  · rintro (⟨front, input, back, h, hfront, he⟩ |
      ⟨found, hfound, front, path, back, h, hfront, reason, hread, rfl⟩)
    · exact .find h hfront he
    · exact .read hfound h hfront hread
  · rintro (⟨h, hfront, he⟩ | ⟨hfound, h, hfront, hread⟩)
    · exact Or.inl ⟨_, _, _, h, hfront, he⟩
    · exact Or.inr ⟨_, hfound, _, _, _, h, hfront, _, hread, rfl⟩

/-- A check is refused exactly if one of its inputs is of no use. -/
theorem exists_refusedFor_iff :
    (∃ e, RefusedFor here inputs e) ↔ ∃ input ∈ inputs, Unusable here input := by
  simp only [unusable_iff]
  constructor
  · rintro ⟨_, ⟨rfl, -, he⟩ | ⟨hfound, h, -, hread⟩⟩
    · exact ⟨_, by simp, Or.inl ⟨_, he⟩⟩
    · rename_i found front path back e
      obtain ⟨paths, hpaths, hpath⟩ := List.mem_flatten.1 (h ▸ by simp : path ∈ found.flatten)
      obtain ⟨input, hinput, hfind⟩ := exists_of_forall₂_right hfound hpaths
      exact ⟨input, hinput, Or.inr ⟨paths, hfind, path, hpath,
        Place.exists_read_eq_error_iff.1 ⟨e, hread⟩⟩⟩
  · rintro ⟨input, hinput, h⟩
    cases hfound : inputs.mapM (inputPaths here) with
    | error e =>
      obtain ⟨front, i, back, hsplit, hfront, he⟩ := mapM_eq_error_iff.1 hfound
      exact ⟨e, .find hsplit hfront he⟩
    | ok found =>
      -- every input is found, so that a file of this one cannot be read
      rw [mapM_eq_ok_iff] at hfound
      obtain ⟨paths, hpaths, hfind⟩ := exists_of_forall₂_left hfound hinput
      rcases h with ⟨e, he⟩ | ⟨paths', hfind', path, hpath, hread⟩
      · rw [hfind] at he
        cases he
      · rw [hfind, Except.ok.injEq] at hfind'
        subst hfind'
        have hmem : path ∈ found.flatten := List.mem_flatten.2 ⟨paths, hpaths, hpath⟩
        have hfails : ∃ e, found.flatten.mapM here.read = .error e :=
          exists_mapM_eq_error_iff.2 ⟨path, hmem, Place.exists_read_eq_error_iff.2 hread⟩
        obtain ⟨e, he⟩ := hfails
        obtain ⟨front, p, back, hsplit, hfront, hp⟩ := mapM_eq_error_iff.1 he
        exact ⟨_, .read hfound hsplit hfront hp⟩

/-- What a refused check leaves behind is the error that it is refused for. -/
theorem RefusedFor.check_eq [PatternLanguage] {e : InputError} (h : RefusedFor here inputs e) :
    check here inputs = ⟨"", "error: " ++ e.message ++ "\n", .failure⟩ := by
  rw [check, gather_eq_error_iff.2 h]
  rfl

/-- **All or nothing**: if one of the inputs is of no use, at any position and whatever the other
    ones are and hold, a check writes nothing and fails, and says what it is refused for. -/
theorem check_of_unusable [PatternLanguage] (here : Place) (inputs : List String)
    (h : ∃ input ∈ inputs, Unusable here input) :
    (check here inputs).output = "" ∧ (check here inputs).status = 1 ∧
      ∃ e, RefusedFor here inputs e ∧
        (check here inputs).complaints = "error: " ++ e.message ++ "\n" := by
  obtain ⟨e, he⟩ := exists_refusedFor_iff.2 h
  rw [he.check_eq]
  exact ⟨rfl, rfl, e, he, rfl⟩

end

/-- A directory with a file in which a line fails, and a file that is no text. -/
def damaged : Place :=
  ⟨.directory [("bytes", .file ⟨#[0x61, 0xff]⟩), ("specs", .file "Foo[1\nString".toUTF8)], []⟩

open scoped Program in
/-- Nothing is said of the line that fails, before or behind a file that is no text, one that is
    missing or a pattern that no path matches. -/
theorem check_of_unusable_between :
    ((check damaged ["specs", "bytes", "specs"]).output = "" ∧
      (check damaged ["specs", "bytes", "specs"]).status = 1) ∧
    ((check damaged ["specs", "missing", "specs"]).output = "" ∧
      (check damaged ["specs", "missing", "specs"]).status = 1) ∧
    ((check damaged ["specs", "x*", "specs"]).output = "" ∧
      (check damaged ["specs", "x*", "specs"]).status = 1) := by
  have hbytes : Unusable damaged "bytes" :=
    .path (by decide) (Place.exists_read_eq_error_iff.1 ⟨.notText, by rfl⟩)
  have hmissing : Unusable damaged "missing" :=
    .path (by decide) (.unreachable (show damaged.follow "missing" = .error .missing by rfl))
  have hpattern : Files.Pattern.ofText "x*" =
      .ok ⟨false, [.wild [.exactly 'x', .anyChars]], false⟩ := by
    decide +kernel
  have hnoMatch : Unusable damaged "x*" := .noMatch (by decide) (Program.find_of_ofText hpattern)
  obtain ⟨hout, hstatus, -⟩ :=
    check_of_unusable damaged ["specs", "bytes", "specs"] ⟨"bytes", by simp, hbytes⟩
  obtain ⟨hout', hstatus', -⟩ :=
    check_of_unusable damaged ["specs", "missing", "specs"] ⟨"missing", by simp, hmissing⟩
  obtain ⟨hout'', hstatus'', -⟩ :=
    check_of_unusable damaged ["specs", "x*", "specs"] ⟨"x*", by simp, hnoMatch⟩
  exact ⟨⟨hout, hstatus⟩, ⟨hout', hstatus'⟩, ⟨hout'', hstatus''⟩⟩

/-- A check that is not refused writes a summary at least. -/
theorem output_checkTexts_ne_empty [PatternLanguage] (files : List (String × String)) :
    (checkTexts files).output ≠ "" := by
  intro h
  simp [checkTexts, checkLines, summary] at h

/-- A check writes nothing only if one of its inputs is of no use. -/
theorem check_output_eq_empty_iff [PatternLanguage] [PathSearch] {here : Place}
    {inputs : List String} :
    (check here inputs).output = "" ↔ ∃ input ∈ inputs, Unusable here input := by
  rw [← exists_refusedFor_iff]
  constructor
  · intro h
    cases hfiles : gather (inputPaths here) (inputText here) inputs with
    | error e => exact ⟨e, gather_eq_error_iff.1 hfiles⟩
    | ok files =>
      rw [check, hfiles] at h
      exact absurd h (output_checkTexts_ne_empty files)
  · rintro ⟨e, he⟩
    rw [he.check_eq]

end Command

end TypeExpr
