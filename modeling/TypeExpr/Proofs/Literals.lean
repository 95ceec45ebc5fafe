import Mathlib.Algebra.Ring.Parity
import Mathlib.Order.WellFounded
import TypeExpr.Proofs.Progress
import TypeExpr.Proofs.Subterms
import TypeExpr.Regex.Check

/-!
# Where literals end

A literal is scanned from its opening mark on, and every backslash takes the next character along.
What that comes to can be seen at any one place without scanning: a character is not taken along
exactly if the backslashes right before it are even in number (`Bare`).  So a literal ends at the
first bare mark, and a pattern only if no bare line feed stands before that (`Delimiter.Closes`).
That is just what the scan finds (`Delimiter.close?_eq_some_iff`).

From this follows what is read at each of the three marks (`Cursor.literals_end`).  It also follows
where a pattern can have a line feed in it: behind a backslash, and nowhere else
(`lineFeed_of_regex`).

The scan goes from left to right and takes pairs; the law looks back from one place and counts.
What joins them is how both change when something is put in front.  A character that is no backslash
moves every bare place by one (`bare_cons_iff`), and a backslash with the character behind it moves
it by two and does nothing else, since it changes the count in front of a place by two or not at all
(`even_backslashesAtEnd_pair`, `bare_pair_iff`).  With that, `Delimiter.close?_eq_some_iff` is an
induction along the scan, and the three kinds of literals are one.

Whether what stands between two slashes can be used as a pattern is asked only after its end has
been found; nothing here depends on what the answer is.
-/

namespace TypeExpr

open Text (byteLength)

/-! ## Backslashes

Going from the front, a backslash and the character behind it are passed together.  Looking back
from a place, the backslashes right before it are counted.  These lemmas say that passing a
character, or a pair, changes the count in the right way.
-/

/-- How many backslashes stand at the end, one right behind another. -/
def backslashesAtEnd (cs : List Char) : Nat := (cs.reverse.takeWhile (· == '\\')).length

/-- The character comes right behind `before` in the text, and the backslashes before it take each
    other along, but not the character. -/
def Bare (x : Char) (before cs : List Char) : Prop :=
  before ++ [x] <+: cs ∧ Even (backslashesAtEnd before)

/-- A character in front that is no backslash adds none to those at the end. -/
theorem backslashesAtEnd_cons {c : Char} (hc : c ≠ '\\') (cs : List Char) :
    backslashesAtEnd (c :: cs) = backslashesAtEnd cs := by
  have hstop : [c].takeWhile (· == '\\') = [] := by simp [hc]
  simp only [backslashesAtEnd, List.reverse_cons, List.takeWhile_append, hstop, List.append_nil]
  split
  · rename_i hall
    rw [hall]
  · rfl

/-- A backslash and the character behind it, even if that is a backslash, leave the parity as it
    was. -/
theorem even_backslashesAtEnd_pair (e : Char) (cs : List Char) :
    Even (backslashesAtEnd ('\\' :: e :: cs)) ↔ Even (backslashesAtEnd cs) := by
  have hreverse : ('\\' :: e :: cs).reverse = cs.reverse ++ [e, '\\'] := by simp
  simp only [backslashesAtEnd, hreverse, List.takeWhile_append]
  split
  · rename_i hall
    by_cases he : e = '\\'
    · simp [he, hall, Nat.even_add]
    · simp [he, hall]
  · rfl

section Bare

variable {x c e : Char} {before cs : List Char}

theorem bare_cons_self : Bare c [] (c :: cs) := ⟨⟨cs, rfl⟩, by simp [backslashesAtEnd]⟩

theorem not_bare_nil : ¬Bare x before [] := by
  rintro ⟨h, -⟩
  simp at h

/-- Behind a character that is taken by itself. -/
theorem bare_cons_iff (hx : x ≠ c) (hc : c ≠ '\\') :
    Bare x before (c :: cs) ↔ ∃ before', before = c :: before' ∧ Bare x before' cs := by
  cases before with
  | nil => simp [Bare, hx]
  | cons y before =>
    simp only [Bare, List.cons_append, List.cons_prefix_cons, List.cons.injEq]
    constructor
    · rintro ⟨⟨rfl, h⟩, heven⟩
      rw [backslashesAtEnd_cons hc] at heven
      exact ⟨before, ⟨rfl, rfl⟩, h, heven⟩
    · rintro ⟨_, ⟨rfl, rfl⟩, h, heven⟩
      rw [backslashesAtEnd_cons hc]
      exact ⟨⟨rfl, h⟩, heven⟩

/-- Behind a backslash and the character that it takes along. -/
theorem bare_pair_iff (hx : x ≠ '\\') : Bare x before ('\\' :: e :: cs) ↔
    ∃ before', before = '\\' :: e :: before' ∧ Bare x before' cs := by
  rcases before with _ | ⟨y, _ | ⟨z, before⟩⟩
  · simp [Bare, hx]
  · -- the character that is taken along is not bare
    refine iff_of_false ?_ (by simp)
    rintro ⟨h, heven⟩
    rw [List.cons_append, List.cons_prefix_cons] at h
    rw [h.1] at heven
    exact absurd heven (by decide)
  · simp only [Bare, List.cons_append, List.cons_prefix_cons, List.cons.injEq]
    constructor
    · rintro ⟨⟨rfl, rfl, h⟩, heven⟩
      exact ⟨before, ⟨rfl, rfl, rfl⟩, h, (even_backslashesAtEnd_pair z before).1 heven⟩
    · rintro ⟨_, ⟨rfl, rfl, rfl⟩, h, heven⟩
      exact ⟨⟨rfl, rfl, h⟩, (even_backslashesAtEnd_pair z before).2 heven⟩

end Bare

/-! ## The first bare mark

What the end of a literal is, without a scan, and that the scan finds it.  The scan stops at a mark,
and in a pattern at a line feed too; everything else it passes over one character or one pair at a
time.
-/

namespace Delimiter

/-- The search for the end of a literal stops at this character, if it is bare. -/
def Stops (d : Delimiter) (c : Char) : Prop := c = d.mark ∨ (d.oneLine = true ∧ c = '\n')

/-- The literal that a mark opens in front of `cs` has this inside and this behind it: a bare mark
    stands there, and nothing that the search stops at stands bare before. -/
structure Closes (d : Delimiter) (cs inside rest : List Char) : Prop where
  text : cs = inside ++ d.mark :: rest
  even : Even (backslashesAtEnd inside)
  first : ∀ c before, d.Stops c → Bare c before cs → inside.length ≤ before.length

/-- The inside of a literal with each backslash and the character behind it replaced by what they
    stand for. -/
def contents (d : Delimiter) : List Char → List Char
  | [] => []
  | [c] => [c]
  | c :: e :: cs => if c = '\\' then d.unescape e ++ d.contents cs else c :: d.contents (e :: cs)

/-- Neither a backslash nor a line feed is a mark. -/
structure Lawful (d : Delimiter) : Prop where
  ne_backslash : d.mark ≠ '\\'
  ne_lineFeed : d.mark ≠ '\n'

/-- The marks of the three kinds of literals are neither backslashes nor line feeds. -/
theorem Opens.lawful [PatternLanguage] {d : Delimiter} {u : SyntaxError.Cause}
    {token : List Char → Except SyntaxError.Cause Token} (h : d.Opens u token) : d.Lawful := by
  cases h <;> exact ⟨by decide, by decide⟩

variable {d : Delimiter} {c : Char} {cs inside rest : List Char}

/-- Any other character than a backslash stands for itself. -/
theorem contents_cons (hc : c ≠ '\\') (cs : List Char) :
    d.contents (c :: cs) = c :: d.contents cs := by
  cases cs with
  | nil => rfl
  | cons e cs => simp [contents, hc]

/-- A backslash and the character behind it stand for what the kind of literal says. -/
theorem contents_pair (e : Char) (cs : List Char) :
    d.contents ('\\' :: e :: cs) = d.unescape e ++ d.contents cs := by
  simp [contents]

theorem Stops.ne_backslash (hd : d.Lawful) (h : d.Stops c) : c ≠ '\\' := by
  rcases h with rfl | ⟨-, rfl⟩
  · exact hd.ne_backslash
  · decide

/-- The mark that closes a literal is bare. -/
theorem Closes.bare (h : d.Closes cs inside rest) : Bare d.mark inside cs :=
  ⟨⟨rest, by simp [h.text]⟩, h.even⟩

/-- Right behind the opening mark nothing is inside. -/
theorem closes_mark_iff : d.Closes (d.mark :: cs) inside rest ↔ inside = [] ∧ rest = cs := by
  constructor
  · intro h
    have hnil := List.eq_nil_of_length_eq_zero
      (Nat.le_zero.1 (h.first d.mark [] (Or.inl rfl) bare_cons_self))
    subst hnil
    exact ⟨rfl, (List.cons.inj h.text).2.symm⟩
  · rintro ⟨rfl, rfl⟩
    exact ⟨rfl, by simp [backslashesAtEnd], fun _ _ _ _ => Nat.zero_le _⟩

/-- What stands before anything bare is passed over. -/
theorem closes_append_iff {lead : List Char}
    (hbare : ∀ x before, d.Stops x → (Bare x before (lead ++ cs) ↔
      ∃ before', before = lead ++ before' ∧ Bare x before' cs)) :
    d.Closes (lead ++ cs) inside rest ↔
      ∃ inside', inside = lead ++ inside' ∧ d.Closes cs inside' rest := by
  -- The places behind `lead` are those of the rest, moved to the right; so the first mark is the
  -- same one.
  constructor
  · intro h
    obtain ⟨inside', rfl, hinside⟩ := (hbare d.mark inside (Or.inl rfl)).1 h.bare
    refine ⟨inside', rfl, ?_, hinside.2, fun c before hc hbefore => ?_⟩
    · have := h.text
      rwa [List.append_assoc, List.append_cancel_left_eq] at this
    · have := h.first c (lead ++ before) hc ((hbare c _ hc).2 ⟨before, rfl, hbefore⟩)
      simp only [List.length_append] at this
      omega
  · rintro ⟨inside', rfl, h⟩
    have hinside := (hbare d.mark _ (Or.inl rfl)).2 ⟨inside', rfl, h.bare⟩
    refine ⟨by rw [h.text, List.append_assoc], hinside.2, fun c before hc hbefore => ?_⟩
    obtain ⟨before', rfl, hbefore'⟩ := (hbare c before hc).1 hbefore
    have := h.first c before' hc hbefore'
    simp only [List.length_append]
    omega

/-- What the scan finds behind characters that it passes over. -/
theorem map_close?_eq_some_iff {lead value : List Char} {r : Closed}
    (hbare : ∀ x before, d.Stops x → (Bare x before (lead ++ cs) ↔
      ∃ before', before = lead ++ before' ∧ Bare x before' cs))
    (hvalue : ∀ inside, d.contents (lead ++ inside) = value ++ d.contents inside)
    (hclose : ∀ {r}, d.close? cs = some r ↔ ∃ inside rest, d.Closes cs inside rest ∧
      r = ⟨d.contents inside, inside ++ [d.mark], rest⟩) :
    (d.close? cs).map (.after value lead) = some r ↔
      ∃ inside rest, d.Closes (lead ++ cs) inside rest ∧
        r = ⟨d.contents inside, inside ++ [d.mark], rest⟩ := by
  simp only [Option.map_eq_some_iff, hclose, closes_append_iff hbare]
  constructor
  · rintro ⟨_, ⟨inside, rest, h, rfl⟩, rfl⟩
    exact ⟨lead ++ inside, rest, ⟨inside, rfl, h⟩, by simp [Closed.after, hvalue]⟩
  · rintro ⟨_, rest, ⟨inside, rfl, h⟩, rfl⟩
    exact ⟨_, ⟨inside, rest, h, rfl⟩, by simp [Closed.after, hvalue]⟩

/-- **Scan**: the scan finds the end of a literal where it is, and its contents, and finds none if
    there is none. -/
theorem close?_eq_some_iff (hd : d.Lawful) {r : Closed} : d.close? cs = some r ↔
    ∃ inside rest, d.Closes cs inside rest ∧
      r = ⟨d.contents inside, inside ++ [d.mark], rest⟩ := by
  have hmark {cs : List Char} {r : Closed} : some (⟨[], [d.mark], cs⟩ : Closed) = some r ↔
      ∃ inside rest, d.Closes (d.mark :: cs) inside rest ∧
        r = ⟨d.contents inside, inside ++ [d.mark], rest⟩ := by
    simp only [Option.some.injEq, closes_mark_iff]
    constructor
    · rintro rfl
      exact ⟨[], cs, ⟨rfl, rfl⟩, rfl⟩
    · rintro ⟨_, _, ⟨rfl, rfl⟩, rfl⟩
      rfl
  fun_induction close? d cs generalizing r with
  | case1 =>
    refine iff_of_false (Option.some_ne_none r).symm ?_
    rintro ⟨inside, rest, h, -⟩
    exact not_bare_nil h.bare
  | case2 => exact hmark
  | case3 c hc =>
    refine iff_of_false (Option.some_ne_none r).symm ?_
    rintro ⟨inside, rest, h, -⟩
    have := h.text
    cases inside with
    | nil => exact hc (List.cons.inj this).1
    | cons y inside => simp at this
  | case4 e cs => exact hmark
  | case5 e cs _ ih =>
    exact map_close?_eq_some_iff (fun x before hx => bare_pair_iff (hx.ne_backslash hd))
      (contents_pair e) ih
  | case6 c e cs _ _ hline =>
    -- the bare line feed comes first
    refine iff_of_false (Option.some_ne_none r).symm ?_
    rintro ⟨inside, rest, h, -⟩
    have hfirst := h.first c [] (Or.inr hline) bare_cons_self
    have hnil := List.eq_nil_of_length_eq_zero (Nat.le_zero.1 hfirst)
    have htext := h.text
    rw [hnil] at htext
    exact hd.ne_lineFeed ((List.cons.inj htext).1.symm.trans hline.2)
  | case7 c e cs hc hback hline ih =>
    have hne (x : Char) (hx : d.Stops x) : x ≠ c := by
      rintro rfl
      exact hx.elim hc hline
    exact map_close?_eq_some_iff (fun x before hx => bare_cons_iff (hne x hx) hback)
      (contents_cons hback) ih

/-- A literal ends as soon as there is a bare mark, on the same line if it has to. -/
theorem exists_closes_iff : (∃ inside rest, d.Closes cs inside rest) ↔
    ∃ before, Bare d.mark before cs ∧
      (d.oneLine = true → ∀ line, Bare '\n' line cs → before.length ≤ line.length) := by
  constructor
  · rintro ⟨inside, rest, h⟩
    exact ⟨inside, h.bare, fun hline before => h.first '\n' before (Or.inr ⟨hline, rfl⟩)⟩
  · rintro ⟨before, hbefore, hline⟩
    obtain ⟨inside, ⟨⟨rest, htext⟩, heven⟩, hfirst⟩ :=
      (measure List.length).wf.has_min {before | Bare d.mark before cs} ⟨before, hbefore⟩
    refine ⟨inside, rest, by simp [← htext], heven, fun c b hc hb => ?_⟩
    rcases hc with rfl | ⟨honeLine, rfl⟩
    · exact Nat.le_of_not_lt (hfirst b hb)
    · exact (Nat.le_of_not_lt (hfirst before hbefore)).trans (hline honeLine b hb)

end Delimiter

/-! ## What is read at a mark

The end of the literal decides between a token and an error, and what stands inside is only looked
at afterwards.
-/

namespace Delimiter.Opens

variable {d : Delimiter} {u : SyntaxError.Cause}
  {token : List Char → Except SyntaxError.Cause Token} {cs inside rest : List Char}

/-- The next token is read right at the mark. -/
theorem next_eq_read [PatternLanguage] (h : d.Opens u token) (offset : Nat) (cs : List Char) :
    (Cursor.mk offset (d.mark :: cs)).next = (Cursor.mk offset (d.mark :: cs)).read := by
  cases h <;> exact Cursor.next_eq_read (by decide) (by decide) offset cs

/-- A literal that is closed is read up to its closing mark, which counts; it is a token, or the
    error that its contents are. -/
theorem next_of_closes [PatternLanguage] (h : d.Opens u token) (hcloses : d.Closes cs inside rest)
    (offset : Nat) : (Cursor.mk offset (d.mark :: cs)).next =
      (match token (d.contents inside) with
        | .ok t => .ok (some ⟨t, ⟨offset, offset + byteLength (d.mark :: inside ++ [d.mark])⟩⟩)
        | .error cause =>
          .error ⟨cause, ⟨offset, offset + byteLength (d.mark :: inside ++ [d.mark])⟩⟩,
      ⟨offset + byteLength (d.mark :: inside ++ [d.mark]), rest⟩) := by
  have hclose := (close?_eq_some_iff h.lawful).2 ⟨inside, rest, hcloses, rfl⟩
  rw [h.next_eq_read]
  simp only [Cursor.read, h.readToken_eq, readDelimited, hclose]
  cases token (d.contents inside) <;> rfl

/-- A literal that is not closed is blamed on everything from its opening mark on. -/
theorem next_of_not_closes [PatternLanguage] (h : d.Opens u token)
    (hnone : ∀ inside rest, ¬d.Closes cs inside rest)
    (offset : Nat) : (Cursor.mk offset (d.mark :: cs)).next.1 =
      .error ⟨u, ⟨offset, offset + byteLength (d.mark :: cs)⟩⟩ := by
  have hclose : d.close? cs = none := by
    refine Option.eq_none_iff_forall_not_mem.2 fun r hr => ?_
    obtain ⟨inside, rest, hcloses, -⟩ := (close?_eq_some_iff h.lawful).1 hr
    exact hnone inside rest hcloses
  rw [h.next_eq_read]
  simp only [Cursor.read, h.readToken_eq, readDelimited, hclose]

end Delimiter.Opens

/-- The inside of a pattern with every slash that a backslash takes along instead of the two. -/
def unescapeSlashes : List Char → List Char
  | '\\' :: '/' :: cs => '/' :: unescapeSlashes cs
  | '\\' :: c :: cs => '\\' :: c :: unescapeSlashes cs
  | c :: cs => c :: unescapeSlashes cs
  | [] => []

example : unescapeSlashes "a\\/\\\\/\\d".toList = "a/\\\\/\\d".toList := by decide

/-- Between slashes, escapes of slashes are undone and the other pairs are kept. -/
theorem contents_slash (cs : List Char) : Delimiter.slash.contents cs = unescapeSlashes cs := by
  fun_induction unescapeSlashes cs with
  | case1 cs ih => rw [Delimiter.contents_pair, ih]; rfl
  | case2 c cs hc ih =>
    have hkept : Delimiter.slash.unescape c = ['\\', c] := if_neg hc
    rw [Delimiter.contents_pair, ih, hkept]
    rfl
  | case3 c cs _ hpair ih =>
    by_cases hc : c = '\\'
    · -- a backslash with nothing behind it
      cases cs with
      | nil => rfl
      | cons e cs => exact (hpair e cs hc rfl).elim
    · rw [Delimiter.contents_cons hc, ih]
  | case4 => rfl

namespace Cursor

variable [PatternLanguage]

/-- At a mark that opens a string a token is read exactly if the mark stands bare behind it.  Then
    the token ends with the first such mark.  If there is none, the error is blamed on everything
    from the opening mark on. -/
structure ReadsStrings (d : Delimiter) : Prop where
  closed_iff : ∀ offset cs,
    (∃ l c, (Cursor.mk offset (d.mark :: cs)).next = (.ok (some l), c)) ↔
      ∃ before, Bare d.mark before cs
  closed : ∀ offset cs inside rest, d.Closes cs inside rest →
    (Cursor.mk offset (d.mark :: cs)).next =
      (.ok (some ⟨.string (String.ofList (d.contents inside)),
        ⟨offset, offset + byteLength (d.mark :: inside ++ [d.mark])⟩⟩),
      ⟨offset + byteLength (d.mark :: inside ++ [d.mark]), rest⟩)
  unterminated : ∀ offset cs, (∀ before, ¬Bare d.mark before cs) →
    (Cursor.mk offset (d.mark :: cs)).next.1 =
      .error ⟨.unterminatedString, ⟨offset, offset + byteLength (d.mark :: cs)⟩⟩

/-- Both kinds of strings are read in this way: what is inside never makes an error. -/
theorem readsStrings {d : Delimiter} (h : d.Opens .unterminatedString stringToken)
    (hline : d.oneLine = false) : ReadsStrings d := by
  have hunterminated (offset : Nat) (cs : List Char) (hnone : ∀ before, ¬Bare d.mark before cs) :=
    h.next_of_not_closes (fun inside _ hcloses => hnone inside hcloses.bare) offset
  refine ⟨fun offset cs => ⟨?_, ?_⟩, fun offset cs inside rest hcloses => ?_, hunterminated⟩
  · rintro ⟨l, c, hnext⟩
    -- without a bare mark the literal would not be closed, and the reading would fail
    by_contra hnone
    rw [Prod.ext_iff, hunterminated offset cs (not_exists.1 hnone)] at hnext
    cases hnext.1
  · rintro ⟨before, hbefore⟩
    obtain ⟨inside, rest, hcloses⟩ :=
      Delimiter.exists_closes_iff.2 ⟨before, hbefore, by simp [hline]⟩
    exact ⟨_, _, h.next_of_closes hcloses offset⟩
  · exact h.next_of_closes hcloses offset

/-- A pattern ends with the first bare slash, if that comes before every bare line feed.  If it can
    be used as a pattern, it is read as what is inside without the escapes of slashes; if it cannot,
    the error is blamed on all of it.  If there is no such slash, the error is blamed on everything
    from the opening slash on. -/
structure ReadsPatterns : Prop where
  closed_iff : ∀ cs, (∃ inside rest, Delimiter.slash.Closes cs inside rest) ↔
    ∃ before, Bare '/' before cs ∧ ∀ line, Bare '\n' line cs → before.length ≤ line.length
  closed : ∀ offset cs inside rest, Delimiter.slash.Closes cs inside rest →
    (Cursor.mk offset ('/' :: cs)).next =
      (if PatternLanguage.compiles (unescapeSlashes inside) then
        .ok (some ⟨.regex (String.ofList (unescapeSlashes inside)),
          ⟨offset, offset + byteLength ('/' :: inside ++ ['/'])⟩⟩)
      else .error ⟨.invalidRegex (String.ofList (unescapeSlashes inside)),
          ⟨offset, offset + byteLength ('/' :: inside ++ ['/'])⟩⟩,
      ⟨offset + byteLength ('/' :: inside ++ ['/']), rest⟩)
  unterminated : ∀ offset cs, (∀ inside rest, ¬Delimiter.slash.Closes cs inside rest) →
    (Cursor.mk offset ('/' :: cs)).next.1 =
      .error ⟨.unterminatedRegex, ⟨offset, offset + byteLength ('/' :: cs)⟩⟩

theorem readsPatterns : ReadsPatterns := by
  refine ⟨fun cs => ?_, fun offset cs inside rest hcloses => ?_, fun offset cs hnone => ?_⟩
  · have h := @Delimiter.exists_closes_iff .slash cs
    simpa [Delimiter.slash] using h
  · have hnext := Delimiter.Opens.slash.next_of_closes hcloses offset
    rw [contents_slash, regexToken] at hnext
    by_cases hcompiles : PatternLanguage.compiles (unescapeSlashes inside)
    · rw [if_pos hcompiles] at hnext ⊢
      exact hnext
    · rw [if_neg hcompiles] at hnext ⊢
      exact hnext
  · exact Delimiter.Opens.slash.next_of_not_closes hnone offset

/-- **Literals** end at the first bare mark: strings in apostrophes, strings in double quotes, and
    patterns. -/
theorem literals_end : ReadsStrings .apostrophe ∧ ReadsStrings .doubleQuote ∧ ReadsPatterns :=
  ⟨readsStrings .apostrophe rfl, readsStrings .doubleQuote rfl, readsPatterns⟩

end Cursor

/-! ## Line feeds in patterns

A line feed that is bare ends the search without a pattern; so one that stands in a pattern has been
taken along by a backslash, which is the last of an odd number of them.
-/

/-- To undo escapes of slashes takes backslashes away and nothing else. -/
theorem mem_unescapeSlashes_iff {x : Char} (hx : x ≠ '\\') (cs : List Char) :
    x ∈ unescapeSlashes cs ↔ x ∈ cs := by
  fun_induction unescapeSlashes cs <;> simp_all

/-- What stands at the end of a run of backslashes that is not empty. -/
theorem exists_of_odd_backslashesAtEnd {cs : List Char} (h : Odd (backslashesAtEnd cs)) :
    ∃ before, cs = before ++ ['\\'] := by
  rcases List.eq_nil_or_concat cs with rfl | ⟨before, c, rfl⟩
  · exact absurd h (by decide)
  · by_cases hc : c = '\\'
    · exact ⟨before, by simp [hc]⟩
    · have hnone : backslashesAtEnd (before ++ [c]) = 0 := by simp [backslashesAtEnd, hc]
      rw [List.concat_eq_append, hnone] at h
      exact absurd h (by decide)

/-- A line feed inside a pattern is taken along by a backslash. -/
theorem Delimiter.Closes.odd_of_lineFeed {cs inside rest before : List Char}
    (h : slash.Closes cs inside rest) (hbefore : before ++ ['\n'] <+: '/' :: inside ++ ['/']) :
    Odd (backslashesAtEnd before) := by
  cases before with
  | nil => simp at hbefore
  | cons c before =>
    rw [List.cons_append, List.cons_append, List.cons_prefix_cons] at hbefore
    obtain ⟨rfl, hbefore⟩ := hbefore
    rw [backslashesAtEnd_cons (by decide), ← Nat.not_even_iff_odd]
    intro heven
    -- it would stand bare, and the pattern would be closed before it
    have htext : cs = inside ++ ['/'] ++ rest := by simp [h.text, slash]
    have hbare : Bare '\n' before cs := ⟨htext ▸ hbefore.trans (List.prefix_append _ _), heven⟩
    have hlength := h.first '\n' before (Or.inr ⟨rfl, rfl⟩) hbare
    rcases List.prefix_concat_iff.1 hbefore with hall | hinside
    · have := congrArg List.getLast? hall
      simp at this
    · have := hinside.length_le
      simp only [List.length_append, List.length_singleton] at this
      omega

/-- What is read as a pattern stands between slashes. -/
theorem closes_of_readToken [PatternLanguage] {x : Char} {xs w rest : List Char} {pattern : String}
    (h : readToken x xs = .token (.regex pattern) w rest) :
    ∃ inside, Delimiter.slash.Closes xs inside rest ∧ w = '/' :: inside ++ ['/'] ∧
      pattern = String.ofList (unescapeSlashes inside) := by
  refine readToken_cases (P := fun _ cs r => r = .token (.regex pattern) w rest →
    ∃ inside, Delimiter.slash.Closes cs inside rest ∧ w = '/' :: inside ++ ['/'] ∧
      pattern = String.ofList (unescapeSlashes inside)) ?_ ?_ ?_ ?_ x xs h
  · -- a mark, a number or a word is no pattern
    rintro c t cs ⟨⟩ ⟨⟩
  · intro d u token cs hopens h
    cases hopens with
    | apostrophe | doubleQuote => obtain ⟨v, ⟨⟩⟩ := exists_of_readDelimited h
    | slash =>
      unfold readDelimited at h
      split at h
      · cases h
      · rename_i r hr
        obtain ⟨inside, rest', hcloses, rfl⟩ :=
          (Delimiter.close?_eq_some_iff Delimiter.Opens.slash.lawful).1 hr
        simp only [regexToken, contents_slash] at h
        split at h
        · rename_i t ht
          cases h
          split at ht
          · cases ht
            exact ⟨inside, hcloses, rfl, rfl⟩
          · cases ht
        · cases h
  · intro c cs h
    obtain ⟨negative, n, -, -, ht⟩ :=
      exists_numeral_of_readNumber (Reading.closed_eq_token_iff.1 h).1
    rcases Numeral.cases_of_token ht with ⟨i, ⟨⟩⟩ | ⟨x, -, ⟨⟩⟩
  · intro c cs h
    rcases isWord_of_readWord (Reading.closed_eq_token_iff.1 h).1 with ⟨-, ⟨⟩⟩ | ⟨-, ⟨⟩⟩

/-- **Line feeds**: whatever was read before, a pattern has a line feed in it only where an odd
    number of backslashes stands before it.  So it has none exactly if no backslash in it stands
    right before one, and the text that it is read as has one exactly if it has. -/
theorem lineFeed_of_regex [PatternLanguage] (text : String) (n : Nat) (l : Lexeme)
    (pattern : String)
    (hl : .ok (some l) ∈ Cursor.readings n ⟨0, text.toList⟩) (hpattern : l.token = .regex pattern) :
    (∀ before, before ++ ['\n'] <+: Text.slice text.toList l.span →
      Odd (backslashesAtEnd before)) ∧
    ('\n' ∉ Text.slice text.toList l.span ↔
      ¬['\\', '\n'] <:+: Text.slice text.toList l.span) ∧
    ('\n' ∈ pattern.toList ↔ '\n' ∈ Text.slice text.toList l.span) := by
  rw [Cursor.readings_eq_map, List.mem_map] at hl
  obtain ⟨i, -, hi⟩ := hl
  obtain ⟨taken, hpasses⟩ := (Cursor.mk 0 text.toList).exists_passes_after i
  obtain ⟨gap, x, xs, w, rest, hrest, hread, hspan⟩ := Cursor.exists_readToken_of_next hi
  rw [hpattern] at hread
  obtain ⟨inside, hcloses, rfl, rfl⟩ := closes_of_readToken hread
  -- wherever the pattern was found, its span covers the literal and nothing else
  have hslice : Text.slice text.toList l.span = '/' :: inside ++ ['/'] := by
    have htext : text.toList = (taken ++ gap) ++ ('/' :: inside ++ ['/']) ++ rest := by
      rw [show text.toList = taken ++ _ from hpasses.rest, hrest]
      simp
    have hcovers : l.span =
        ⟨byteLength (taken ++ gap), byteLength (taken ++ gap ++ ('/' :: inside ++ ['/']))⟩ := by
      rw [hspan, hpasses.offset]
      simp
    rw [htext, hcovers, Text.slice_append]
  have hodd (before : List Char) (hbefore : before ++ ['\n'] <+: '/' :: inside ++ ['/']) :
      Odd (backslashesAtEnd before) := hcloses.odd_of_lineFeed hbefore
  rw [hslice]
  refine ⟨hodd, not_congr ⟨fun h => ?_, fun h => h.subset (by simp)⟩, ?_⟩
  · obtain ⟨before, after, hliteral⟩ := List.append_of_mem h
    obtain ⟨before, rfl⟩ := exists_of_odd_backslashesAtEnd (hodd before ⟨after, by simp [hliteral]⟩)
    exact ⟨before, after, by simp [hliteral]⟩
  · simp [mem_unescapeSlashes_iff]

open scoped Program in
/-- Behind a string that is not closed a pattern is read, and it goes on on the next line. -/
theorem lineFeed_of_regex_behind_error :
    .ok (some ⟨.regex "é\\\n+", ⟨2, 9⟩⟩) ∈ Cursor.readings 2 ⟨0, "' /é\\\n+/".toList⟩ ∧
    (∀ before, before ++ ['\n'] <+: Text.slice "' /é\\\n+/".toList ⟨2, 9⟩ →
      Odd (backslashesAtEnd before)) ∧
    ('\n' ∉ Text.slice "' /é\\\n+/".toList ⟨2, 9⟩ ↔
      ¬['\\', '\n'] <:+: Text.slice "' /é\\\n+/".toList ⟨2, 9⟩) ∧
    ('\n' ∈ "é\\\n+".toList ↔ '\n' ∈ Text.slice "' /é\\\n+/".toList ⟨2, 9⟩) := by
  have hread : .ok (some ⟨.regex "é\\\n+", ⟨2, 9⟩⟩) ∈
      Cursor.readings 2 ⟨0, "' /é\\\n+/".toList⟩ := by
    decide +kernel
  exact ⟨hread, lineFeed_of_regex _ 2 _ _ hread rfl⟩

open scoped Program in
/-- A text of two lines can be one pattern. -/
theorem exists_regex_with_lineFeed : ∃ l, tokenize "/a\\\nb/" = .ok [l] ∧
    l.token = .regex "a\\\nb" ∧ '\n' ∈ Text.slice "/a\\\nb/".toList l.span := by
  refine ⟨⟨.regex "a\\\nb", ⟨0, 6⟩⟩, ?_, rfl, by decide⟩
  decide +kernel

end TypeExpr
