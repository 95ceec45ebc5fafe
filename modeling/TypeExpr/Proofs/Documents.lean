import TypeExpr.DataType.Json
import TypeExpr.Proofs.Form
import TypeExpr.Proofs.Numerals

/-!
# Reading documents

A document on one line is read back from its text.  The reader below knows nothing of types: it
takes a string up to its closing quote, undoing the escapes, a list or an object up to its closing
bracket, and a number as far as there are characters of numbers.  Whatever stands behind a document,
as long as it does not go on with the number that a document may be, is left over
(`Document.Readable`).

The reader counts how deep it goes, so that it ends on every text; no document goes deeper than its
text is long.

What stands behind a part is what makes the induction work.  A part of a list has a comma or a
bracket behind it, a string its quote, and neither can go on a number; so "whatever stands behind"
can be said of parts and of the whole in the same words (`ReadsBack`), and lists and objects are one
lemma with two readers for their parts (`readParts?_parts`).

A string may look like the end of an object, or like anything else.  It cannot get out of its
quotes, because each of its characters is written so that it is read back as one character, in front
of anything (`readJson?_jsonChar`).

The writer puts a document on one line and leaves no blanks, and this is all that the reader
accepts.  It is no reader of JSON in general, and does not have to be one: for recovering a type
from what was written for it, any reader will do that accepts what is written.
-/

namespace TypeExpr

/-! ## Strings

The reader of strings looks at one character at a time, and at what stands behind a backslash.
-/

namespace Text

/-- The character that is meant by a letter behind a backslash. -/
def unescape? (c : Char) : Option Char :=
  if c = '"' ∨ c = '\\' then some c
  else if c = 'b' then some '\x08'
  else if c = 'f' then some '\x0c'
  else if c = 'n' then some '\n'
  else if c = 'r' then some '\r'
  else if c = 't' then some '\t'
  else none

/-- The characters of a JSON string up to its closing quote, and what follows that. -/
def readJson? : List Char → Option (List Char × List Char)
  | [] => none
  | '"' :: rest => some ([], rest)
  | '\\' :: 'u' :: x :: y :: z :: w :: rest =>
    (radixValue? 16 0 [x, y, z, w]).bind fun n =>
      (readJson? rest).map (Prod.map (Char.ofNat n :: ·) id)
  | '\\' :: e :: rest => (unescape? e).bind fun c => (readJson? rest).map (Prod.map (c :: ·) id)
  | c :: rest => (readJson? rest).map (Prod.map (c :: ·) id)

/-- A character below the blank that has no letter of its own is written as four digits. -/
theorem jsonChar_of_lt {c : Char} (h : c.toNat < 32)
    (hletter : c ≠ '\x08' ∧ c ≠ '\x0c' ∧ c ≠ '\n' ∧ c ≠ '\r' ∧ c ≠ '\t') :
    ∃ x y z w, jsonChar c = ['\\', 'u', x, y, z, w] ∧
      radixValue? 16 0 [x, y, z, w] = some c.toNat := by
  obtain ⟨h₁, h₂, h₃, h₄, h₅⟩ := hletter
  have hquote : ¬(c = '"' ∨ c = '\\') := by
    rintro (rfl | rfl) <;> exact absurd h (by decide)
  -- there are 32 of them, in two rows of sixteen
  have hdigit : ∀ n < 16, radixValue? 16 0 ['0', '0', '0', Nat.digitChar n] = some n ∧
      radixValue? 16 0 ['0', '0', '1', Nat.digitChar n] = some (16 + n) := by
    decide
  unfold jsonChar
  rw [if_neg hquote, if_neg h₁, if_neg h₂, if_neg h₃, if_neg h₄, if_neg h₅]
  by_cases hlow : c.toNat < 16
  · refine ⟨'0', '0', '0', Nat.digitChar c.toNat, ?_, (hdigit _ hlow).1⟩
    rw [if_pos hlow, hexDigits, Nat.toDigits_of_lt_base hlow]
    rfl
  · have hone : c.toNat / 16 = 1 := by omega
    have hvalue : 16 + c.toNat % 16 = c.toNat := by omega
    refine ⟨'0', '0', '1', Nat.digitChar (c.toNat % 16), ?_, ?_⟩
    · rw [if_neg hlow, if_pos h, hexDigits, Nat.toDigits_of_base_le (by decide) (by omega), hone]
      rfl
    · rw [(hdigit _ (Nat.mod_lt _ (by decide))).2, hvalue]

/-- A character is read back from its form. -/
theorem readJson?_jsonChar (c : Char) (rest : List Char) :
    readJson? (jsonChar c ++ rest) = (readJson? rest).map (Prod.map (c :: ·) id) := by
  by_cases hquote : c = '"' ∨ c = '\\'
  · rcases hquote with rfl | rfl <;> simp [jsonChar, readJson?, unescape?]
  -- the characters that have a letter of their own, those that are written as digits, and all
  -- others
  by_cases hletter : c = '\x08' ∨ c = '\x0c' ∨ c = '\n' ∨ c = '\r' ∨ c = '\t'
  · rcases hletter with rfl | rfl | rfl | rfl | rfl <;> simp [jsonChar, readJson?, unescape?]
  simp only [not_or] at hquote hletter
  by_cases hlow : c.toNat < 32
  · obtain ⟨x, y, z, w, hform, hvalue⟩ := jsonChar_of_lt hlow hletter
    simp [hform, readJson?, hvalue, Char.ofNat_toNat]
  · have hlow' : ¬c.toNat < 16 := by omega
    have hform : jsonChar c = [c] := by
      simp [jsonChar, hquote, hletter, hlow, hlow']
    simp [hform, readJson?, hquote]

/-- **Strings** are read back up to the closing quote, whatever is in them and behind them. -/
theorem readJson?_jsonText (s : String) (rest : List Char) :
    readJson? (s.toList.flatMap jsonChar ++ '"' :: rest) = some (s.toList, rest) := by
  generalize s.toList = cs
  induction cs with
  | nil => rfl
  | cons c cs ih =>
    rw [List.flatMap_cons, List.append_assoc, readJson?_jsonChar, ih]
    rfl

end Text

/-! ## Lists and objects

Both are parts with commas between them, and differ in what a part is and in the closing bracket.
The reader of parts is given how many of them there may be, so that it ends.
-/

/-- A character of a number. -/
def isNumeric (c : Char) : Bool :=
  isDigit c || c == '+' || c == '-' || c == '.' || c == 'e' || c == 'E'

/-- Nothing here goes on with a number that stands right before it. -/
def Stops (rest : List Char) : Prop := ∀ c ∈ rest.head?, isNumeric c = false

theorem stops_cons {c : Char} {cs : List Char} (h : isNumeric c = false) : Stops (c :: cs) := by
  rintro d ⟨⟩
  exact h

section Parts

variable {α : Type}

/-- One or more parts with commas between them, up to the closing bracket, and what follows that.
    There may be as many parts as the number says. -/
def readMany? (read? : List Char → Option (α × List Char)) (close : Char) :
    Nat → List Char → Option (List α × List Char)
  | 0, _ => none
  | n + 1, cs =>
    match read? cs with
    | none => none
    | some (_, []) => none
    | some (a, c :: rest) =>
      if c = close then some ([a], rest)
      else if c = ',' then (readMany? read? close n rest).map (Prod.map (a :: ·) id)
      else none

/-- Parts with commas between them, up to the closing bracket, and what follows that. -/
def readParts? (read? : List Char → Option (α × List Char)) (close : Char) (cs : List Char) :
    Option (List α × List Char) :=
  if cs.head? = some close then some ([], cs.tail) else readMany? read? close cs.length cs

variable {read? : List Char → Option (α × List Char)} {text : α → String} {close : Char}

/-- The part is read back from its text, whatever stands behind it. -/
def ReadsBack (read? : List Char → Option (α × List Char)) (text : α → String) (a : α) : Prop :=
  ∀ rest, Stops rest → read? ((text a).toList ++ rest) = some (a, rest)

/-- Parts with commas between them are read back one after another, if as many may be read as there
    are. -/
theorem readMany?_parts {a : α} {as : List α} {n : Nat} (hclose : isNumeric close = false)
    (hcomma : close ≠ ',') (h : ∀ b ∈ a :: as, ReadsBack read? text b) (hn : as.length < n)
    (rest : List Char) : readMany? read? close n
      ((text a).toList ++ (as.flatMap (fun b => ',' :: (text b).toList) ++ close :: rest)) =
      some (a :: as, rest) := by
  -- on the parts; each takes one off the number
  induction as generalizing a n with
  | nil =>
    obtain ⟨m, rfl⟩ := Nat.exists_eq_succ_of_ne_zero (Nat.ne_of_gt hn)
    have ha := h a List.mem_cons_self (close :: rest) (stops_cons hclose)
    rw [List.flatMap_nil, List.nil_append, readMany?, ha]
    simp
  | cons b bs ih =>
    obtain ⟨m, rfl⟩ := Nat.exists_eq_succ_of_ne_zero (Nat.ne_of_gt (Nat.zero_lt_of_lt hn))
    have ha := h a List.mem_cons_self
      (',' :: ((text b).toList ++ (bs.flatMap (fun b => ',' :: (text b).toList) ++ close :: rest)))
      (stops_cons (by decide))
    have hrest := ih (fun c hc => h c (List.mem_cons_of_mem a hc)) (n := m) (by
      simp only [List.length_cons] at hn
      omega)
    have htext : (b :: bs).flatMap (fun b => ',' :: (text b).toList) ++ close :: rest =
        ',' :: ((text b).toList ++ (bs.flatMap (fun b => ',' :: (text b).toList) ++
          close :: rest)) := by
      simp
    rw [htext, readMany?, ha]
    simp [hcomma.symm, hrest]

/-- Parts are read back up to the closing bracket; none of them begins with it, so an empty list can
    be told from the others.  As many parts may be read as there are characters, and the commas
    alone are more than enough. -/
theorem readParts?_parts {as : List α} (hclose : isNumeric close = false) (hcomma : close ≠ ',')
    (hhead : ∀ a ∈ as, ∃ c cs, (text a).toList = c :: cs ∧ c ≠ close)
    (h : ∀ a ∈ as, ReadsBack read? text a) (rest : List Char) :
    readParts? read? close ((",".intercalate (as.map text)).toList ++ close :: rest) =
      some (as, rest) := by
  cases as with
  | nil => simp [readParts?]
  | cons a as =>
    obtain ⟨c, cs, hc, hne⟩ := hhead a List.mem_cons_self
    have htext : (",".intercalate ((a :: as).map text)).toList ++ close :: rest =
        (text a).toList ++ (as.flatMap (fun b => ',' :: (text b).toList) ++ close :: rest) := by
      have hseparator : ",".toList = [','] := rfl
      rw [List.map_cons, toList_intercalate_cons, List.flatMap_map, hseparator, List.append_assoc]
      rfl
    have hopen : ¬((text a).toList ++ (as.flatMap (fun b => ',' :: (text b).toList) ++
        close :: rest)).head? = some close := by
      simp [hc, hne]
    have hlength : as.length < ((text a).toList ++
        (as.flatMap (fun b => ',' :: (text b).toList) ++ close :: rest)).length := by
      -- each part but the first has a comma in front of it
      have hcommas : as.length ≤ (as.flatMap fun b => ',' :: (text b).toList).length := by
        clear hhead h htext hopen
        induction as with
        | nil => exact Nat.le_refl 0
        | cons b bs ih =>
          simp only [List.flatMap_cons, List.length_append, List.length_cons]
          omega
      simp only [List.length_append, List.length_cons]
      omega
    rw [htext, readParts?, if_neg hopen]
    exact readMany?_parts hclose hcomma h hlength rest

end Parts

/-! ## Documents

The reader of documents is the reader of strings and that of parts, with itself for the parts, one
level deeper.
-/

namespace Document

/-- A field of an object, its value read as given. -/
def readField? (read? : List Char → Option (Document × List Char)) :
    List Char → Option ((String × Document) × List Char)
  | '"' :: cs =>
    match Text.readJson? cs with
    | some (name, ':' :: rest) => (read? rest).map (Prod.map (String.ofList name, ·) id)
    | _ => none
  | _ => none

/-- The document at the front of a text, if it goes no deeper than the number says, and what follows
    it. -/
def read? : Nat → List Char → Option (Document × List Char)
  | 0, _ => none
  | _ + 1, [] => none
  | depth + 1, c :: cs =>
    if c = '"' then (Text.readJson? cs).map (Prod.map (fun s => text (String.ofList s)) id)
    else if c = '[' then (readParts? (read? depth) ']' cs).map (Prod.map list id)
    else if c = '\x7b' then
      (readParts? (readField? (read? depth)) '\x7d' cs).map (Prod.map object id)
    else if c = 'n' then (cs.dropPrefix? ['u', 'l', 'l']).map (Prod.mk null)
    else if isNumeric c then
      some (number (String.ofList ((c :: cs).takeWhile isNumeric)), (c :: cs).dropWhile isNumeric)
    else none

/-- The document that is the whole text. -/
def ofText? (s : String) : Option Document :=
  match read? s.length s.toList with
  | some (d, []) => some d
  | _ => none

mutual

/-- The numbers of the document are made of characters of numbers. -/
def Legible : Document → Prop
  | null => True
  | number ds => IsRow isNumeric ds.toList
  | text _ => True
  | list items => LegibleAll items
  | object fields => LegibleFields fields

/-- The same of the items of a list. -/
def LegibleAll : List Document → Prop
  | [] => True
  | d :: ds => d.Legible ∧ LegibleAll ds

/-- The same of the fields of an object. -/
def LegibleFields : List (String × Document) → Prop
  | [] => True
  | (_, d) :: fs => d.Legible ∧ LegibleFields fs

end

theorem compactAll_eq_map (ds : List Document) : compactAll ds = ds.map compact := by
  induction ds with
  | nil => rfl
  | cons d ds ih => simp [compactAll, ih]

/-- The text of a field. -/
def fieldText (f : String × Document) : String := Text.jsonText f.1 ++ ":" ++ f.2.compact

/-- A field is its name in quotes, a colon and its value. -/
theorem toList_fieldText (f : String × Document) : (fieldText f).toList =
    '"' :: (f.1.toList.flatMap Text.jsonChar ++ '"' :: ':' :: f.2.compact.toList) := by
  simp [fieldText, Text.jsonText]

/-- The fields of an object are written as they are by themselves. -/
theorem compactFields_eq_map (fs : List (String × Document)) :
    compactFields fs = fs.map fieldText := by
  induction fs with
  | nil => rfl
  | cons f fs ih => simp [compactFields, fieldText, ih]

/-- A list is its items in brackets, with commas between them. -/
theorem toList_list (ds : List Document) : (list ds).compact.toList =
    '[' :: ((",".intercalate (ds.map compact)).toList ++ [']']) := by
  rw [compact, compactAll_eq_map]
  simp

/-- An object is its fields in braces, with commas between them. -/
theorem toList_object (fs : List (String × Document)) : (object fs).compact.toList =
    '\x7b' :: ((",".intercalate (fs.map fieldText)).toList ++ ['\x7d']) := by
  rw [compact, compactFields_eq_map]
  simp

/-- A text stands in quotes, and each of its characters is escaped by itself. -/
theorem toList_text (s : String) : (text s).compact.toList =
    '"' :: (s.toList.flatMap Text.jsonChar ++ ['"']) := by
  rw [compact, Text.jsonText, String.toList_ofList]

/-- No document begins like the end of a list. -/
theorem exists_cons_of_legible {d : Document} (h : d.Legible) :
    ∃ c cs, d.compact.toList = c :: cs ∧ c ≠ ']' := by
  cases d with
  | null => exact ⟨_, _, rfl, by decide⟩
  | number ds =>
    rw [Legible] at h
    obtain ⟨c, cs, hcs, hc⟩ := Numeral.exists_cons_of_isRow h
    refine ⟨c, cs, by rw [compact, hcs], ?_⟩
    rintro rfl
    exact absurd hc (by decide)
  | text s => exact ⟨'"', _, toList_text s, by decide⟩
  | list items => exact ⟨'[', _, toList_list items, by decide⟩
  | object fields => exact ⟨'\x7b', _, toList_object fields, by decide⟩

/-- The document is read back from its text wherever the reader may go deep enough. -/
def Readable (d : Document) : Prop :=
  ∀ depth, d.compact.toList.length ≤ depth → ReadsBack (read? depth) compact d

/-- If there is a character, the reader may go one deeper. -/
theorem exists_succ_of_length_le {c : Char} {cs : List Char} {depth : Nat}
    (h : (c :: cs).length ≤ depth) : ∃ m, depth = m + 1 ∧ cs.length ≤ m := by
  rw [List.length_cons] at h
  exact ⟨depth - 1, by omega, by omega⟩

/-- What stands behind a text in brackets or quotes stands behind the closing one. -/
theorem enclosed_append (opening closing : Char) (cs rest : List Char) :
    opening :: (cs ++ [closing]) ++ rest = opening :: (cs ++ closing :: rest) := by
  simp

/-- What is not there is read back from its word. -/
theorem readable_null : Readable null := by
  intro depth hdepth rest _
  have htext : null.compact.toList = ['n', 'u', 'l', 'l'] := rfl
  rw [htext] at hdepth ⊢
  obtain ⟨m, rfl, -⟩ := exists_succ_of_length_le hdepth
  simp [read?, List.dropPrefix?]

/-- A number is read back as far as there are characters of numbers. -/
theorem readable_number {ds : String} (h : IsRow isNumeric ds.toList) : Readable (number ds) := by
  intro depth hdepth rest hrest
  rw [compact] at hdepth ⊢
  have htake := takeWhile_append_stop h.2 hrest
  have hdrop := dropWhile_append_stop h.2 hrest
  have hds : String.ofList ds.toList = ds := String.ofList_toList
  obtain ⟨c, cs, hcs, hc⟩ := Numeral.exists_cons_of_isRow h
  rw [hcs] at hdepth htake hdrop hds ⊢
  obtain ⟨m, rfl, -⟩ := exists_succ_of_length_le hdepth
  -- no other kind of document begins like a number
  have hmark : c ≠ '"' ∧ c ≠ '[' ∧ c ≠ '\x7b' ∧ c ≠ 'n' := by
    refine ⟨?_, ?_, ?_, ?_⟩ <;> rintro rfl <;> exact absurd hc (by decide)
  rw [List.cons_append] at htake hdrop ⊢
  simp only [read?, hmark, hc, if_true, if_false, htake, hdrop, hds]

/-- A text is read back from between its quotes. -/
theorem readable_text (s : String) : Readable (text s) := by
  intro depth hdepth rest _
  have hread := Text.readJson?_jsonText s rest
  rw [toList_text] at hdepth ⊢
  obtain ⟨m, rfl, -⟩ := exists_succ_of_length_le hdepth
  rw [enclosed_append, read?, if_pos rfl, hread]
  simp

/-- One text of a list is no longer than the whole list. -/
theorem length_le_intercalate (separator : String) {t : String} {ts : List String} (h : t ∈ ts) :
    t.toList.length ≤ (separator.intercalate ts).toList.length := by
  cases ts with
  | nil => cases h
  | cons u us =>
    rw [toList_intercalate_cons, List.length_append]
    rcases List.mem_cons.1 h with rfl | h
    · omega
    · have hpart : (separator.toList ++ t.toList).length ≤
          (us.flatMap fun u => separator.toList ++ u.toList).length := by
        have hmem := List.mem_map_of_mem (f := fun u : String => separator.toList ++ u.toList) h
        rw [List.flatMap_def]
        exact (List.sublist_flatten_of_mem hmem).length_le
      rw [List.length_append] at hpart
      omega

/-- Parts in brackets go no deeper than they may if the whole does not. -/
theorem exists_depth_of_parts {α : Type} {text : α → String} {as : List α} {opening closing : Char}
    {depth : Nat}
    (h : (opening :: ((",".intercalate (as.map text)).toList ++ [closing])).length ≤ depth) :
    ∃ m, depth = m + 1 ∧ ∀ a ∈ as, (text a).toList.length ≤ m := by
  obtain ⟨m, rfl, hm⟩ := exists_succ_of_length_le h
  refine ⟨m, rfl, ?_⟩
  intro a ha
  have hpart : (text a).toList.length ≤ (",".intercalate (as.map text)).toList.length :=
    length_le_intercalate "," (List.mem_map_of_mem ha)
  rw [List.length_append] at hm
  omega

/-- A list is read back if its items are. -/
theorem readable_list {ds : List Document} (hlegible : ∀ d ∈ ds, d.Legible)
    (h : ∀ d ∈ ds, d.Readable) : Readable (list ds) := by
  intro depth hdepth rest _
  rw [toList_list] at hdepth ⊢
  obtain ⟨m, rfl, hparts⟩ := exists_depth_of_parts hdepth
  have hread : readParts? (read? m) ']' ((",".intercalate (ds.map compact)).toList ++ ']' :: rest) =
      some (ds, rest) :=
    readParts?_parts (by decide) (by decide)
      (fun d hd => exists_cons_of_legible (hlegible d hd))
      (fun d hd => h d hd m (hparts d hd)) rest
  rw [enclosed_append, read?, if_neg (by decide), if_pos rfl, hread]
  rfl

/-- A field is read back if its value is. -/
theorem readsBack_field {m : Nat} {f : String × Document} (h : f.2.Readable)
    (hlength : (fieldText f).toList.length ≤ m) :
    ReadsBack (readField? (read? m)) fieldText f := by
  intro rest hrest
  have htext : (fieldText f).toList ++ rest = '"' ::
      (f.1.toList.flatMap Text.jsonChar ++ '"' :: ':' :: (f.2.compact.toList ++ rest)) := by
    rw [toList_fieldText]
    simp
  have hdepth : f.2.compact.toList.length ≤ m := by
    rw [toList_fieldText] at hlength
    simp only [List.length_cons, List.length_append] at hlength
    omega
  rw [htext, readField?, Text.readJson?_jsonText]
  simp [h m hdepth rest hrest]

/-- An object is read back if the values of its fields are. -/
theorem readable_object {fs : List (String × Document)} (h : ∀ f ∈ fs, f.2.Readable) :
    Readable (object fs) := by
  intro depth hdepth rest _
  rw [toList_object] at hdepth ⊢
  obtain ⟨m, rfl, hparts⟩ := exists_depth_of_parts hdepth
  have hhead : ∀ f ∈ fs, ∃ c cs, (fieldText f).toList = c :: cs ∧ c ≠ '\x7d' := by
    intro f _
    exact ⟨'"', _, toList_fieldText f, by decide⟩
  -- the fields are read one level deeper, and what follows the object is left alone
  have hread : readParts? (readField? (read? m)) '\x7d'
      ((",".intercalate (fs.map fieldText)).toList ++ '\x7d' :: rest) = some (fs, rest) :=
    readParts?_parts (by decide) (by decide) hhead
      (fun f hf => readsBack_field (h f hf) (hparts f hf)) rest
  rw [enclosed_append, read?, if_neg (by decide), if_neg (by decide), if_pos rfl, hread]
  rfl

mutual

/-- **Documents** are read back from their text. -/
theorem readable : ∀ d : Document, d.Legible → d.Readable
  | null, _ => readable_null
  | number ds, h => by
    rw [Legible] at h
    exact readable_number h
  | text s, _ => readable_text s
  | list items, h => by
    rw [Legible] at h
    exact readable_list (fun d hd => (readableAll items h d hd).1)
      fun d hd => (readableAll items h d hd).2
  | object fields, h => by
    rw [Legible] at h
    exact readable_object (readableFields fields h)

/-- So are all items of a list. -/
theorem readableAll : ∀ ds : List Document, LegibleAll ds → ∀ d ∈ ds, d.Legible ∧ d.Readable
  | [], _ => by simp
  | d :: ds, h => by
    rw [LegibleAll] at h
    exact List.forall_mem_cons.2 ⟨⟨h.1, readable d h.1⟩, readableAll ds h.2⟩

/-- So are all values of the fields of an object. -/
theorem readableFields : ∀ fs : List (String × Document), LegibleFields fs →
    ∀ f ∈ fs, f.2.Readable
  | [], _ => by simp
  | (_, d) :: fs, h => by
    rw [LegibleFields] at h
    exact List.forall_mem_cons.2 ⟨readable d h.1, readableFields fs h.2⟩

end

/-- **Documents** are read back from their text on one line. -/
theorem ofText?_compact {d : Document} (h : d.Legible) : ofText? d.compact = some d := by
  have hlength : d.compact.toList.length ≤ d.compact.length := Nat.le_of_eq String.length_toList
  have hread := readable d h d.compact.length hlength [] (by rintro c ⟨⟩)
  rw [List.append_nil] at hread
  rw [ofText?, hread]

end Document

end TypeExpr
