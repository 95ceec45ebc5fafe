import TypeExpr.Proofs.Depth
import TypeExpr.Proofs.Tiling
import TypeExpr.Regex.Check
import TypeExpr.Text.Source

/-!
# The text of a part of an expression

Each node of an expression that was read has a text of its own: the part of the whole text that its
span covers.  That part, taken by itself, is read as the same node, moved to the front
(`ofText_slice`).

It takes three things.  The lexemes of a node stand in a row, and the node covers them from the
first to the last (`Derives.covers`).  What they are spelled with is cut out of the text, and
nothing in it is read otherwise for that (`Cuts.exists_cut_out`).  And reading is the same in every
place (`Derives.shift`).

The cut is where care is needed.  In front it goes right before the first word, so that no blank and
no comment of the whole text gets into the part; behind it goes right after the last word, where the
text may end as well as anything else, since the end of a text delimits every word.  So the pieces
in between stay what they were, but for the gap before the first one.

For a node of a tree the part and the place are given by its span: nothing has to be searched for.
The item may be the target of an access, an argument or an item of a list; all of them are reached
by a way down from the root, and the statement is about the way.
-/

namespace TypeExpr

open Text (byteLength)

/-! ## Moving to another place

Reading a text behind `k` more bytes moves every span by `k` and changes nothing else.
-/

/-- The token with the same spelling behind `k` more bytes. -/
def Lexeme.shift (k : Nat) (l : Lexeme) : Lexeme := ⟨l.token, l.span.shift k⟩

theorem map_token_shift (k : Nat) (ls : List Lexeme) :
    (ls.map (Lexeme.shift k)).map (·.token) = ls.map (·.token) := by
  rw [List.map_map]
  rfl

/-- Spans may be merged before or after they are moved. -/
theorem Span.shift_merge (k : Nat) (a b : Span) :
    (a.merge b).shift k = (a.shift k).merge (b.shift k) := by
  simp only [Span.merge, Span.shift, Span.mk.injEq]
  omega

namespace Node

mutual

/-- The node with the same text behind `k` more bytes. -/
def shift (k : Nat) : Node Span → Node Span
  | leaf v s => leaf v (s.shift k)
  | array items s => array (shiftAll k items) (s.shift k)
  | access target arguments s => access (target.shift k) (shiftAll k arguments) (s.shift k)

/-- The nodes with the same texts behind `k` more bytes. -/
def shiftAll (k : Nat) : List (Node Span) → List (Node Span)
  | [] => []
  | n :: ns => n.shift k :: shiftAll k ns

end

theorem shiftAll_eq_map (k : Nat) (ns : List (Node Span)) : shiftAll k ns = ns.map (shift k) := by
  induction ns with
  | nil => rfl
  | cons n ns ih => simp [shiftAll, ih]

@[simp] theorem shift_leaf (k : Nat) (v : Leaf) (s : Span) :
    (leaf v s).shift k = leaf v (s.shift k) := by
  simp [shift]

@[simp] theorem shift_array (k : Nat) (ns : List (Node Span)) (s : Span) :
    (array ns s).shift k = array (ns.map (shift k)) (s.shift k) := by
  simp [shift, shiftAll_eq_map]

/-- Of a node with arguments the target, the arguments and the span are moved. -/
@[simp] theorem shift_access (k : Nat) (t : Node Span) (ns : List (Node Span)) (s : Span) :
    (access t ns s).shift k = access (t.shift k) (ns.map (shift k)) (s.shift k) := by
  simp [shift, shiftAll_eq_map]

theorem note_shift (k : Nat) (n : Node Span) : (n.shift k).note = n.note.shift k := by
  cases n <;> simp [note]

end Node

namespace Grammar

/-- The part in another place. -/
def Part.shift (k : Nat) (p : Part) : Part := ⟨p.lexemes.map (Lexeme.shift k), p.node.shift k⟩

/-- Parts that stand in a row do so in every place. -/
theorem Started.shift {ps : List Part} {ls : List Lexeme} (h : Started ps ls) (k : Nat) :
    Started (ps.map (Part.shift k)) (ls.map (Lexeme.shift k)) := by
  induction h with
  | none => exact .none
  | more p comma _ ih =>
    simp only [List.map_append]
    exact .more (p.shift k) (comma.shift k) ih

/-- Parts that fill a pair of brackets do so in every place. -/
theorem Filled.shift {ps : List Part} {ls : List Lexeme} (h : Filled ps ls) (k : Nat) :
    Filled (ps.map (Part.shift k)) (ls.map (Lexeme.shift k)) := by
  cases h with
  | started h => exact .started (h.shift k)
  | last p h =>
    simp only [List.map_append]
    exact .last (p.shift k) (h.shift k)

/-- **Place**: what lexemes derive they derive in every place. -/
theorem Derives.shift {ls : List Lexeme} {n : Node Span} (h : Derives ls n) (k : Nat) :
    Derives (ls.map (Lexeme.shift k)) (n.shift k) := by
  have hnodes (ps : List Part) :
      (ps.map Part.node).map (Node.shift k) = (ps.map (Part.shift k)).map Part.node := by
    simp [Part.shift, Function.comp_def]
  have hparts {ps : List Part}
      (ih : ∀ p ∈ ps, Derives (p.lexemes.map (Lexeme.shift k)) (p.node.shift k)) :
      ∀ p ∈ ps.map (Part.shift k), Derives p.lexemes p.node := by
    intro p hp
    obtain ⟨q, hq, rfl⟩ := List.mem_map.1 hp
    exact ih q hq
  -- on the derivation: the brackets that it names are moved with the parts between them
  induction h with
  | leaf span ht =>
    rw [Node.shift_leaf]
    exact .leaf (span.shift k) ht
  | array opened closing _ hfilled ih =>
    rw [Node.shift_array, Span.shift_merge, hnodes, List.map_append]
    exact .array (opened.shift k) (closing.shift k) (hparts ih) (hfilled.shift k)
  | @access ts target ps ls opened closing _ _ hfilled iht ih =>
    rw [Node.shift_access, Span.shift_merge, hnodes, List.map_append, List.map_append,
      ← Node.note_shift]
    exact .access (opened.shift k) (closing.shift k) iht (hparts ih) (hfilled.shift k)

/-! ## What a node covers

The span of a node goes from the first of its lexemes to the last.  Lexemes do not overlap, so the
span of a row of them is the part of the text in which they stand.
-/

/-- The lexemes stand one behind another. -/
structure InOrder (ls : List Lexeme) : Prop where
  forwards : ∀ l ∈ ls, l.span.start ≤ l.span.stop
  behind : ls.Pairwise fun l m => l.span.stop ≤ m.span.start

/-- Lexemes that tile a text stand one behind another. -/
theorem InOrder.of_tiles {cs : List Char} {ls : List Lexeme} (h : Tiles 0 cs ls) : InOrder ls :=
  ⟨fun _ hl => Nat.le_of_lt (h.bounds hl).1, h.pairwise⟩

/-- So do the lexemes of a part. -/
theorem InOrder.of_infix {part ls : List Lexeme} (h : InOrder ls) (hpart : part <:+: ls) :
    InOrder part :=
  ⟨fun l hl => h.forwards l (hpart.subset hl), h.behind.sublist hpart.sublist⟩

/-- The span reaches from the first lexeme to the last. -/
def Covers (s : Span) (ls : List Lexeme) : Prop :=
  ∃ first last, ls.head? = some first ∧ ls.getLast? = some last ∧
    s = ⟨first.span.start, last.span.stop⟩

/-- A span that begins and ends no later than another one is merged with it from the beginning of
    the first to the end of the second. -/
theorem merge_eq {a b : Span} (hstart : a.start ≤ b.start) (hstop : a.stop ≤ b.stop) :
    a.merge b = ⟨a.start, b.stop⟩ := by
  rw [Span.merge, Nat.min_eq_left hstart, Nat.max_eq_right hstop]

/-- A node that ends with a bracket covers all from what it begins with up to that bracket. -/
theorem covers_of_closing {ls : List Lexeme} {s closing : Span}
    (h : InOrder (ls ++ [⟨.closeBracket, closing⟩]))
    (hs : ∃ first ∈ ls.head?, s.start = first.span.start) (hstop : ∃ l ∈ ls, s.stop = l.span.stop) :
    Covers (s.merge closing) (ls ++ [⟨.closeBracket, closing⟩]) := by
  obtain ⟨first, hfirst, hstart⟩ := hs
  obtain ⟨l, hl, hstop⟩ := hstop
  have hbehind : ∀ m ∈ ls, m.span.stop ≤ closing.start := by
    intro m hm
    exact (List.pairwise_append.1 h.behind).2.2 m hm _ (List.mem_singleton_self _)
  have hclosing : closing.start ≤ closing.stop := h.forwards ⟨.closeBracket, closing⟩ (by simp)
  have hmem := List.mem_of_head? hfirst
  have hforwards := h.forwards first (List.mem_append_left _ hmem)
  have h₁ := hbehind first hmem
  have h₂ := hbehind l hl
  refine ⟨first, ⟨.closeBracket, closing⟩, ?_, by simp, ?_⟩
  · rw [List.head?_append, Option.mem_def.1 hfirst]
    rfl
  · rw [merge_eq (by omega) (by omega), hstart]

/-- A node covers its lexemes from the first to the last. -/
theorem Derives.covers {ls : List Lexeme} {n : Node Span} (h : Derives ls n) (hls : InOrder ls) :
    Covers n.note ls := by
  induction h with
  | leaf span ht => exact ⟨_, _, rfl, rfl, rfl⟩
  | array opened closing _ _ _ =>
    exact covers_of_closing hls ⟨_, rfl, rfl⟩ ⟨_, List.mem_cons_self, rfl⟩
  -- the span of an access begins where that of its target does, and the target covers its own
  -- lexemes
  | @access ts target ps ls opened closing ht _ _ iht _ =>
    obtain ⟨first, last, hfirst, hlast, hnote⟩ :=
      iht (hls.of_infix (List.prefix_append ..).isInfix)
    rw [← List.append_assoc] at hls ⊢
    refine covers_of_closing hls ⟨first, ?_, by rw [hnote]⟩ ⟨last, ?_, by rw [hnote]⟩
    · rw [List.head?_append, hfirst]
      rfl
    · exact List.mem_append_left _ (List.mem_of_getLast? hlast)

/-- What is derived somewhere is derived in front. -/
theorem Derives.exists_of_shift {k : Nat} {ls : List Lexeme} {m : Node Span}
    (h : Derives (ls.map (Lexeme.shift k)) m)
    (hdepth : bracketDepth ((ls.map (Lexeme.shift k)).map (·.token)) ≤ maxDepth) :
    ∃ m', Derives ls m' ∧ bracketDepth (ls.map (·.token)) ≤ maxDepth ∧ m'.shift k = m := by
  have hread : Node.ofLexemes 0 (ls.map (Lexeme.shift k)) = .ok m :=
    Node.ofLexemes_eq_ok_iff_derives.2 ⟨h, hdepth⟩
  -- the tokens are the same, so in front there is an expression too, and moved it is the same
  have hspec := Node.specification_of_ofLexemes hread
  rw [map_token_shift] at hspec
  obtain ⟨m', hm', -⟩ := Node.exists_ofLexemes_of_specification hspec 0
  obtain ⟨hderives, hdepth'⟩ := Node.ofLexemes_eq_ok_iff_derives.1 hm'
  have hmoved : Node.ofLexemes 0 (ls.map (Lexeme.shift k)) = .ok (m'.shift k) :=
    Node.ofLexemes_eq_ok_iff_derives.2 ⟨hderives.shift k, hdepth⟩
  rw [hread] at hmoved
  exact ⟨m', hderives, hdepth', (Except.ok.inj hmoved).symm⟩

end Grammar

/-! ## Cutting a part out of a text

The lexemes of a node are those of pieces in a row.  Cut out, these pieces are read as they were,
and so the node is derived again from its own text.
-/

namespace Piece

/-- Pieces that begin further on have their lexemes further on. -/
theorem lexemes_shift (k offset : Nat) (ps : List Piece) :
    (lexemes offset ps).map (Lexeme.shift k) = lexemes (k + offset) ps := by
  induction ps generalizing offset with
  | nil => rfl
  | cons p ps ih => simp [lexemes, ih, Lexeme.shift, Span.shift, Nat.add_assoc]

/-- In front, the gap before the first piece is left out. -/
theorem lexemes_without_gap (offset : Nat) (p : Piece) (ps : List Piece) :
    (lexemes 0 ({ p with gap := [] } :: ps)).map (Lexeme.shift (offset + byteLength p.gap)) =
      lexemes offset (p :: ps) := by
  simp only [lexemes, List.map_cons, lexemes_shift]
  simp [Lexeme.shift, Span.shift, text, Nat.add_assoc]

/-- Lexemes in two rows are those of pieces in two rows. -/
theorem exists_of_lexemes_eq_append {offset : Nat} {ps : List Piece} {ls ms : List Lexeme}
    (h : lexemes offset ps = ls ++ ms) : ∃ qs rs, ps = qs ++ rs ∧ lexemes offset qs = ls ∧
      lexemes (offset + byteLength (texts qs)) rs = ms := by
  induction ls generalizing offset ps with
  | nil => exact ⟨[], ps, rfl, rfl, h⟩
  | cons l ls ih =>
    cases ps with
    | nil => cases h
    | cons p ps =>
      obtain ⟨hl, hrest⟩ := List.cons.inj h
      obtain ⟨qs, rs, rfl, hqs, hrs⟩ := ih hrest
      refine ⟨p :: qs, rs, rfl, by rw [lexemes, hl, hqs], ?_⟩
      rw [← hrs]
      simp [text, Nat.add_assoc]

/-- The lexemes of pieces reach from the first word to the end. -/
theorem eq_of_covers_lexemes {s : Span} {offset : Nat} {p : Piece} {ps : List Piece}
    (h : Grammar.Covers s (lexemes offset (p :: ps))) :
    s = ⟨offset + byteLength p.gap, offset + byteLength (texts (p :: ps))⟩ := by
  -- only the last lexeme knows where the pieces end, so it takes an induction to get there
  have hlast {offset : Nat} {p : Piece} {ps : List Piece} {l : Lexeme}
      (h : (lexemes offset (p :: ps)).getLast? = some l) :
      l.span.stop = offset + byteLength (texts (p :: ps)) := by
    induction ps generalizing offset p with
    | nil =>
      have hl : (lexemes offset [p]).getLast? = some ⟨p.token, ⟨offset + byteLength p.gap,
          offset + byteLength p.text⟩⟩ := rfl
      rw [hl] at h
      cases h
      simp [text]
    | cons q ps ih =>
      rw [lexemes, lexemes, List.getLast?_cons_cons] at h
      rw [ih h]
      simp [text, Nat.add_assoc]
  obtain ⟨first, last, hfirst, hend, rfl⟩ := h
  rw [hlast hend]
  cases hfirst
  rfl

end Piece

/-- The gap before the first piece can be left out. -/
theorem Cuts.of_gap [PatternLanguage] {cs rest : List Char} {p : Piece} {ps : List Piece}
    (h : Cuts cs (p :: ps) rest) :
    Cuts (p.word ++ (Piece.texts ps ++ rest)) ({ p with gap := [] } :: ps) rest := by
  cases h with
  | @cons _ gap xs w left _ _ x t hgap hread hps =>
    have hrest := splitTrivia_rest false cs
    rw [hgap] at hrest
    rw [← hps.eq_append, ← (eq_append_of_readToken hread).1]
    exact .cons hrest hread hps

/-- **Cut out**: pieces in a row, without what stands before and behind them, are read as they were,
    in another place. -/
theorem Cuts.exists_cut_out [PatternLanguage] {cs rest : List Char} {ps qs : List Piece} {p : Piece}
    {rs : List Piece}
    (h : Cuts cs (ps ++ (p :: qs) ++ rs) rest) : ∃ before part after, cs = before ++ part ++ after ∧
      byteLength before = byteLength (Piece.texts ps) + byteLength p.gap ∧
      byteLength (before ++ part) =
        byteLength (Piece.texts ps) + byteLength (Piece.texts (p :: qs)) ∧
      tokenize (String.ofList part) = .ok (Piece.lexemes 0 ({ p with gap := [] } :: qs)) := by
  -- what stands behind the pieces is cut off first, and then what stands before them
  obtain ⟨behind, hfront, hrs⟩ := h.split
  obtain ⟨mid, hps, hpart⟩ := hfront.split
  let ps' : List Piece := { p with gap := [] } :: qs
  have hcut : Cuts (Piece.texts ps' ++ []) ps' [] := hpart.of_gap.exchange fun _ => delimits_nil
  refine ⟨Piece.texts ps ++ p.gap, p.word ++ Piece.texts qs, behind, ?_, by simp, ?_, ?_⟩
  · rw [hps.eq_append, hpart.eq_append]
    simp
  · simp
  · rw [tokenize, String.toList_ofList]
    refine Cursor.lexemes_eq_ok_iff.2 ⟨_, [], ?_, rfl, rfl⟩
    rw [List.append_nil] at hcut
    exact hcut

/-- Lexemes in a row are those of a part of the text, in another place. -/
theorem Cuts.exists_part [PatternLanguage] {cs rest : List Char} {ps : List Piece}
    (h : Cuts cs ps rest)
    {ls : List Lexeme} (hls : ls <:+: Piece.lexemes 0 ps) {s : Span} (hs : Grammar.Covers s ls) :
    ∃ before part after inner, cs = before ++ part ++ after ∧
      s = ⟨byteLength before, byteLength (before ++ part)⟩ ∧
      tokenize (String.ofList part) = .ok inner ∧
      inner.map (Lexeme.shift (byteLength before)) = ls := by
  obtain ⟨ls₁, ls₃, hwhole⟩ := hls
  obtain ⟨front, ps₃, rfl, hfront, -⟩ := Piece.exists_of_lexemes_eq_append hwhole.symm
  obtain ⟨ps₁, ps₂, rfl, -, rfl⟩ := Piece.exists_of_lexemes_eq_append hfront
  cases ps₂ with
  | nil =>
    obtain ⟨_, _, hnone, -⟩ := hs
    cases hnone
  | cons p qs =>
    obtain ⟨before, part, after, htext, hbefore, hpart, hread⟩ := h.exists_cut_out
    refine ⟨before, part, after, _, htext, ?_, hread, ?_⟩
    · rw [Piece.eq_of_covers_lexemes hs, hbefore, hpart, Nat.zero_add]
    · rw [hbefore, Piece.lexemes_without_gap, Nat.zero_add]

namespace Text

/-- The span of a part of a text covers that part. -/
theorem slice_append (before part after : List Char) :
    slice (before ++ part ++ after) ⟨byteLength before, byteLength (before ++ part)⟩ = part := by
  have hstop : min (byteLength (before ++ part)) (byteLength (before ++ part ++ after)) =
      byteLength (before ++ part) := by
    rw [byteLength_append _ after]
    omega
  have hstart : min (byteLength before) (byteLength (before ++ part)) = byteLength before := by
    rw [byteLength_append]
    omega
  have hlength : byteLength (before ++ part) - byteLength before = byteLength part := by
    rw [byteLength_append]
    omega
  simp only [slice, hstop, hstart, hlength]
  rw [List.append_assoc, splitBytes_append]
  simp only [splitBytes_append]

end Text

namespace Node

/-- **Subterms**: the span of a node inside an expression that was read is that of a part of the
    text, and that part by itself is read as the same node with all its spans moved to the front. -/
theorem ofText_slice [PatternLanguage] (text : String) (root m : Node Span)
    (steps : List (Step Span)) (h : ofText text = .ok (some root)) (hway : Way root steps m) :
    ∃ before part after m', text.toList = before ++ part ++ after ∧
      m.note = ⟨byteLength before, byteLength (before ++ part)⟩ ∧
      Text.slice text.toList m.note = part ∧
      ofText (String.ofList part) = .ok (some m') ∧ m'.shift m.note.start = m := by
  obtain ⟨ls, hls, hderives, hdepth⟩ := derives_of_ofText h
  have horder := Grammar.InOrder.of_tiles (tiles_of_tokenize hls)
  obtain ⟨ps, rest, hcuts, -, rfl⟩ := Cursor.lexemes_eq_ok_iff.1 hls
  -- the lexemes of the node
  obtain ⟨ms, hinfix, hm⟩ := hderives.exists_infix_of_way hway
  have hmdepth := Nat.le_trans (Grammar.bracketDepth_le_of_infix hinfix) hdepth
  have hcovers := hm.covers (horder.of_infix hinfix)
  -- and their part of the text
  obtain ⟨before, part, after, inner, htext, hspan, hread, rfl⟩ := hcuts.exists_part hinfix hcovers
  obtain ⟨m', hm', hdepth', hshift⟩ := hm.exists_of_shift hmdepth
  refine ⟨before, part, after, m', htext, hspan, ?_, ?_, ?_⟩
  · rw [htext, hspan, Text.slice_append]
  · exact ofText_eq_ok_iff.2 ⟨inner, hread, ofLexemes_eq_ok_iff_derives.2 ⟨hm', hdepth'⟩⟩
  · rw [hspan, hshift]

open scoped Program in
/-- The second argument stands behind a character of two bytes and a comment. -/
theorem ofText_slice_of_argument : ∃ root m steps,
    ofText "Hash[ 'é' , # c\n A[1] ]" = .ok (some root) ∧ Way root steps m ∧
    m.note = ⟨18, 22⟩ ∧
    ∃ before part after m', "Hash[ 'é' , # c\n A[1] ]".toList = before ++ part ++ after ∧
      m.note = ⟨byteLength before, byteLength (before ++ part)⟩ ∧
      Text.slice "Hash[ 'é' , # c\n A[1] ]".toList m.note = part ∧
      ofText (String.ofList part) = .ok (some m') ∧ m'.shift m.note.start = m := by
  have htokens : tokenize "Hash[ 'é' , # c\n A[1] ]" = .ok [⟨.reference "Hash", ⟨0, 4⟩⟩,
      ⟨.openBracket, ⟨4, 5⟩⟩, ⟨.string "é", ⟨6, 10⟩⟩, ⟨.comma, ⟨11, 12⟩⟩,
      ⟨.reference "A", ⟨18, 19⟩⟩, ⟨.openBracket, ⟨19, 20⟩⟩, ⟨.integer 1, ⟨20, 21⟩⟩,
      ⟨.closeBracket, ⟨21, 22⟩⟩, ⟨.closeBracket, ⟨23, 24⟩⟩] := by
    decide +kernel
  have hread : ofText "Hash[ 'é' , # c\n A[1] ]" = .ok (some (.access
      (.leaf (.reference "hash") ⟨0, 4⟩)
      [.leaf (.string "é") ⟨6, 10⟩,
        .access (.leaf (.reference "a") ⟨18, 19⟩) [.leaf (.integer 1) ⟨20, 21⟩] ⟨18, 22⟩]
      ⟨0, 24⟩)) := by
    rw [ofText, htokens]
    rfl
  exact ⟨_, .access (.leaf (.reference "a") ⟨18, 19⟩) [.leaf (.integer 1) ⟨20, 21⟩] ⟨18, 22⟩, _,
    hread, .down (.argument (by simp)) (.here _), rfl,
    ofText_slice _ _ _ _ hread (.down (.argument (by simp)) (.here _))⟩

end Node

end TypeExpr
