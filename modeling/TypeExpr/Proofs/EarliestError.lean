import TypeExpr.Proofs.Parsing
import TypeExpr.Regex.Check

/-!
# The earliest error

Some tokens are the beginning of a specification (`Grammar.Begins`): others could follow them so
that the grammar accepts the whole.  Reading tells at once when that is over.  Every state can still
come to a good end, since the value that is wanted may follow, and then the brackets that are open
may be closed; so the tokens that reading has accepted always begin a specification
(`begins_iff_exists_run`).  The token that it refuses is the first one that no continuation puts
right, and it is the one that is blamed (`ofText_error_earliest`).  If all the tokens are accepted
and the text is no specification, then it is too short, and the end of it is blamed.
-/

namespace TypeExpr

namespace Grammar

/-- The tokens are the beginning of a specification. -/
def Begins (ts : List Token) : Prop := ∃ us n, Specification (ts ++ us) n

/-- The lexeme is the first one that cannot be put right: up to it the tokens begin a specification,
    and with it they begin none. -/
def FirstBeyondRepair (ls : List Lexeme) (l : Lexeme) : Prop :=
  ∃ before after, ls = before ++ l :: after ∧ Begins (before.map (·.token)) ∧
    ¬Begins ((before ++ [l]).map (·.token))

end Grammar

namespace Node

open Grammar (Begins FirstBeyondRepair)

/-! ## Every state can come to a good end

The tokens that lead there are a value and closing brackets.  Since there are no more brackets open
than may be, none has to be opened.
-/

/-- Behind a value all the brackets can be closed. -/
theorem State.exists_run_closing (value : Node Span) (frames : List Frame) :
    ∃ ls m, (State.holding value frames).run ls = .ok (.holding m []) := by
  induction frames generalizing value with
  | nil => exact ⟨[], value, rfl⟩
  | cons f fs ih =>
    obtain ⟨ls, m, hrun⟩ := ih ((f.push value).close (.point 0))
    refine ⟨⟨.closeBracket, .point 0⟩ :: ls, m, ?_⟩
    rw [State.run_cons_of_feed rfl, hrun]

/-- From every state there is a way to the end: the value that is wanted, and a closing bracket for
    each one that is open. -/
theorem State.exists_run_to_end (s : State) : ∃ ls m, s.run ls = .ok (.holding m []) := by
  cases s with
  | holding value frames => exact exists_run_closing value frames
  | wanting frames =>
    -- any value will do
    have hfeed : (State.wanting frames).feed ⟨.integer 0, .point 0⟩ =
        .ok (.holding (.leaf (.integer 0) (.point 0)) frames) :=
      State.feed_eq_ok_iff.2 (.value (.integer 0))
    obtain ⟨ls, m, hrun⟩ := exists_run_closing (.leaf (.integer 0) (.point 0)) frames
    exact ⟨⟨.integer 0, .point 0⟩ :: ls, m, by rw [State.run_cons_of_feed hfeed, hrun]⟩

/-! ## What has been accepted and what is refused

A run fails at a first token, and everything before it has led to some state.
-/

/-- What has been accepted up to some place was accepted before it. -/
theorem State.exists_run_of_run_append {s s' : State} {ls ms : List Lexeme}
    (h : s.run (ls ++ ms) = .ok s') : ∃ s₁, s.run ls = .ok s₁ := by
  cases hrun : s.run ls with
  | ok s₁ => exact ⟨s₁, rfl⟩
  | error e =>
    rw [run_append_of_error hrun] at h
    cases h

/-- **Viable beginnings**: tokens begin a specification exactly if reading accepts them. -/
theorem begins_iff_exists_run {ls : List Lexeme} :
    Begins (ls.map (·.token)) ↔ ∃ s, (State.wanting []).run ls = .ok s := by
  constructor
  · rintro ⟨us, n, hspec⟩
    -- spans for the tokens to come can be made up, since no token is refused for its span
    have htokens : (ls ++ us.map fun t => (⟨t, .point 0⟩ : Lexeme)).map (·.token) =
        ls.map (·.token) ++ us := by
      simp [Function.comp_def]
    rw [← htokens] at hspec
    obtain ⟨m, hm, -⟩ := exists_ofLexemes_of_specification hspec 0
    exact State.exists_run_of_run_append (ofLexemes_eq_ok_iff.1 hm)
  · rintro ⟨s, hs⟩
    obtain ⟨us, m, hrun⟩ := s.exists_run_to_end
    have hwhole : ofLexemes 0 (ls ++ us) = .ok m := by
      rw [ofLexemes_eq_ok_iff, State.run_append_of_run hs, hrun]
    have hspec := specification_of_ofLexemes hwhole
    rw [List.map_append] at hspec
    exact ⟨_, _, hspec⟩

/-- A bracket that is one too many is blamed itself. -/
theorem State.span_of_enter_eq_error {target : Option (Node Span)} {opened : Span}
    {frames : List Frame} {e : SyntaxError} (h : State.enter target opened frames = .error e) :
    e.span = opened := by
  unfold enter at h
  split at h
  · cases h
    rfl
  · cases h

/-- A token that is refused is blamed. -/
theorem State.span_of_feed_eq_error {s : State} {l : Lexeme} {e : SyntaxError}
    (h : s.feed l = .error e) : e.span = l.span := by
  obtain ⟨token, span⟩ := l
  -- In either state a token is refused as a bracket too many or because nothing like it can stand
  -- there, and in both cases the token is blamed.
  cases s with
  | wanting frames =>
    simp only [feed] at h
    split at h
    · cases h
    · exact span_of_enter_eq_error h
    · cases h
    · cases h
      rfl
  | holding value frames =>
    simp only [feed] at h
    split at h
    · exact span_of_enter_eq_error h
    · cases h
      rfl
    · cases h
    · cases h
    · cases h
      rfl

/-- Where reading fails it has come to a token that it refuses. -/
theorem State.exists_feed_eq_error {s : State} {ls : List Lexeme} {e : SyntaxError}
    (h : s.run ls = .error e) : ∃ before l after s',
      ls = before ++ l :: after ∧ s.run before = .ok s' ∧ s'.feed l = .error e := by
  induction ls generalizing s with
  | nil => cases h
  | cons l ls ih =>
    cases hfeed : s.feed l with
    | error e' =>
      rw [run_cons_of_error hfeed] at h
      cases h
      exact ⟨[], l, ls, s, rfl, rfl, hfeed⟩
    | ok s₁ =>
      rw [run_cons_of_feed hfeed] at h
      obtain ⟨before, l', after, s', rfl, hrun, hl'⟩ := ih h
      exact ⟨l :: before, l', after, s', rfl, by rw [run_cons_of_feed hfeed, hrun], hl'⟩

/-- What a token is refused for is the result, whatever follows it. -/
theorem State.run_eq_error_of_feed {s s' : State} {before after : List Lexeme} {l : Lexeme}
    {e : SyntaxError} (hrun : s.run before = .ok s') (h : s'.feed l = .error e) :
    s.run (before ++ l :: after) = .error e := by
  rw [run_append_of_run hrun, run_cons_of_error h]

/-- With a token that is refused no specification begins. -/
theorem not_begins_of_feed_eq_error {s : State} {before : List Lexeme} {l : Lexeme}
    {e : SyntaxError} (hrun : (State.wanting []).run before = .ok s) (h : s.feed l = .error e) :
    ¬Begins ((before ++ [l]).map (·.token)) := by
  rw [begins_iff_exists_run, State.run_eq_error_of_feed hrun h]
  simp

/-! ## The error of a row of lexemes

The two ways in which reading fails: at a token, and at the end.
-/

/-- Nothing before the first lexeme that is beyond repair is blamed, and nothing behind it. -/
theorem span_of_ofLexemes_eq_error {stop : Nat} {ls : List Lexeme} {e : SyntaxError}
    (h : ofLexemes stop ls = .error e) :
    (∀ l, FirstBeyondRepair ls l → e.span = l.span) ∧
    ((¬∃ l, FirstBeyondRepair ls l) → e.span = .point stop) := by
  have hresult : ((State.wanting []).run ls).bind (State.finish stop) = .error e := h
  -- If a lexeme is beyond repair, reading comes to it, refuses it, and says so.  If none is,
  -- reading accepts all of them and stops at the end.
  constructor
  · rintro l ⟨before, after, rfl, hbegins, hnot⟩
    obtain ⟨s, hs⟩ := begins_iff_exists_run.1 hbegins
    cases hfeed : s.feed l with
    | ok s' =>
      refine absurd (begins_iff_exists_run.2 ⟨s', ?_⟩) hnot
      rw [State.run_append_of_run hs, State.run_cons_of_feed hfeed]
      rfl
    | error e' =>
      rw [State.run_eq_error_of_feed hs hfeed] at hresult
      cases hresult
      exact State.span_of_feed_eq_error hfeed
  · intro hnone
    cases hrun : (State.wanting []).run ls with
    | error e' =>
      obtain ⟨before, l, after, s, rfl, hs, hfeed⟩ := State.exists_feed_eq_error hrun
      exact absurd ⟨l, before, after, rfl, begins_iff_exists_run.2 ⟨s, hs⟩,
        not_begins_of_feed_eq_error hs hfeed⟩ hnone
    | ok s =>
      rw [hrun] at hresult
      unfold State.finish at hresult
      cases s with
      | wanting frames => cases hresult; rfl
      | holding value frames => cases frames <;> cases hresult; rfl

end Node

end TypeExpr
