import Bindery.Proofs.Expr.Grammar

/-!
# Where parsing stops

From every state that the parser gets into there are tokens that complete an expression
(`exists_completion`), so the tokens that it reads are exactly the ones that an expression can begin
with (`begins_iff`). The token that it refuses is therefore the first one with which the tokens so
far are the beginning of no expression, and it asks for more at the end exactly if something
completes the tokens (`parse_error_iff`).
-/

namespace Bindery
namespace Expr

/-- Tokens that some expression begins with. -/
def Begins (tokens : List Token) : Prop := ∃ rest e, IsSum (tokens ++ rest) e

/-- Tokens that some longer expression begins with. -/
def BeginsLonger (tokens : List Token) : Prop := ∃ rest e, rest ≠ [] ∧ IsSum (tokens ++ rest) e

open ParserState

/-! ## Completing what was read -/

namespace ParserState

/-- A term can be completed by a name. -/
lemma exists_reads_term (s : ParserState) :
    ∃ rest value, Reads s rest ⟨s.frames, s.terms, .term value⟩ := by
  obtain ⟨frames, terms, phase⟩ := s
  cases phase with
  | start => exact ⟨[.name "x"], _, Reads.cons rfl Reads.nil⟩
  | term value => exact ⟨[], value, Reads.nil⟩
  | dot target => exact ⟨[.name "x"], _, Reads.cons rfl Reads.nil⟩

/-- Behind a term every bracket can be closed. -/
lemma exists_step?_close (opener : Opener) (before terms : List Expr) (value : Expr)
    (outer : List Frame) :
    ∃ mark value', step? ⟨⟨opener, before⟩ :: outer, terms, .term value⟩ (.mark mark)
      = .ok ⟨outer, before, .term value'⟩ := by
  cases opener with
  | paren => exact ⟨.closeParen, _, rfl⟩
  | args callee items => exact ⟨.closeParen, _, rfl⟩
  | array items => exact ⟨.closeBracket, _, rfl⟩
  | position target => exact ⟨.closeBracket, _, rfl⟩

/-- Behind a term all open brackets can be closed. -/
lemma exists_reads_closed (frames : List Frame) (terms : List Expr) (value : Expr) :
    ∃ rest terms' value', Reads ⟨frames, terms, .term value⟩ rest ⟨[], terms', .term value'⟩ := by
  induction frames generalizing terms value with
  | nil => exact ⟨[], terms, value, Reads.nil⟩
  | cons frame outer ih =>
    obtain ⟨mark, closed, hclose⟩ :=
      exists_step?_close frame.opener frame.terms terms value outer
    obtain ⟨rest, terms', value', hrest⟩ := ih frame.terms closed
    exact ⟨.mark mark :: rest, terms', value', hrest.cons hclose⟩

/-- Whatever was read, some tokens complete an expression. -/
lemma exists_completion (s : ParserState) :
    ∃ rest terms value, Reads s rest ⟨[], terms, .term value⟩ := by
  obtain ⟨first, value, hfirst⟩ := s.exists_reads_term
  obtain ⟨rest, terms, value', hrest⟩ := exists_reads_closed s.frames s.terms value
  exact ⟨first ++ rest, terms, value', hfirst.append hrest⟩

end ParserState

/-- The parser reads exactly the tokens that an expression begins with. -/
lemma begins_iff {tokens : List Token} : Begins tokens ↔ ∃ s, Reads .initial tokens s := by
  constructor
  · rintro ⟨rest, e, hsum⟩
    obtain ⟨terms, value, hreads, -⟩ := hsum.forms
    obtain ⟨s, htokens, -⟩ := Reads.append_iff.1 hreads
    exact ⟨s, htokens⟩
  · rintro ⟨s, htokens⟩
    obtain ⟨rest, terms, value, hrest⟩ := s.exists_completion
    exact ⟨rest, sum terms value, Forms.isSum ⟨terms, value, htokens.append hrest, rfl⟩⟩

lemma begins_not_isSum_iff {tokens : List Token} (h : ¬ ∃ e, IsSum tokens e) :
    Begins tokens ↔ BeginsLonger tokens := by
  refine ⟨fun ⟨rest, e, hsum⟩ => ⟨rest, e, fun hnil => h ⟨e, ?_⟩, hsum⟩,
    fun ⟨rest, e, _, hsum⟩ => ⟨rest, e, hsum⟩⟩
  rwa [hnil, List.append_nil] at hsum

/-! ## The token that does not fit -/

/-- A token is refused behind the tokens that were read before it. -/
lemma run_eq_error_iff {s : ParserState} {placed : List Placed} {error : ParseError} :
    s.run placed = .error error ↔ ∃ before t after s' expected, placed = before ++ t :: after ∧
      Reads s (before.map Placed.token) s' ∧ s'.step? t.token = .error expected ∧
      error = .unexpectedToken t.token t.offset expected := by
  constructor
  · intro h
    induction placed generalizing s with
    | nil => cases h
    | cons t rest ih =>
      rw [run, step] at h
      cases hstep : s.step? t.token with
      | error expected =>
        rw [hstep] at h
        cases h
        exact ⟨[], t, rest, s, expected, rfl, Reads.nil, hstep, rfl⟩
      | ok next =>
        rw [hstep] at h
        obtain ⟨before, t', after, s', expected, rfl, hreads, hrefused, rfl⟩ := ih h
        exact ⟨t :: before, t', after, s', expected, rfl, hreads.cons hstep, hrefused, rfl⟩
  · rintro ⟨before, t, after, s', expected, rfl, hreads, hrefused, rfl⟩
    induction before generalizing s with
    | nil =>
      cases hreads
      rw [List.nil_append, run, step, hrefused]
    | cons t' before ih =>
      obtain ⟨next, hstep, hrest⟩ := Reads.cons_iff.1 hreads
      rw [List.cons_append, run, step, hstep]
      exact ih hrest

/-- Behind tokens that an expression begins with, the parser refuses the tokens with which no
expression begins. -/
lemma not_begins_iff {tokens : List Token} {token : Token} {s : ParserState}
    (h : Reads .initial tokens s) :
    ¬ Begins (tokens ++ [token]) ↔ ∃ expected, s.step? token = .error expected := by
  rw [begins_iff, not_exists]
  constructor
  · intro hnone
    cases hstep : s.step? token with
    | error expected => exact ⟨expected, rfl⟩
    | ok next => exact absurd (h.append (Reads.cons hstep Reads.nil)) (hnone next)
  · rintro ⟨expected, hrefused⟩ s' hreads
    obtain ⟨s₁, htokens, hlast⟩ := Reads.append_iff.1 hreads
    obtain ⟨next, hstep, -⟩ := Reads.cons_iff.1 hlast
    rw [htokens.unique h, hrefused] at hstep
    cases hstep

/-- A token is refused exactly if the tokens in front of it begin an expression and with it they do
not. -/
lemma exists_run_error_iff {placed : List Placed} {found : Token} {offset : Nat} :
    (∃ expected, ParserState.initial.run placed = .error (.unexpectedToken found offset expected)) ↔
      ∃ before after, placed = before ++ ⟨found, offset⟩ :: after ∧
        Begins (before.map Placed.token) ∧ ¬ Begins (before.map Placed.token ++ [found]) := by
  constructor
  · rintro ⟨expected, hrun⟩
    obtain ⟨before, t, after, s, expected', rfl, hreads, hrefused, herror⟩ :=
      run_eq_error_iff.1 hrun
    cases herror
    exact ⟨before, after, rfl, begins_iff.2 ⟨s, hreads⟩, (not_begins_iff hreads).2 ⟨_, hrefused⟩⟩
  · rintro ⟨before, after, rfl, hbegins, hnot⟩
    obtain ⟨s, hreads⟩ := begins_iff.1 hbegins
    obtain ⟨expected, hrefused⟩ := (not_begins_iff hreads).1 hnot
    exact ⟨expected, run_eq_error_iff.2 ⟨before, _, after, s, expected, rfl, hreads, hrefused, rfl⟩⟩

/-! ## The end of the tokens -/

/-- What was read is an expression, or the parser asks for more. -/
lemma finish_cases (s : ParserState) :
    (∃ e, s.finish = .ok e) ∨ ∃ expected, s.finish = .error (.unexpectedEnd expected) := by
  obtain ⟨frames, terms, phase⟩ := s
  cases phase with
  | start => exact .inr ⟨_, rfl⟩
  | dot target => exact .inr ⟨_, rfl⟩
  | term value =>
    cases frames with
    | nil => exact .inl ⟨_, rfl⟩
    | cons frame outer => exact .inr ⟨_, rfl⟩

/-- Tokens are refused at one of them, or at their end if all of them are read. -/
lemma parseTokens_eq_error_iff {placed : List Placed} {error : ParseError} :
    parseTokens placed = .error error ↔ ParserState.initial.run placed = .error error ∨
      ∃ s, ParserState.initial.run placed = .ok s ∧ s.finish = .error error := by
  rw [parseTokens]
  cases ParserState.initial.run placed with
  | error e => simp
  | ok s => simp

lemma exists_finish_error_iff {placed : List Placed} :
    (∃ expected, parseTokens placed = .error (.unexpectedEnd expected)) ↔
      Begins (placed.map Placed.token) ∧ ¬ ∃ e, IsSum (placed.map Placed.token) e := by
  constructor
  · rintro ⟨expected, herror⟩
    refine ⟨?_, fun ⟨e, hsum⟩ => ?_⟩
    · obtain hrun | ⟨s, hrun, -⟩ := parseTokens_eq_error_iff.1 herror
      · obtain ⟨before, t, after, s, expected', -, -, -, hne⟩ := run_eq_error_iff.1 hrun
        cases hne
      · exact begins_iff.2 ⟨s, run_eq_ok_iff.1 hrun⟩
    · rw [parseTokens_eq_ok_iff.2 hsum.forms] at herror
      cases herror
  · rintro ⟨hbegins, hnot⟩
    obtain ⟨s, hreads⟩ := begins_iff.1 hbegins
    have hrun := run_eq_ok_iff.2 hreads
    obtain ⟨e, hfinish⟩ | ⟨expected, hfinish⟩ := finish_cases s
    · obtain ⟨terms, value, rfl, hsum⟩ := finish_eq_ok_iff.1 hfinish
      exact absurd ⟨e, Forms.isSum ⟨terms, value, hreads, hsum⟩⟩ hnot
    · exact ⟨expected, parseTokens_eq_error_iff.2 (.inr ⟨s, hrun, hfinish⟩)⟩

/-- Code that is cut into tokens but is no expression is refused in one of two ways. Either the
error names a token, with its place: the tokens before it begin some expression, and with it they
begin none, which can be true of one token only. Or it says that the code has ended, and this
exactly if all tokens together are no expression, but begin a longer one. -/
theorem parse_error_iff {code : String} {placed : List Placed} (hlex : lex code = .ok placed) :
    (∀ found offset,
      (∃ expected, Expr.parse code = .error (.unexpectedToken found offset expected)) ↔
        ∃ before after, placed = before ++ ⟨found, offset⟩ :: after ∧
          Begins (before.map Placed.token) ∧ ¬ Begins (before.map Placed.token ++ [found])) ∧
    ((∃ expected, Expr.parse code = .error (.unexpectedEnd expected)) ↔
      BeginsLonger (placed.map Placed.token) ∧ ¬ ∃ e, IsSum (placed.map Placed.token) e) ∧
    ∀ error, Expr.parse code = .error error →
      (∃ found offset expected, error = .unexpectedToken found offset expected) ∨
        ∃ expected, error = .unexpectedEnd expected := by
  have hparse : Expr.parse code = parseTokens placed := by rw [Expr.parse, hlex]
  rw [hparse]
  refine ⟨fun found offset => ?_, ?_, fun error herror => ?_⟩
  · rw [← exists_run_error_iff]
    refine exists_congr fun expected => ?_
    rw [parseTokens_eq_error_iff, or_iff_left]
    -- at the end no token is named
    rintro ⟨s, -, hfinish⟩
    obtain ⟨e, he⟩ | ⟨expected', he⟩ := finish_cases s
    · rw [he] at hfinish
      cases hfinish
    · rw [he] at hfinish
      cases hfinish
  · rw [exists_finish_error_iff]
    exact and_congr_left begins_not_isSum_iff
  · obtain hrun | ⟨s, -, hfinish⟩ := parseTokens_eq_error_iff.1 herror
    · obtain ⟨before, t, after, s, expected, -, -, -, rfl⟩ := run_eq_error_iff.1 hrun
      exact .inl ⟨_, _, _, rfl⟩
    · obtain ⟨e, he⟩ | ⟨expected, he⟩ := finish_cases s
      · rw [he] at hfinish
        cases hfinish
      · rw [he] at hfinish
        cases hfinish
        exact .inr ⟨expected, rfl⟩

/-- A plus behind a dot is refused, and a list that ends behind a dot is not at its end. -/
theorem parse_error_iff_dot :
    Expr.parse "[a.+b]" = .error (.unexpectedToken (.mark .plus) 3 .propertyName) ∧
      Begins [.mark .openBracket, .name "a", .mark .dot] ∧
      ¬ Begins [.mark .openBracket, .name "a", .mark .dot, .mark .plus] ∧
    Expr.parse "[a." = .error (.unexpectedEnd .propertyName) ∧
      BeginsLonger [.mark .openBracket, .name "a", .mark .dot] := by
  have hlex : lex "[a.+b]" = .ok [⟨.mark .openBracket, 0⟩, ⟨.name "a", 1⟩, ⟨.mark .dot, 2⟩,
      ⟨.mark .plus, 3⟩, ⟨.name "b", 4⟩, ⟨.mark .closeBracket, 5⟩] := by cbv
  have hparse : Expr.parse "[a.+b]" = .error (.unexpectedToken (.mark .plus) 3 .propertyName) := by
    cbv
  have hlex' : lex "[a." = .ok [⟨.mark .openBracket, 0⟩, ⟨.name "a", 1⟩, ⟨.mark .dot, 2⟩] := by cbv
  have hparse' : Expr.parse "[a." = .error (.unexpectedEnd .propertyName) := by cbv
  obtain ⟨before, after, heq, hbegins, hnot⟩ :=
    ((parse_error_iff hlex).1 (.mark .plus) 3).1 ⟨_, hparse⟩
  obtain ⟨hlonger, -⟩ := (parse_error_iff hlex').2.1.1 ⟨_, hparse'⟩
  -- only one token stands at the place of the error
  have hbefore : before = [⟨.mark .openBracket, 0⟩, ⟨.name "a", 1⟩, ⟨.mark .dot, 2⟩] := by
    obtain _ | ⟨t₁, _ | ⟨t₂, _ | ⟨t₃, _ | ⟨t₄, before⟩⟩⟩⟩ := before <;> simp at heq ⊢
    · exact ⟨heq.1.symm, heq.2.1.symm, heq.2.2.1.symm⟩
    · obtain ⟨-, -, -, -, htail⟩ := heq
      obtain _ | ⟨t₅, _ | ⟨t₆, before⟩⟩ := before <;> simp at htail
  rw [hbefore] at hbegins hnot
  exact ⟨hparse, hbegins, hnot, hparse', hlonger⟩

end Expr
end Bindery
