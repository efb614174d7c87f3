import Bindery.Expr.Parser
import Bindery.Proofs.Expr.Lexing
import Mathlib.Data.List.Forall2

/-!
# Parsing parts of code

The parser reads a parenthesized part of code as it reads the part alone, on top of the brackets
that are open around it (`Reads.above`). A chain of operands is therefore parsed to the sum of what
its operands are parsed to (`reads_chain`).
-/

namespace Bindery
namespace Expr
namespace ParserState

/-- The parser gets from one state to another over some tokens. -/
def Reads (s : ParserState) (tokens : List Token) (s' : ParserState) : Prop :=
  tokens.foldlM step? s = .ok s'

/-- The parser with further brackets open around what it reads. -/
def above (s : ParserState) (frames : List Frame) : ParserState :=
  { s with frames := s.frames ++ frames }

/-- A token that can be read can be read inside of further brackets. -/
lemma step?_above {s s' : ParserState} {token : Token} (h : s.step? token = .ok s')
    (frames : List Frame) : (s.above frames).step? token = .ok (s'.above frames) := by
  obtain ⟨opened, terms, phase⟩ := s
  -- a step that looks at the open brackets fails if there are none, so none of the ones below count
  fun_cases step? ⟨opened, terms, phase⟩ token <;> dsimp only at * <;> subst_vars <;>
    simp [step?, above, openBracket, withTerm, close] at h ⊢ <;> simp [← h]

namespace Reads

variable {s s' s'' : ParserState} {tokens others : List Token}

lemma nil : Reads s [] s := rfl

/-- A step and what is read behind it. -/
lemma cons {token : Token} (h : s.step? token = .ok s') (hrest : Reads s' tokens s'') :
    Reads s (token :: tokens) s'' := by
  rw [Reads, List.foldlM_cons, h]
  exact hrest

/-- What is read in two parts is read in one. -/
lemma append (h : Reads s tokens s') (hrest : Reads s' others s'') :
    Reads s (tokens ++ others) s'' := by
  rw [Reads, List.foldlM_append, h]
  exact hrest

/-- Tokens are read one at a time. -/
lemma cons_iff {token : Token} :
    Reads s (token :: tokens) s'' ↔ ∃ s', s.step? token = .ok s' ∧ Reads s' tokens s'' := by
  refine ⟨fun h => ?_, fun ⟨s', hstep, hrest⟩ => cons hstep hrest⟩
  rw [Reads, List.foldlM_cons] at h
  cases hstep : s.step? token with
  | error e =>
    rw [hstep] at h
    cases h
  | ok next =>
    rw [hstep] at h
    exact ⟨next, rfl, h⟩

/-- Tokens that are read in one are read in two parts, through a state between them. -/
lemma append_iff :
    Reads s (tokens ++ others) s'' ↔ ∃ s', Reads s tokens s' ∧ Reads s' others s'' := by
  refine ⟨fun h => ?_, fun ⟨s', htokens, hothers⟩ => append htokens hothers⟩
  induction tokens generalizing s with
  | nil => exact ⟨s, nil, h⟩
  | cons token tokens ih =>
    obtain ⟨next, hstep, hrest⟩ := cons_iff.1 h
    obtain ⟨s', htokens, hothers⟩ := ih hrest
    exact ⟨s', cons hstep htokens, hothers⟩

/-- Tokens that are read are read above further brackets as well. -/
lemma above (h : Reads s tokens s') (frames : List Frame) :
    Reads (s.above frames) tokens (s'.above frames) := by
  induction tokens generalizing s with
  | nil =>
    cases h
    rfl
  | cons token tokens ih =>
    obtain ⟨next, hstep, hrest⟩ := cons_iff.1 h
    exact cons (step?_above hstep frames) (ih hrest)

end Reads

/-- Where tokens stand only matters to errors. -/
lemma run_eq_ok_iff {s s' : ParserState} {placed : List Placed} :
    s.run placed = .ok s' ↔ Reads s (placed.map Placed.token) s' := by
  induction placed generalizing s with
  | nil =>
    rw [run, Except.ok.injEq]
    exact ⟨fun h => h ▸ rfl, fun h => by cases h; rfl⟩
  | cons t rest ih =>
    rw [run, step, List.map_cons, Reads, List.foldlM_cons]
    cases hstep : s.step? t.token with
    | error e => constructor <;> intro h <;> cases h
    | ok next => exact ih

end ParserState

open ParserState

/-! ## Expressions that tokens form -/

/-- Tokens that form an expression as a whole. -/
def Forms (tokens : List Token) (e : Expr) : Prop :=
  ∃ terms value, Reads .initial tokens ⟨[], terms, .term value⟩ ∧ sum terms value = e

/-- Tokens that form a term of a sum. -/
def FormsTerm (tokens : List Token) (e : Expr) : Prop :=
  ∀ terms, Reads ⟨[], terms, .start⟩ tokens ⟨[], terms, .term e⟩

/-- An expression is finished exactly behind a term, with no bracket open. -/
lemma finish_eq_ok_iff {s : ParserState} {e : Expr} :
    s.finish = .ok e ↔ ∃ terms value, s = ⟨[], terms, .term value⟩ ∧ sum terms value = e := by
  constructor
  · intro h
    obtain ⟨frames, terms, phase⟩ := s
    cases phase <;> cases frames <;> simp only [finish, reduceCtorEq, Except.ok.injEq] at h
    exact ⟨terms, _, rfl, h⟩
  · rintro ⟨terms, value, rfl, rfl⟩
    rfl

/-- Tokens are parsed to the expression that they form. -/
lemma parseTokens_eq_ok_iff {placed : List Placed} {e : Expr} :
    parseTokens placed = .ok e ↔ Forms (placed.map Placed.token) e := by
  rw [parseTokens]
  constructor
  · intro h
    split at h
    · rename_i s hrun
      obtain ⟨terms, value, rfl, hsum⟩ := finish_eq_ok_iff.1 h
      exact ⟨terms, value, run_eq_ok_iff.1 hrun, hsum⟩
    · cases h
  · rintro ⟨terms, value, hreads, hsum⟩
    rw [run_eq_ok_iff.2 hreads]
    exact finish_eq_ok_iff.2 ⟨terms, value, rfl, hsum⟩

/-- Code stands for the expression that its tokens form. -/
lemma parse_eq_ok_iff {code : String} {e : Expr} :
    parse code = .ok e ↔ ∃ tokens, Lexes code.toList tokens ∧ Forms tokens e := by
  constructor
  · intro h
    rw [parse, lex] at h
    split at h
    · rename_i placed hlex
      exact ⟨_, lexes_of_lexFrom hlex, parseTokens_eq_ok_iff.1 h⟩
    · cases h
  · rintro ⟨tokens, hlexes, hforms⟩
    obtain ⟨placed, hlex, rfl⟩ := hlexes 0
    rw [parse, lex, hlex]
    exact parseTokens_eq_ok_iff.2 hforms

/-- What forms an expression is a term when it stands in parentheses. -/
lemma Forms.paren {tokens : List Token} {e : Expr} (h : Forms tokens e) :
    FormsTerm (.mark .openParen :: (tokens ++ [.mark .closeParen])) e := by
  intro terms
  obtain ⟨inner, value, hreads, rfl⟩ := h
  -- the bracket keeps the terms before it until it is closed
  have hinside := hreads.above [⟨.paren, terms⟩]
  exact Reads.cons rfl (hinside.append (Reads.cons rfl Reads.nil))

lemma formsTerm_str (text : String) : FormsTerm [.str text] (.str text) :=
  fun _ => Reads.cons rfl Reads.nil

/-- The sum of some terms; no terms are the empty text. -/
def ofTerms : List Expr → Expr
  | [] => .str ""
  | [e] => e
  | es => .concat es

/-- The sum that is read is that of its terms in order. -/
lemma sum_eq_ofTerms (terms : List Expr) (last : Expr) :
    sum terms last = ofTerms (terms.reverse ++ [last]) := by
  cases terms with
  | nil => rfl
  | cons e terms =>
    have hlen : ∀ es : List Expr, 2 ≤ es.length → ofTerms es = .concat es := by
      intro es hes
      match es, hes with
      | _ :: _ :: _, _ => rfl
    rw [hlen _ (by simp)]
    simp [sum]

/-- Terms with pluses between them form their sum. -/
lemma forms_intercalate {parts : List (List Token)} {terms : List Expr}
    (h : List.Forall₂ FormsTerm parts terms) (hne : terms ≠ []) :
    Forms ([Token.mark .plus].intercalate parts) (ofTerms terms) := by
  -- the terms that were read before stand in the state, last first
  have hreads : ∀ before, ∃ read last,
      Reads ⟨[], before, .start⟩ ([Token.mark .plus].intercalate parts) ⟨[], read, .term last⟩ ∧
      read.reverse ++ [last] = before.reverse ++ terms := by
    induction h with
    | nil => exact absurd rfl hne
    | @cons part term parts terms hterm hrest ih =>
      intro before
      cases hrest with
      | nil => exact ⟨before, term, by simpa using hterm before, by simp⟩
      | cons hnext hrest =>
        obtain ⟨read, last, hreads, heq⟩ := ih (List.cons_ne_nil _ _) (term :: before)
        refine ⟨read, last, ?_, by simpa using heq⟩
        have hplus : Reads ⟨[], before, .term term⟩ [.mark .plus] ⟨[], term :: before, .start⟩ :=
          Reads.cons rfl Reads.nil
        simpa [List.intercalate] using (hterm before).append (hplus.append hreads)
  obtain ⟨read, last, hread, heq⟩ := hreads []
  refine ⟨read, last, hread, ?_⟩
  rw [sum_eq_ofTerms, heq]
  simp

end Expr
end Bindery
