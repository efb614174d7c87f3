import Bindery.Proofs.Expr.Nesting
import Bindery.Proofs.Template.Substitution

/-!
# Sources inside of their wrappers

The source of an expression is put into parentheses, an escaped one into those of a call before, and
only the code as a whole is parsed. A source that closes no bracket but its own cannot leave them:
it is parsed as it is alone, and an escaped one as the arguments of the call. So the sources of a
text whose code parses are expressions exactly if they are closed, and an escaped one is a single
argument (`sources_parse_iff`). Nothing checks this (`source_leaves_its_wrapper`).
-/

namespace Bindery

open Bindery.Expr

namespace Expr

/-- An expression whose values are all escaped text. -/
def IsEscaped (e : Expr) : Prop :=
  ∀ scope value, e.eval scope = .ok value →
    ∃ text, value = some (.string (Text.escapeAnywhere text))

end Expr

namespace Template

/-- A piece of a text and the term that it stands for in the code of the text: a literal for its
text, a source for the expression that it is alone, and an escaped source for a call that escapes
what it is given. -/
def Piece.StandsFor : Piece → Expr → Prop
  | .literal text, e => e = .str (String.ofList text)
  | .code false source, e => Expr.parse (String.ofList source) = .ok e
  | .code true source, e =>
    e.IsEscaped ∧ ∃ args, e = .call (.ident escapeHelper) args ∧
      (IsArgument (String.ofList source) →
        ∃ arg, args = [arg] ∧ Expr.parse (String.ofList source) = .ok arg)

/-! ## Operands -/

/-- Tokens that are read as a term that a fragment parses to, whatever follows them. -/
def Delimits (f : Fragment) (tokens : List Token) : Prop :=
  ∀ terms rest s, ParserState.Reads ⟨[], terms, .start⟩ (tokens ++ rest) s →
    ∃ e, f.ParsesTo e ∧ ParserState.Reads ⟨[], terms, .term e⟩ rest s

/-- The code of a closed source delimits it, and so does the code of a literal. -/
lemma exists_tokens_of_isClosed {f : Fragment}
    (h : ∀ source, f = .expr source → IsClosed source) :
    ∃ tokens, Lexes (operandCode f).toList tokens ∧ Delimits f tokens := by
  cases f with
  | raw text =>
    refine ⟨[.str text], lexes_quote text, fun terms rest s hreads => ?_⟩
    obtain ⟨next, hstep, hrest⟩ := ParserState.Reads.cons_iff.1 hreads
    cases hstep
    exact ⟨.str text, rfl, hrest⟩
  | expr source =>
    obtain ⟨tokens, hlexes, hbalanced⟩ := h source rfl
    refine ⟨_, lexes_paren hlexes, fun terms rest s hreads => ?_⟩
    rw [List.cons_append, List.append_assoc] at hreads
    obtain ⟨e, hforms, hrest⟩ := exists_forms_of_paren hbalanced hreads
    exact ⟨e, parse_eq_ok_iff.2 ⟨tokens, hlexes, hforms⟩, hrest⟩

/-- A sum of delimited fragments is read fragment by fragment. -/
lemma exists_terms_of_reads {fragments : List Fragment} {parts : List (List Token)}
    (h : List.Forall₂ Delimits fragments parts) {before : List Expr} {s : ParserState}
    (hreads : ParserState.Reads ⟨[], before, .start⟩ ([Token.mark .plus].intercalate parts) s) :
    ∃ terms, List.Forall₂ Fragment.ParsesTo fragments terms := by
  induction h generalizing before with
  | nil => exact ⟨[], .nil⟩
  | @cons f tokens fragments parts hdelimits hrest ih =>
    cases hrest with
    | nil =>
      obtain ⟨e, hparses, -⟩ := hdelimits before [] s (by simpa using hreads)
      exact ⟨[e], .cons hparses .nil⟩
    | @cons g others fragments parts hnext hrest =>
      have hsplit : [Token.mark .plus].intercalate (tokens :: others :: parts)
          = tokens ++ .mark .plus :: [Token.mark .plus].intercalate (others :: parts) := by
        simp [List.intercalate]
      rw [hsplit] at hreads
      obtain ⟨e, hparses, hbehind⟩ := hdelimits before _ s hreads
      obtain ⟨next, hplus, hbehind⟩ := ParserState.Reads.cons_iff.1 hbehind
      cases hplus
      obtain ⟨terms, hterms⟩ := ih hbehind
      exact ⟨e :: terms, .cons hparses hterms⟩

/-- If the code of fragments parses and their sources are closed, it is parsed to the sum of what
the fragments parse to alone. -/
lemma exists_terms_of_parse_reassemble {fragments : List Fragment} {e : Expr}
    (hclosed : ∀ source, .expr source ∈ fragments → IsClosed source)
    (h : Expr.parse (reassemble fragments) = .ok e) :
    ∃ terms, List.Forall₂ Fragment.ParsesTo (operands fragments) terms ∧ e = ofTerms terms := by
  have hparts : ∀ written ⊆ fragments, ∃ parts : List (List Token),
      List.Forall₂ (fun code tokens => Lexes code.toList tokens) (written.map operandCode) parts ∧
      List.Forall₂ Delimits written parts := by
    intro written hsub
    induction written with
    | nil => exact ⟨[], .nil, .nil⟩
    | cons f written ih =>
      obtain ⟨parts, hlexes, hdelimits⟩ := ih (List.subset_of_cons_subset hsub)
      obtain ⟨tokens, hlexesFirst, hfirst⟩ := exists_tokens_of_isClosed (f := f)
        fun source heq => hclosed source (heq ▸ hsub List.mem_cons_self)
      exact ⟨tokens :: parts, .cons hlexesFirst hlexes, .cons hfirst hdelimits⟩
  obtain ⟨parts, hlexes, hdelimits⟩ := hparts (operands fragments) List.filter_sublist.subset
  have hterms : ∃ terms, List.Forall₂ Fragment.ParsesTo (operands fragments) terms := by
    by_cases hnil : operands fragments = []
    · rw [hnil]
      exact ⟨[], .nil⟩
    · -- the code is cut into tokens in one way, which is operand by operand
      rw [reassemble, filterMap_operand?] at h
      obtain ⟨tokens, hcode, terms, value, hreads, -⟩ := parse_eq_ok_iff.1 h
      have hne : (operands fragments).map operandCode ≠ [] := by simpa using hnil
      generalize (operands fragments).map operandCode = codes at *
      cases codes with
      | nil => exact absurd rfl hne
      | cons code codes =>
        rw [(lexes_intercalate hlexes hne).unique hcode] at hreads
        exact exists_terms_of_reads hdelimits hreads
  obtain ⟨terms, hterms⟩ := hterms
  rw [parse_reassemble hterms, Except.ok.injEq] at h
  exact ⟨terms, hterms, h.symm⟩

/-! ## Escaped sources -/

/-- The tokens of an escaped source are those of a call. -/
lemma lexes_codeSource {source : List Char} {tokens : List Token}
    (h : Lexes (String.ofList source).toList tokens) :
    Lexes (codeSource true source).toList
      (.name escapeHelper :: .mark .openParen :: (tokens ++ [.mark .closeParen])) := by
  have hlex : lexFrom 0 escapeHelper.toList = .ok [⟨.name escapeHelper, 0⟩] := by cbv
  have hname : Lexes escapeHelper.toList [.name escapeHelper] := lexes_of_lexFrom hlex
  have hsep : Separates ("(" ++ String.ofList source ++ ")").toList := by
    intro c hc
    obtain rfl : c = '(' := by simpa using hc.symm
    decide
  have hall := hname.append hsep (lexes_paren h)
  simpa [codeSource, String.append_assoc] using hall

lemma isClosed_codeSource {source : List Char} (h : IsClosed (String.ofList source))
    (escaped : Bool) : IsClosed (codeSource escaped source) := by
  cases escaped with
  | false => exact h
  | true =>
    obtain ⟨tokens, hlexes, hbalanced⟩ := h
    exact ⟨_, lexes_codeSource hlexes, hbalanced.call escapeHelper⟩

/-- Whatever is escaped by a call is escaped text. -/
lemma isEscaped_call (args : List Expr) : IsEscaped (.call (.ident escapeHelper) args) := by
  intro scope value h
  rw [escapeHelper] at h
  match args, h with
  | [arg], h =>
    rw [eval] at h
    cases hvalue : arg.eval scope with
    | ok inner =>
      rw [hvalue] at h
      cases h
      exact ⟨_, rfl⟩
    | error e =>
      rw [hvalue] at h
      cases h
  | [], h => simp [eval] at h
  | _ :: _ :: _, h => simp [eval] at h

/-- A closed source stands for its term. -/
lemma standsFor_of_parsesTo {escaped : Bool} {source : List Char} {e : Expr}
    (hclosed : IsClosed (String.ofList source))
    (h : Expr.parse (codeSource escaped source) = .ok e) :
    (Piece.code escaped source).StandsFor e := by
  cases escaped with
  | false => exact h
  | true =>
    obtain ⟨tokens, hlexes, hbalanced⟩ := hclosed
    obtain ⟨all, hall, terms, value, hreads, rfl⟩ := parse_eq_ok_iff.1 h
    rw [← hall.unique (lexes_codeSource hlexes)] at hreads
    obtain ⟨next, hname, hreads⟩ := ParserState.Reads.cons_iff.1 hreads
    cases hname
    obtain ⟨args, hstate, hsingle⟩ := exists_call_of_reads hbalanced hreads
    cases hstate
    refine ⟨isEscaped_call args, args, rfl, ?_⟩
    rintro ⟨others, hothers, hargument, hne⟩
    rw [hlexes.unique hothers] at hargument hne
    obtain ⟨arg, rfl, hforms⟩ := hsingle hargument hne
    exact ⟨arg, rfl, parse_eq_ok_iff.2 ⟨tokens, hlexes, hforms⟩⟩

/-- Whether a source fits its wrapper: it leaves it nowhere, and an escaped one is one argument. -/
def FitsWrapper (escaped : Bool) (source : List Char) : Prop :=
  if escaped then IsArgument (String.ofList source) else IsClosed (String.ofList source)

lemma FitsWrapper.isClosed {escaped : Bool} {source : List Char} (h : FitsWrapper escaped source) :
    IsClosed (String.ofList source) := by
  cases escaped with
  | false => exact h
  | true => exact IsArgument.isClosed h

lemma exists_of_forall₂ {α β : Type} {R : α → β → Prop} {as : List α} {bs : List β}
    (h : List.Forall₂ R as bs) {a : α} (ha : a ∈ as) : ∃ b, R a b := by
  induction h with
  | nil => simp at ha
  | cons hfirst _ ih =>
    rcases List.mem_cons.1 ha with rfl | ha
    · exact ⟨_, hfirst⟩
    · exact ih ha

/-- Let the code of a text parse. All sources in the text are expressions exactly if each of them
fits its wrapper. If they are only closed, the code is the sum of what the pieces of the text stand
for: a source stands for the expression it is alone, and what an escaped one contributes is
escaped. -/
theorem sources_parse_iff (text : String) (e : Expr)
    (h : Expr.parse (compilePlain text) = .ok e) :
    ((∀ escaped source, .code escaped source ∈ pieces text.toList →
        ∃ e', Expr.parse (String.ofList source) = .ok e') ↔
      ∀ escaped source, .code escaped source ∈ pieces text.toList →
        FitsWrapper escaped source) ∧
    ((∀ escaped source, .code escaped source ∈ pieces text.toList →
        IsClosed (String.ofList source)) →
      ∃ terms, List.Forall₂ Piece.StandsFor (pieces text.toList) terms ∧ e = ofTerms terms) := by
  have hterms (hclosed : ∀ escaped source, .code escaped source ∈ pieces text.toList →
      IsClosed (String.ofList source)) :
      ∃ terms, List.Forall₂ Piece.StandsFor (pieces text.toList) terms ∧ e = ofTerms terms := by
    have hfragments : ∀ source, .expr source ∈ scan text → IsClosed source := by
      intro source hmem
      obtain ⟨piece, hpiece, heq⟩ := List.mem_map.1 hmem
      cases piece with
      | literal chars => simp [Piece.toFragment] at heq
      | code escaped inner =>
        rw [toFragment_code, Fragment.expr.injEq] at heq
        exact heq ▸ isClosed_codeSource (hclosed escaped inner hpiece) escaped
    obtain ⟨terms, hparses, heq⟩ := exists_terms_of_parse_reassemble hfragments h
    rw [operands_scan, scan, List.forall₂_map_left_iff] at hparses
    have hboth := (List.forall₂_and_left _ _).2 ⟨fun piece hpiece => hpiece, hparses⟩
    refine ⟨terms, hboth.imp ?_, heq⟩
    rintro piece e ⟨hpiece, hparses⟩
    cases piece with
    | literal chars => exact hparses
    | code escaped source =>
      rw [toFragment_code] at hparses
      exact standsFor_of_parsesTo (hclosed escaped source hpiece) hparses
  refine ⟨⟨fun hparse escaped source hmem => ?_, fun hfits escaped source hmem => ?_⟩, hterms⟩
  · obtain ⟨e', he'⟩ := hparse escaped source hmem
    have hargument := isArgument_of_parse he'
    cases escaped with
    | false => exact hargument.isClosed
    | true => exact hargument
  · obtain ⟨terms, hstands, -⟩ :=
      hterms fun escaped source hmem => (hfits escaped source hmem).isClosed
    obtain ⟨term, hterm⟩ := exists_of_forall₂ hstands hmem
    have hfit := hfits escaped source hmem
    cases escaped with
    | false => exact ⟨term, hterm⟩
    | true =>
      obtain ⟨-, args, -, hsingle⟩ := hterm
      obtain ⟨arg, -, hparse⟩ := hsingle hfit
      exact ⟨arg, hparse⟩

/-- Commas inside of brackets do not count, nor do brackets inside of strings. -/
theorem sources_parse_iff_brackets :
    ∃ e, Expr.parse (compilePlain "<%= f(a, [1]) %>: <%- ')' + b[0] %>") = .ok e ∧
      ∀ escaped source, .code escaped source ∈ pieces "<%= f(a, [1]) %>: <%- ')' + b[0] %>".toList →
        FitsWrapper escaped source := by
  have hpieces : pieces "<%= f(a, [1]) %>: <%- ')' + b[0] %>".toList
      = [.code false " f(a, [1]) ".toList, .literal ": ".toList,
        .code true " ')' + b[0] ".toList] := by cbv
  have hparse : Expr.parse (compilePlain "<%= f(a, [1]) %>: <%- ')' + b[0] %>")
      = .ok (.concat [.call (.ident "f") [.ident "a", .array [.num (.int 1)]], .str ": ",
        .call (.ident "escapeHtml")
          [.concat [.str ")", .index (.ident "b") (.num (.int 0))]]]) := by cbv
  refine ⟨_, hparse, (sources_parse_iff _ _ hparse).1.1 ?_⟩
  intro escaped source hmem
  rw [hpieces] at hmem
  simp only [List.mem_cons, Piece.code.injEq, reduceCtorEq, List.not_mem_nil, or_false,
    false_or] at hmem
  obtain ⟨rfl, rfl⟩ | ⟨rfl, rfl⟩ := hmem
  · exact ⟨.call (.ident "f") [.ident "a", .array [.num (.int 1)]], by cbv⟩
  · exact ⟨.concat [.str ")", .index (.ident "b") (.num (.int 0))], by cbv⟩

/-- A source that closes the call around it and opens parentheses again is no expression, and what
stands behind the call is not escaped. -/
theorem source_leaves_its_wrapper :
    pieces "<%- a) + (b %>".toList = [.code true " a) + (b ".toList] ∧
    Expr.parse " a) + (b "
      = .error (.unexpectedToken (.mark .closeParen) 2 .endOfExpression) ∧
    ∃ e, Expr.parse (compilePlain "<%- a) + (b %>") = .ok e ∧
      e.render ⟨.object [("a", .string "<"), ("b", .string "<")], "", none⟩ = .ok "&lt;<" := by
  refine ⟨by cbv, by cbv, .concat [.call (.ident "escapeHtml") [.ident "a"], .ident "b"],
    by cbv, ?_⟩
  have hescape : Text.escapeAnywhere "<" = "&lt;" := by decide
  simp [Expr.render, eval, evalSum, evalText, lookup, Value.get?, Value.lookup, stringify, hescape,
    Except.map]

end Template
end Bindery
