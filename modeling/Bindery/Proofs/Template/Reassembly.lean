import Bindery.Proofs.Expr.Parsing
import Bindery.Template.Fragment
import Mathlib

/-!
# The expression of reassembled code

Fragments are written as code, and the code is parsed. Each fragment stands for a term of its own,
a literal for its text and a source for the expression it is parsed to alone, and the code is
parsed to the sum of these terms (`parse_reassemble`), which the fragments determine
(`parse_reassemble_of_sources_parse`).
-/

namespace Bindery
namespace Template

open Bindery.Expr

/-- A fragment and the term that it stands for in code. -/
def Fragment.ParsesTo : Fragment → Expr → Prop
  | .raw text, e => e = .str text
  | .expr source, e => Expr.parse source = .ok e

/-- The fragments that are written as operands. -/
def operands (fragments : List Fragment) : List Fragment :=
  fragments.filter (· ≠ .raw "")

/-- The code of an operand. -/
def operandCode : Fragment → String
  | .raw text => Json.quote text
  | .expr source => "(" ++ source ++ ")"

/-- The operands are written by their codes. -/
lemma filterMap_operand? (fragments : List Fragment) :
    fragments.filterMap operand? = (operands fragments).map operandCode := by
  induction fragments with
  | nil => rfl
  | cons f rest ih =>
    rw [operands] at ih ⊢
    cases f with
    | raw text =>
      by_cases h : text = ""
      · subst h
        simpa [operand?] using ih
      · simp [operand?, operandCode, h, ih]
    | expr source => simp [operand?, operandCode, ih]

/-- The tokens of code in parentheses. -/
lemma lexes_paren {source : String} {tokens : List Token} (h : Lexes source.toList tokens) :
    Lexes ("(" ++ source ++ ")").toList
      (.mark .openParen :: (tokens ++ [.mark .closeParen])) := by
  -- the parenthesis ends the last token of the source
  have hclose : Lexes [')'] [.mark .closeParen] := Lexes.mark .closeParen lexes_nil
  have hsep : Separates [')'] := by
    intro c hc
    obtain rfl : c = ')' := by simpa using hc.symm
    decide
  have hinside := Lexes.mark .openParen (h.append hsep hclose)
  simpa [Mark.char] using hinside

/-- An operand is a term, whatever stands around it. -/
lemma exists_tokens_of_parsesTo {f : Fragment} {e : Expr} (h : f.ParsesTo e) :
    ∃ tokens, Lexes (operandCode f).toList tokens ∧ FormsTerm tokens e := by
  cases f with
  | raw text =>
    obtain rfl : e = .str text := h
    exact ⟨[.str text], lexes_quote text, formsTerm_str text⟩
  | expr source =>
    obtain ⟨tokens, hlexes, hforms⟩ := parse_eq_ok_iff.1 h
    exact ⟨_, lexes_paren hlexes, hforms.paren⟩

/-- What stands between two operands is a plus. -/
lemma lexes_join {rest : List Char} {tokens : List Token} (h : Lexes rest tokens) :
    Lexes (join.toList ++ rest) (.mark .plus :: tokens) := by
  have hjoin : join.toList = [' ', '+', '\n', ' ', ' ', ' ', ' '] := by decide
  have hspace : Text.isBlank ' ' = true := by decide
  rw [hjoin]
  exact Lexes.blank hspace (Lexes.mark .plus (Lexes.blank (by decide) (Lexes.blank hspace
    (Lexes.blank hspace (Lexes.blank hspace (Lexes.blank hspace h))))))

lemma separates_join (rest : List Char) : Separates (join.toList ++ rest) := by
  have hjoin : join.toList = [' ', '+', '\n', ' ', ' ', ' ', ' '] := by decide
  rw [hjoin]
  intro c hc
  obtain rfl : c = ' ' := by simpa using hc.symm
  decide

/-- The tokens of operands with pluses between them. -/
lemma lexes_intercalate {codes : List String} {parts : List (List Token)}
    (h : List.Forall₂ (fun code tokens => Lexes code.toList tokens) codes parts)
    (hne : codes ≠ []) :
    Lexes (join.intercalate codes).toList ([Token.mark .plus].intercalate parts) := by
  induction h with
  | nil => exact absurd rfl hne
  | cons hpart hrest ih =>
    cases hrest with
    | nil => simpa using hpart
    | cons hnext hrest =>
      have hall := hpart.append (separates_join _) (lexes_join (ih (List.cons_ne_nil _ _)))
      simpa [List.intercalate, String.intercalate_cons_cons, String.toList_append] using hall

/-- Each operand is read as tokens that form a term. -/
lemma exists_tokens_of_forall₂ {fragments : List Fragment} {terms : List Expr}
    (h : List.Forall₂ Fragment.ParsesTo fragments terms) :
    ∃ parts : List (List Token),
      List.Forall₂ (fun code tokens => Lexes code.toList tokens) (fragments.map operandCode) parts ∧
      List.Forall₂ FormsTerm parts terms := by
  induction h with
  | nil => exact ⟨[], .nil, .nil⟩
  | cons hparses _ ih =>
    obtain ⟨tokens, hlexes, hforms⟩ := exists_tokens_of_parsesTo hparses
    obtain ⟨parts, hlexesRest, hformsRest⟩ := ih
    exact ⟨tokens :: parts, .cons hlexes hlexesRest, .cons hforms hformsRest⟩

/-- The code of fragments is parsed to the sum of the terms that its operands stand for. -/
lemma parse_reassemble {fragments : List Fragment} {terms : List Expr}
    (h : List.Forall₂ Fragment.ParsesTo (operands fragments) terms) :
    Expr.parse (reassemble fragments) = .ok (ofTerms terms) := by
  rw [parse_eq_ok_iff, reassemble, filterMap_operand?]
  obtain ⟨parts, hlexes, hforms⟩ := exists_tokens_of_forall₂ h
  generalize operands fragments = written at h hlexes ⊢
  cases h with
  | nil => exact ⟨_, lexes_quote "", [], .str "", formsTerm_str "" [], rfl⟩
  | cons _ _ =>
    exact ⟨_, lexes_intercalate hlexes (List.cons_ne_nil _ _),
      forms_intercalate hforms (List.cons_ne_nil _ _)⟩

/-- A fragment stands for one term at most. -/
lemma Fragment.ParsesTo.unique {f : Fragment} {e e' : Expr} (h : f.ParsesTo e)
    (h' : f.ParsesTo e') : e = e' := by
  cases f with
  | raw text =>
    have hraw : e = .str text := h
    have hraw' : e' = .str text := h'
    rw [hraw, hraw']
  | expr source =>
    have hparse : Expr.parse source = .ok e := h
    have hparse' : Expr.parse source = .ok e' := h'
    rw [hparse] at hparse'
    exact Except.ok.inj hparse'

/-- Fragments are parsed to one list of terms. -/
lemma forall₂_parsesTo_unique {fragments : List Fragment} {terms others : List Expr}
    (h : List.Forall₂ Fragment.ParsesTo fragments terms)
    (h' : List.Forall₂ Fragment.ParsesTo fragments others) : others = terms := by
  induction h generalizing others with
  | nil =>
    cases h'
    rfl
  | cons hparses _ ih =>
    cases h' with
    | cons hparses' hrest => rw [hparses'.unique hparses, ih hrest]

/-- Fragments are parsed if their sources are. -/
lemma exists_forall₂_parsesTo {fragments : List Fragment}
    (h : ∀ source, .expr source ∈ fragments → ∃ e, Expr.parse source = .ok e) :
    ∃ terms, List.Forall₂ Fragment.ParsesTo fragments terms := by
  induction fragments with
  | nil => exact ⟨[], .nil⟩
  | cons f rest ih =>
    obtain ⟨terms, hterms⟩ := ih fun source hmem => h source (List.mem_cons_of_mem f hmem)
    cases f with
    | raw text => exact ⟨.str text :: terms, .cons rfl hterms⟩
    | expr source =>
      obtain ⟨e, he⟩ := h source List.mem_cons_self
      exact ⟨e :: terms, .cons he hterms⟩

/-- If every expression among some fragments parses alone, the code of the fragments parses, and the
fragments determine the outcome. Those that are not empty stand for one list of terms and no other,
a literal for its text and a source for what it parses to alone, in order; the code stands for the
empty text if there are none, for the term itself if there is one, and for their sum else. -/
theorem parse_reassemble_of_sources_parse (fragments : List Fragment)
    (h : ∀ source, .expr source ∈ fragments → ∃ e, Expr.parse source = .ok e) :
    ∃ terms, (∀ others, List.Forall₂ Fragment.ParsesTo (operands fragments) others ↔
        others = terms) ∧
      Expr.parse (reassemble fragments) = .ok (ofTerms terms) := by
  have hoperands : ∀ source, .expr source ∈ operands fragments →
      ∃ e, Expr.parse source = .ok e :=
    fun source hmem => h source (List.mem_of_mem_filter hmem)
  obtain ⟨terms, hterms⟩ := exists_forall₂_parsesTo hoperands
  refine ⟨terms, fun others => ⟨fun hothers => ?_, fun heq => ?_⟩, parse_reassemble hterms⟩
  · exact forall₂_parsesTo_unique hterms hothers
  · rw [heq]
    exact hterms

/-- Literals with quotes and line breaks, an empty one, and sums inside of the sum. -/
theorem parse_reassemble_of_sources_parse_mixed :
    (∀ source, Fragment.expr source ∈
        [.raw "a \"b\"\n", .raw "", .expr "x + 1", .expr "f('é').y"] →
      ∃ e, Expr.parse source = .ok e) ∧
    Expr.parse (reassemble [.raw "a \"b\"\n", .raw "", .expr "x + 1", .expr "f('é').y"])
      = .ok (.concat [.str "a \"b\"\n", .concat [.ident "x", .num (.int 1)],
          .member (.call (.ident "f") [.str "é"]) "y"]) := by
  have hsum : Expr.parse "x + 1" = .ok (.concat [.ident "x", .num (.int 1)]) := by cbv
  have hmember : Expr.parse "f('é').y" = .ok (.member (.call (.ident "f") [.str "é"]) "y") := by
    cbv
  have hsources : ∀ source, Fragment.expr source ∈
      [.raw "a \"b\"\n", .raw "", .expr "x + 1", .expr "f('é').y"] →
      ∃ e, Expr.parse source = .ok e := by
    intro source hmem
    simp only [List.mem_cons, reduceCtorEq, Fragment.expr.injEq, List.not_mem_nil, or_false,
      false_or] at hmem
    rcases hmem with rfl | rfl
    · exact ⟨_, hsum⟩
    · exact ⟨_, hmember⟩
  refine ⟨hsources, ?_⟩
  obtain ⟨terms, hterms, hparse⟩ := parse_reassemble_of_sources_parse _ hsources
  have heq : _ = terms := (hterms _).1 (.cons rfl (.cons hsum (.cons hmember .nil)))
  rw [hparse, ← heq]
  rfl

end Template
end Bindery
