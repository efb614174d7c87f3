import Bindery.Proofs.Expr.Sums
import Bindery.Proofs.Template.Cutting
import Bindery.Proofs.Template.Reassembly
import Mathlib

/-!
# Rendering a text with expressions

A text is compiled to a sum of its literals and expressions, and the sum is rendered. The plus that
holds the parts of a text together is the one that adds numbers, so what comes out is the text with
each expression replaced by its value except where the text starts with expressions of numbers:
these are added up first (`render_compilePlain`, `two_numbers_are_added`).
-/

namespace Bindery

open Bindery.Expr

/-! ## Substituting values -/

namespace Template

/-- The source of a delimited expression, inside of its wrapper if it is an escaped one. -/
def codeSource (escaped : Bool) (source : List Char) : String :=
  if escaped then escapeHelper ++ "(" ++ String.ofList source ++ ")" else String.ofList source

/-- Code that stands alone is an expression with a value in a scope. -/
def Evaluates (scope : Expr.Scope) (source : String) (value : Option Value) : Prop :=
  ∃ e, Expr.parse source = .ok e ∧ e.HasValue scope value

/-- The value of a piece of a text, given the values of sources. -/
def Piece.value (value : String → Option Value) : Piece → Option Value
  | .literal text => some (.string (String.ofList text))
  | .code escaped source => value (codeSource escaped source)

/-- What a piece of a text is replaced by: an expression by the text of its value. -/
def Piece.replaced (value : String → Option Value) : Piece → List Char
  | .literal text => text
  | .code escaped source => (stringify (value (codeSource escaped source))).toList

/-- A text with every expression in it replaced by the text of its value. -/
def substituted (value : String → Option Value) (text : String) : String :=
  String.ofList ((pieces text.toList).flatMap (Piece.replaced value))

lemma toFragment_code (escaped : Bool) (source : List Char) :
    (Piece.code escaped source).toFragment = .expr (codeSource escaped source) := by
  cases escaped <;> rfl

/-- Joining the values of the pieces is replacing each of them. -/
lemma joined_value (value : String → Option Value) (parts : List Piece) :
    joined (parts.map (Piece.value value))
      = String.ofList (parts.flatMap (Piece.replaced value)) := by
  induction parts with
  | nil => rfl
  | cons piece parts ih =>
    rw [joined] at ih ⊢
    rw [List.map_cons, List.map_cons, String.join_cons, ih, List.flatMap_cons, String.ofList_append]
    cases piece <;> simp [Piece.value, Piece.replaced, stringify]

/-- Every fragment of a text becomes an operand. -/
lemma operands_scan (text : String) : operands (scan text) = scan text := by
  rw [operands, List.filter_eq_self]
  intro f hf
  have hne : f ≠ .raw "" := fun heq => raw_empty_not_mem_scan text (heq ▸ hf)
  exact decide_eq_true hne

/-- The terms that the pieces of a text stand for, with their values. -/
lemma exists_terms {scope : Expr.Scope} {value : String → Option Value} {parts : List Piece}
    (h : ∀ escaped source, .code escaped source ∈ parts →
      Evaluates scope (codeSource escaped source) (value (codeSource escaped source))) :
    ∃ terms, List.Forall₂ Fragment.ParsesTo (parts.map Piece.toFragment) terms ∧
      List.Forall₂ (HasValue scope) terms (parts.map (Piece.value value)) := by
  induction parts with
  | nil => exact ⟨[], .nil, .nil⟩
  | cons piece parts ih =>
    obtain ⟨terms, hparses, hvalues⟩ := ih fun escaped source hmem =>
      h escaped source (List.mem_cons_of_mem _ hmem)
    cases piece with
    | literal text =>
      refine ⟨.str (String.ofList text) :: terms, .cons rfl hparses, .cons ?_ hvalues⟩
      rw [HasValue, eval, Piece.value]
    | code escaped source =>
      obtain ⟨e, hparse, hvalue⟩ := h escaped source List.mem_cons_self
      refine ⟨e :: terms, .cons ?_ hparses, .cons hvalue hvalues⟩
      rw [toFragment_code]
      exact hparse

/-- A text each of whose expressions has a value compiles to code that is rendered as the values of
the pieces of the text, one after the other, with the numbers that come first added up. Unless the
text starts with two expressions of numbers, this is the text with every expression replaced, where
it stands, by the text of its value. -/
theorem render_compilePlain (text : String) (scope : Expr.Scope) (value : String → Option Value)
    (h : ∀ escaped source, Piece.code escaped source ∈ pieces text.toList →
      Evaluates scope (codeSource escaped source) (value (codeSource escaped source))) :
    let values := (pieces text.toList).map (Piece.value value)
    (pieces text.toList).flatMap Piece.written = text.toList ∧
    ∃ code, Expr.parse (compilePlain text) = .ok code ∧
      code.render scope = .ok (joined (addLeading values)) ∧
      (code.render scope = .ok (substituted value text) ↔
        joined (addLeading values) = joined values) ∧
      (¬ StartsWithNumbers values → code.render scope = .ok (substituted value text)) := by
  intro values
  obtain ⟨terms, hparses, hvalues⟩ := exists_terms h
  have hparse : Expr.parse (compilePlain text) = .ok (ofTerms terms) := by
    apply parse_reassemble
    rw [operands_scan]
    exact hparses
  have hrender := render_ofTerms hvalues
  have hsubstituted : substituted value text = joined values := (joined_value value _).symm
  refine ⟨flatMap_written_pieces _, ofTerms terms, hparse, hrender, ?_, fun hstart => ?_⟩
  · rw [hrender, hsubstituted, Except.ok.injEq]
  · rw [hrender, hsubstituted, addLeading_eq_self hstart]

/-- The scope without a context and assets. -/
def bareScope : Expr.Scope := ⟨.null, "", none⟩

/-- The values of the sources of two numbers. -/
def oneOrTwo (source : String) : Option Value :=
  if source = " 1 " then some (.number (.int 1)) else some (.number (.int 2))

lemma evaluates_one : Evaluates bareScope " 1 " (oneOrTwo " 1 ") := by
  refine ⟨.num (.int 1), by cbv, ?_⟩
  rw [HasValue, eval]
  rfl

lemma evaluates_two : Evaluates bareScope " 2 " (oneOrTwo " 2 ") := by
  refine ⟨.num (.int 2), by cbv, ?_⟩
  rw [HasValue, eval]
  rfl

/-- A text between two numbers keeps them apart. -/
theorem render_compilePlain_text_between :
    (∀ escaped source, Piece.code escaped source ∈ pieces "<%= 1 %>-<%= 2 %>".toList →
      Evaluates bareScope (codeSource escaped source) (oneOrTwo (codeSource escaped source))) ∧
    ∃ code, Expr.parse (compilePlain "<%= 1 %>-<%= 2 %>") = .ok code ∧
      code.render bareScope = .ok "1-2" := by
  have hpieces : pieces "<%= 1 %>-<%= 2 %>".toList
      = [.code false " 1 ".toList, .literal "-".toList, .code false " 2 ".toList] := by cbv
  have hvalues : ∀ escaped source, Piece.code escaped source ∈ pieces "<%= 1 %>-<%= 2 %>".toList →
      Evaluates bareScope (codeSource escaped source) (oneOrTwo (codeSource escaped source)) := by
    intro escaped source hmem
    rw [hpieces] at hmem
    simp only [List.mem_cons, Piece.code.injEq, reduceCtorEq, List.not_mem_nil, or_false,
      false_or] at hmem
    obtain ⟨rfl, rfl⟩ | ⟨rfl, rfl⟩ := hmem
    · exact evaluates_one
    · exact evaluates_two
  refine ⟨hvalues, ?_⟩
  obtain ⟨-, code, hparse, -, -, hrender⟩ :=
    render_compilePlain "<%= 1 %>-<%= 2 %>" bareScope oneOrTwo hvalues
  refine ⟨code, hparse, ?_⟩
  rw [hrender]
  · rw [substituted, hpieces]
    decide
  · rw [hpieces]
    rintro ⟨a, b, rest, h⟩
    simp [Piece.value] at h

/-- Two numbers at the start of a text do not come out side by side. -/
theorem two_numbers_are_added :
    Evaluates bareScope " 1 " (oneOrTwo " 1 ") ∧ Evaluates bareScope " 2 " (oneOrTwo " 2 ") ∧
    pieces "<%= 1 %><%= 2 %>".toList = [.code false " 1 ".toList, .code false " 2 ".toList] ∧
    substituted oneOrTwo "<%= 1 %><%= 2 %>" = "12" ∧
    ∃ code, Expr.parse (compilePlain "<%= 1 %><%= 2 %>") = .ok code ∧
      code.render bareScope = .ok "3" := by
  have hpieces : pieces "<%= 1 %><%= 2 %>".toList
      = [.code false " 1 ".toList, .code false " 2 ".toList] := by cbv
  refine ⟨evaluates_one, evaluates_two, hpieces, ?_, .concat [.num (.int 1), .num (.int 2)],
    by cbv, ?_⟩
  · rw [substituted, hpieces]
    decide
  · have hsum : addNumbers (.int 1) (.int 2) = .number (.int 3) := rfl
    simp [Expr.render, eval, evalSum, hsum, stringify, Json.print, Number.toText, Except.map]
    rfl

end Template
end Bindery
