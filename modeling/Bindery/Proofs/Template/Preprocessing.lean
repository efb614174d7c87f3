import Bindery.Proofs.Template.Marks
import Bindery.Proofs.Template.Substitution
import Mathlib

/-!
# Compiling a text by way of placeholders

A text may be compiled straight to code, or its expressions may be taken out and put back at their
placeholders. What is written in between is a text of runs and placeholders (`WrittenAs`), so both
ways lead to the same code exactly if no literal run of the text reads as a placeholder
(`reassemble_preprocess`). Nothing keeps an author from writing such a run
(`literal_is_taken_for_placeholder`).
-/

namespace Bindery
namespace Template

open Bindery.Expr

variable {fragments rest others : List Fragment}

/-- Whether no literal run among fragments reads as a placeholder, not even together with the first
tildes of the placeholder that is written behind it. -/
def ReadsPlain : List Fragment → Prop
  | [] => True
  | [.raw text] => holdsPlaceholder text = false
  | .raw text :: rest => holdsPlaceholder (text ++ "~~") = false ∧ ReadsPlain rest
  | .expr _ :: rest => ReadsPlain rest

/-- Fragments whose literals do not hold the start of a placeholder read plain. -/
lemma readsPlain_of_isRun (h : ∀ text, .raw text ∈ fragments → IsRun text.toList) :
    ReadsPlain fragments := by
  have hrest (f : Fragment) (rest : List Fragment)
      (h : ∀ text, .raw text ∈ f :: rest → IsRun text.toList) :
      ∀ text, .raw text ∈ rest → IsRun text.toList :=
    fun text hmem => h text (List.mem_cons_of_mem f hmem)
  fun_induction ReadsPlain fragments with
  | case1 => trivial
  | case2 text => exact holdsPlaceholder_eq_false.2 (firstPlaceholder_eq_none (h text (by simp)))
  | case3 text rest hne ih =>
    refine ⟨?_, ih (hrest _ _ h)⟩
    have htildes := (h text List.mem_cons_self).append_tilde.append_tilde
    rw [List.append_assoc] at htildes
    rw [holdsPlaceholder_eq_false, String.toList_append]
    exact firstPlaceholder_eq_none htildes
  | case4 source rest ih => exact ih (hrest _ _ h)

/-- A text without the start of a placeholder has only such literals. -/
lemma readsPlain_scan {text : String} (h : IsRun text.toList) : ReadsPlain (scan text) := by
  refine readsPlain_of_isRun fun part hmem hstart => h ?_
  obtain ⟨piece, hpiece, heq⟩ := List.mem_map.1 hmem
  have hwritten : piece.written = part.toList := by
    cases piece with
    | literal chars =>
      simp only [Piece.toFragment, Fragment.raw.injEq] at heq
      rw [← heq, String.toList_ofList, Piece.written]
    | code escaped source => cases escaped <;> simp [Piece.toFragment] at heq
  -- the pieces are the text, so each stands in it
  obtain ⟨before, after, hsplit⟩ := List.append_of_mem hpiece
  have hpart : part.toList <:+: text.toList := by
    rw [← flatMap_written_pieces text.toList, hsplit, List.flatMap_append, List.flatMap_cons,
      hwritten, ← List.append_assoc]
    exact List.infix_append _ _ _
  exact hstart.trans hpart

/-! ## What is written for fragments -/

namespace Environment

variable {env : Environment} {first : String} {marked : List (Nat × String)}

/-- What is written for fragments is a text of runs and placeholders: these are numbered on from
the environment, and the runs and the sources are the fragments. -/
structure WrittenAs (env : Environment) (fragments : List Fragment) (first : String)
    (marked : List (Nat × String)) : Prop where
  body : (env.substitute fragments).1 = interleave first marked
  registered : (env.substitute fragments).2.sources.length = env.sources.length + marked.length
  kept : env.sources <+: (env.substitute fragments).2.sources
  indices : marked.map Prod.fst = List.range' env.sources.length marked.length
  count : marked.length = fragments.countP Fragment.isExpr
  parts : interleaved (env.substitute fragments).2.sources first marked = fragments
  plain : Inert first marked ↔ ReadsPlain fragments

lemma rawRun_nil : rawRun [] = [] := rfl

/-- A run is written as it is. -/
lemma writtenAs_rawRun (env : Environment) (run : List Char) :
    WrittenAs env (rawRun run) (String.ofList run) [] := by
  by_cases hrun : run = []
  · subst hrun
    have hinert : Inert (String.ofList []) [] ↔ ReadsPlain [] := by
      simp [inert_nil, firstPlaceholder, ReadsPlain]
    exact ⟨by simp [rawRun, substitute], rfl, List.prefix_refl _, rfl, rfl,
      by simp [interleaved_nil, rawRun], hinert⟩
  · have hfragments : rawRun run = [.raw (String.ofList run)] := by simp [rawRun, hrun]
    rw [hfragments]
    exact ⟨by simp [substitute], rfl, List.prefix_refl _, rfl, rfl,
      by simp [interleaved_nil, hfragments], .rfl⟩

/-- A run and an expression are written as the run and a placeholder in front of what is written
for the rest. -/
lemma WrittenAs.cons {source : String} (h : WrittenAs (env.replace source).2 rest first marked)
    (run : List Char) :
    WrittenAs env (rawRun run ++ .expr source :: rest) (String.ofList run)
      ((env.sources.length, first) :: marked) := by
  have hsubstitute : env.substitute (rawRun run ++ .expr source :: rest)
      = (String.ofList run ++ (placeholder env.sources.length
            ++ ((env.replace source).2.substitute rest).1),
          ((env.replace source).2.substitute rest).2) := by
    by_cases hrun : run = []
    · simp [rawRun, hrun, substitute, replace]
    · simp [rawRun, hrun, substitute, replace]
  have hlen : (env.replace source).2.sources.length = env.sources.length + 1 := by simp [replace]
  have hkept : env.sources ++ [source] <+: ((env.replace source).2.substitute rest).2.sources :=
    h.kept
  have hlt : env.sources.length < ((env.replace source).2.substitute rest).2.sources.length := by
    rw [h.registered, hlen]
    omega
  have hget : ((env.replace source).2.substitute rest).2.sources[env.sources.length] = source := by
    obtain ⟨more, hmore⟩ := hkept
    simp [← hmore]
  constructor
  · rw [hsubstitute, h.body]
    simp [interleave, String.join_cons, String.append_assoc]
  · rw [hsubstitute, h.registered, hlen, List.length_cons]
    omega
  · rw [hsubstitute]
    exact (List.prefix_append _ _).trans hkept
  · rw [List.map_cons, h.indices, hlen, List.length_cons, List.range'_succ]
  · have hexpr : (rawRun run ++ .expr source :: rest).countP Fragment.isExpr
        = rest.countP Fragment.isExpr + 1 := by
      by_cases hrun : run = [] <;> simp [rawRun, hrun, Fragment.isExpr, List.countP_cons]
    rw [hexpr, List.length_cons, h.count]
  · rw [hsubstitute, interleaved_cons hlt, String.toList_ofList, hget, h.parts]
  · by_cases hrun : run = []
    · -- in front of a placeholder an empty run is inert
      have hempty : holdsPlaceholder (String.ofList run ++ "~~") = false := by
        rw [hrun]
        decide
      rw [Inert, hempty, h.plain]
      simp [rawRun, hrun, ReadsPlain]
    · rw [Inert, h.plain]
      simp [rawRun, hrun, ReadsPlain]

/-- What is written for the pieces of a text. -/
lemma exists_writtenAs_pieces (env : Environment) (s : List Char) :
    ∃ first marked, WrittenAs env ((pieces s).map Piece.toFragment) first marked := by
  fun_induction pieces s generalizing env with
  | case1 s hfirst hempty => exact ⟨_, _, env.writtenAs_rawRun []⟩
  | case2 s hfirst hempty =>
    have hrun := env.writtenAs_rawRun s
    rw [rawRun, if_neg hempty] at hrun
    exact ⟨_, _, hrun⟩
  | case3 s before escaped source after hfirst rest hempty ih =>
    obtain ⟨first, marked, hrest⟩ := ih (env.replace (codeSource escaped source)).2
    have hcons := hrest.cons []
    rw [rawRun_nil, List.nil_append, ← toFragment_code, ← List.map_cons] at hcons
    exact ⟨_, _, hcons⟩
  | case4 s before escaped source after hfirst rest hempty ih =>
    obtain ⟨first, marked, hrest⟩ := ih (env.replace (codeSource escaped source)).2
    have hcons := hrest.cons before
    rw [rawRun, if_neg hempty, ← toFragment_code, ← List.map_cons] at hcons
    exact ⟨_, _, hcons⟩

/-- Preparing a text writes its fragments. -/
lemma preprocess_eq_substitute (env : Environment) (text : String) :
    env.preprocess text = env.substitute (scan text) := by
  rw [preprocess]
  by_cases hexpr : hasExpressions text = true
  · rw [if_pos hexpr]
    rfl
  · have hnone : firstCode text.toList = none := by simpa [hasExpressions] using hexpr
    rw [if_neg hexpr, scan, pieces]
    split
    · split
      · rename_i hempty
        have htext : text = "" := by simpa [List.isEmpty_iff] using hempty
        rw [htext]
        rfl
      · simp [Piece.toFragment, substitute]
    · rename_i hfirst
      rw [hnone] at hfirst
      simp at hfirst

end Environment

/-! ## Codes that agree -/

open Environment (rawRun rawRun_nil)

/-- What the operands of fragments add to a sum that was begun. -/
def added (fragments : List Fragment) : String :=
  String.join ((fragments.filterMap operand?).map (join ++ ·))

lemma intercalate_cons_eq (operand : String) (operands : List String) :
    join.intercalate (operand :: operands)
      = operand ++ String.join (operands.map (join ++ ·)) := by
  induction operands generalizing operand with
  | nil => simp
  | cons next operands ih =>
    rw [String.intercalate_cons_cons, ih, List.map_cons, String.join_cons, String.append_assoc,
      String.append_assoc]

/-- The first operand comes in front of what is added. -/
lemma reassemble_of_operand {f : Fragment} {operand : String} (h : operand? f = some operand) :
    reassemble (f :: rest) = operand ++ added rest := by
  rw [reassemble, List.filterMap_cons_some h]
  exact intercalate_cons_eq operand _

/-- The code of a run is its quoted text, in front of what the rest adds. -/
lemma reassemble_rawRun {run : List Char} (hrun : run ≠ []) :
    reassemble (rawRun run ++ others) = Json.quote (String.ofList run) ++ added others := by
  rw [rawRun, if_neg (by simpa using hrun)]
  exact reassemble_of_operand (by simp [operand?, hrun])

lemma reassemble_expr (source : String) :
    reassemble (.expr source :: rest) = "(" ++ source ++ ")" ++ added rest :=
  reassemble_of_operand rfl

/-- What fragments add is nothing, or a plus and the code of the fragments. -/
lemma added_eq (fragments : List Fragment) :
    added fragments = "" ∧ reassemble fragments = Json.quote "" ∨
      added fragments = join ++ reassemble fragments := by
  rw [added, reassemble]
  cases fragments.filterMap operand? with
  | nil => exact .inl ⟨rfl, rfl⟩
  | cons operand operands =>
    refine .inr ?_
    dsimp only
    rw [List.map_cons, String.join_cons, intercalate_cons_eq, String.append_assoc]

/-- The code depends on what is added only. -/
lemma reassemble_eq_of_added_eq (h : added rest = added others) :
    reassemble rest = reassemble others := by
  have hjoin : join ≠ "" := by decide
  rcases added_eq rest with ⟨hrest, hcode⟩ | hrest <;>
    rcases added_eq others with ⟨hothers, hcode'⟩ | hothers <;> rw [hrest, hothers] at h
  · rw [hcode, hcode']
  · exact absurd (String.append_eq_empty_iff.1 h.symm).1 hjoin
  · exact absurd (String.append_eq_empty_iff.1 h).1 hjoin
  · exact (String.append_right_inj join).1 h

lemma added_expr (source : String) :
    added (.expr source :: rest) = join ++ ("(" ++ source ++ ")" ++ added rest) := by
  rcases added_eq (.expr source :: rest) with ⟨-, hcode⟩ | hadded
  · -- a parenthesis is no quotation mark
    have hchars := congrArg (fun code => code.toList.head?) hcode
    simp [reassemble_expr, toList_quote] at hchars
  · rw [hadded, reassemble_expr]

/-- Codes tell fragments apart as far as the lengths of their literals go. -/
lemma compares_reassemble :
    Environment.Compares fun fragments others => reassemble fragments = reassemble others where
  shorter := by
    intro before run source rest others hlt heq
    have hrun : run ≠ [] := fun hnil => by simp [hnil] at hlt
    rw [reassemble_rawRun hrun] at heq
    have hchars := congrArg String.toList heq
    by_cases hbefore : before = []
    · rw [hbefore, rawRun_nil, List.nil_append, reassemble_expr] at hchars
      simp [toList_quote] at hchars
    · rw [reassemble_rawRun hbefore, String.toList_append, String.toList_append] at hchars
      have hsame := String.ofList_inj.1 (quote_append_inj hchars).1
      rw [hsame] at hlt
      omega
  behind := by
    intro run source rest others heq
    refine reassemble_eq_of_added_eq ?_
    by_cases hrun : run = []
    · rw [hrun, rawRun_nil, List.nil_append, List.nil_append, reassemble_expr,
        reassemble_expr] at heq
      exact (String.append_right_inj _).1 heq
    · rw [reassemble_rawRun hrun, reassemble_rawRun hrun, added_expr, added_expr] at heq
      have hbehind := (String.append_right_inj join).1 ((String.append_right_inj _).1 heq)
      exact (String.append_right_inj _).1 hbehind

/-! ## The two ways to the code -/

namespace Environment

/-- What is written for a text is put back and compiled to the code that the text is compiled to at
once exactly if no literal of the text reads as a placeholder. Then the fragments of the text come
back as well. A text without the start of a placeholder has only such literals. -/
theorem reassemble_preprocess (text : String) (hsize : expressionCount text ≤ maxIndex + 1) :
    let prepared := ({} : Environment).preprocess text
    (prepared.2.reassemble prepared.1 = .ok (compilePlain text) ↔ ReadsPlain (scan text)) ∧
    (prepared.2.postprocess prepared.1 = .ok (scan text) ↔ ReadsPlain (scan text)) ∧
    (¬ placeholderStart <:+: text.toList → ReadsPlain (scan text)) := by
  intro prepared
  obtain ⟨first, marked, h⟩ := exists_writtenAs_pieces {} text.toList
  have hprepared : prepared = ({} : Environment).substitute (scan text) :=
    preprocess_eq_substitute {} text
  have hbody : prepared.1 = interleave first marked := by rw [hprepared, scan, h.body]
  have hparts : interleaved prepared.2.sources first marked = scan text := by
    rw [hprepared, scan, h.parts]
  have hregistered : prepared.2.sources.length = marked.length := by
    rw [hprepared, scan, h.registered]
    simp
  have hplain : Inert first marked ↔ ReadsPlain (scan text) := h.plain
  -- the placeholders are numbered through, so every index is registered and comes up once
  have hindices : marked.map Prod.fst = List.range' 0 marked.length := h.indices
  have hcount : marked.length = expressionCount text := h.count
  have hlt : ∀ m ∈ marked, m.1 < marked.length := by
    intro m hm
    have hmem : m.1 ∈ List.range' 0 marked.length := hindices ▸ List.mem_map_of_mem hm
    have hbound := List.mem_range'_1.1 hmem
    omega
  have hindex : ∀ m ∈ marked, m.1 ≤ maxIndex := by
    intro m hm
    have hm := hlt m hm
    omega
  have hnew : ∀ m ∈ marked, m.1 < prepared.2.sources.length ∧ m.1 ∉ ([] : List Nat) :=
    fun m hm => ⟨hregistered ▸ hlt m hm, by simp⟩
  have hnodup : (marked.map Prod.fst).Nodup := hindices ▸ List.nodup_range'
  have hback (hscan : ReadsPlain (scan text)) :
      prepared.2.postprocess prepared.1 = .ok (scan text) := by
    rw [hbody, postprocess, splice_interleave (hplain.2 hscan) hindex hnew hnodup, hparts,
      hregistered]
    simp
  refine ⟨⟨fun hcode => ?_, fun hscan => ?_⟩, ⟨fun hfragments => ?_, hback⟩, readsPlain_scan⟩
  · rw [Environment.reassemble] at hcode
    cases hfragments : prepared.2.postprocess prepared.1 with
    | error e =>
      rw [hfragments] at hcode
      simp [Except.map] at hcode
    | ok fragments =>
      rw [hfragments] at hcode
      have hsame : Template.reassemble fragments = Template.reassemble (scan text) := by
        simpa [Except.map, compilePlain] using hcode
      rw [hbody] at hfragments
      rw [← hparts] at hsame
      exact hplain.1 (inert_of_same compares_reassemble hindex hnew hnodup hfragments hsame)
  · rw [Environment.reassemble, hback hscan]
    rfl
  · rw [hbody, ← hparts] at hfragments
    exact hplain.1 (inert_of_splice hindex hnew hnodup hfragments)

/-- Literals may hold most of a placeholder, and tildes on both sides of a real one. -/
theorem reassemble_preprocess_tildes :
    expressionCount "~<%= a %>~~replacement-<%- b %>" ≤ maxIndex + 1 ∧
    let prepared := ({} : Environment).preprocess "~<%= a %>~~replacement-<%- b %>"
    prepared.2.reassemble prepared.1 = .ok (compilePlain "~<%= a %>~~replacement-<%- b %>") := by
  have hscan : scan "~<%= a %>~~replacement-<%- b %>"
      = [.raw "~", .expr " a ", .raw "~~replacement-", .expr "escapeHtml( b )"] := by cbv
  have hsize : expressionCount "~<%= a %>~~replacement-<%- b %>" ≤ maxIndex + 1 := by
    rw [expressionCount, hscan]
    decide
  refine ⟨hsize, (reassemble_preprocess _ hsize).1.2 ?_⟩
  rw [hscan]
  simp only [ReadsPlain, and_true]
  decide

/-- A literal that goes on with the tildes of the placeholder behind it is taken for one, and the
expression is put where the author wrote text. Alone, such a literal is an unknown placeholder. -/
theorem literal_is_taken_for_placeholder :
    let prepared := ({} : Environment).preprocess "~~replacement-0<%= a %>"
    let alone := ({} : Environment).preprocess "~~replacement-0~~"
    (prepared.1 = "~~replacement-0~~replacement-0~~" ∧
      prepared.2.reassemble prepared.1 = .ok "( a ) +\n    \"replacement-0~~\"" ∧
      compilePlain "~~replacement-0<%= a %>" = "\"~~replacement-0\" +\n    ( a )") ∧
    alone.2.reassemble alone.1 = .error (.unknown 0 0) ∧
    compilePlain "~~replacement-0~~" = "\"~~replacement-0~~\"" := by
  have hscan : scan "~~replacement-0<%= a %>" = [.raw "~~replacement-0", .expr " a "] := by cbv
  have hscanAlone : scan "~~replacement-0~~" = [.raw "~~replacement-0~~"] := by cbv
  have hindex : readIndex ['0'] = some 0 := by decide
  have hpost : (⟨[" a "]⟩ : Environment).postprocess "~~replacement-0~~replacement-0~~"
      = .ok [.expr " a ", .raw "replacement-0~~"] := by
    have hfirst : firstPlaceholder "~~replacement-0~~replacement-0~~".toList
        = some ([], ['0'], "replacement-0~~".toList) := by decide
    have hrest : firstPlaceholder "replacement-0~~".toList = none := by decide
    simp only [postprocess, splice_first hfirst, hindex, List.getElem?_cons_zero,
      splice_run hrest]
    decide
  have hpostAlone : (⟨[]⟩ : Environment).postprocess "~~replacement-0~~"
      = .error (.unknown 0 0) := by
    have hfirst : firstPlaceholder "~~replacement-0~~".toList = some ([], ['0'], []) := by decide
    simp only [postprocess, splice_first hfirst, hindex]
    rfl
  have hmark : "~~replacement-0" ++ placeholder 0 = "~~replacement-0~~replacement-0~~" := by
    decide
  simp only [preprocess_eq_substitute, compilePlain, hscan, hscanAlone, substitute, replace,
    List.length_nil, List.nil_append, String.append_empty, Environment.reassemble, hmark, hpost,
    hpostAlone]
  refine ⟨⟨trivial, ?_, ?_⟩, rfl, ?_⟩
  all_goals decide

end Environment
end Template
end Bindery
