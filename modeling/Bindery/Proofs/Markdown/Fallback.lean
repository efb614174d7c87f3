import Bindery.Proofs.Markdown.Compiling
import Bindery.Proofs.Markdown.Lockstep

/-!
# Documents whose links resolve to nothing

Where no assets can be asked for, every relative link of a document falls back to the link as it was
written. The code of the document then puts out the HTML that is rendered from the document
directly, but for the destinations of these links: the code puts them out as they were written,
while the renderer escapes them (`render_compile_without_assets`). A destination with a quotation
mark so ends its attribute too early (`fallback_is_not_escaped`).
-/

namespace Bindery

open Bindery.Expr

namespace Markdown

open Template Write

variable {scope : Scope}

/-! ## Code that puts out a text -/

/-- Code is an expression that puts out a text in a scope. -/
def RendersTo (scope : Scope) (code text : String) : Prop :=
  ∃ e, Expr.parse code = .ok e ∧ e.render scope = .ok text

/-- Code renders to one text in a scope. -/
lemma RendersTo.unique {code text other : String} (h : RendersTo scope code text)
    (h' : RendersTo scope code other) : text = other := by
  obtain ⟨e, hparse, hrender⟩ := h
  obtain ⟨e', hparse', hrender'⟩ := h'
  rw [hparse, Except.ok.injEq] at hparse'
  rw [hparse'] at hrender
  rw [hrender, Except.ok.injEq] at hrender'
  exact hrender'

/-- A fragment puts out a text: a literal its own, an expression its value. -/
def PutsOut (scope : Scope) : Fragment → String → Prop
  | .raw text, out => out = text
  | .expr source, out => Evaluates scope source (some (.string out))

lemma joined_strings (texts : List String) :
    joined (texts.map fun text => some (.string text)) = String.join texts := by
  have hstringify : (stringify ∘ fun text => some (Value.string text)) = id := rfl
  rw [joined, List.map_map, hstringify, List.map_id]

/-- The operands among fragments are terms for the texts that the fragments put out. -/
lemma exists_terms_of_putsOut {fragments : List Fragment} {texts : List String}
    (h : List.Forall₂ (PutsOut scope) fragments texts) :
    ∃ terms outs, List.Forall₂ Fragment.ParsesTo (operands fragments) terms ∧
      List.Forall₂ (HasValue scope) terms (outs.map fun out => some (.string out)) ∧
      String.join outs = String.join texts := by
  induction h with
  | nil => exact ⟨[], [], .nil, .nil, rfl⟩
  | @cons fragment text fragments texts hputs _ ih =>
    obtain ⟨terms, outs, hparses, hvalues, hjoin⟩ := ih
    cases fragment with
    | raw raw =>
      obtain rfl : text = raw := hputs
      by_cases hempty : text = ""
      · -- an empty literal is no operand
        refine ⟨terms, outs, ?_, hvalues, ?_⟩
        · simpa [operands, hempty] using hparses
        · rw [hjoin, String.join_cons, hempty, String.empty_append]
      · refine ⟨.str text :: terms, text :: outs, ?_, .cons ?_ hvalues, ?_⟩
        · have hoperands : operands (.raw text :: fragments) = .raw text :: operands fragments := by
            simp [operands, hempty]
          rw [hoperands]
          exact .cons rfl hparses
        · rw [HasValue, eval]
        · rw [String.join_cons, String.join_cons, hjoin]
    | expr source =>
      obtain ⟨e, hparse, hvalue⟩ := hputs
      refine ⟨e :: terms, text :: outs, .cons hparse hparses, .cons hvalue hvalues, ?_⟩
      rw [String.join_cons, String.join_cons, hjoin]

/-- The code of fragments puts out their texts, one after the other. -/
lemma rendersTo_reassemble {fragments : List Fragment} {texts : List String}
    (h : List.Forall₂ (PutsOut scope) fragments texts) :
    RendersTo scope (reassemble fragments) (String.join texts) := by
  obtain ⟨terms, outs, hparses, hvalues, hjoin⟩ := exists_terms_of_putsOut h
  refine ⟨ofTerms terms, parse_reassemble hparses, ?_⟩
  -- the values are texts, so the plus between them adds no numbers
  have hstart : ¬ StartsWithNumbers (outs.map fun out => some (.string out)) := by
    rintro ⟨a, b, rest, heq⟩
    cases outs <;> simp at heq
  rw [render_ofTerms hvalues, addLeading_eq_self hstart, joined_strings, hjoin]

/-! ## Texts with destinations in them -/

/-- A text that consists of a run and then, in turn, of destinations, as `f` writes them, and
runs. -/
def withTargets (f : String → String) (first : String) (parts : List (String × String)) : String :=
  first ++ String.join (parts.map fun (dest, run) => f dest ++ run)

lemma withTargets_nil (f : String → String) (first : String) : withTargets f first [] = first := by
  simp [withTargets]

/-- A destination goes in front of the text up to the next one. -/
lemma withTargets_cons (f : String → String) (first dest run : String)
    (parts : List (String × String)) :
    withTargets f first ((dest, run) :: parts) = first ++ (f dest ++ withTargets f run parts) := by
  simp [withTargets, String.join_cons, String.append_assoc]

/-- Escaping the destinations of a text does not make it shorter, and it keeps the length only if
every character of theirs may stand in a link target. -/
lemma length_withTargets (first : String) (parts : List (String × String)) :
    (withTargets id first parts).length ≤ (withTargets escapeTarget first parts).length ∧
      ((withTargets escapeTarget first parts).length = (withTargets id first parts).length →
        ∀ dest ∈ parts.map Prod.fst, ∀ c ∈ dest.toList, isTargetChar c = true) := by
  induction parts generalizing first with
  | nil => simp [withTargets_nil]
  | cons part parts ih =>
    obtain ⟨dest, run⟩ := part
    obtain ⟨hle, heq⟩ := ih run
    obtain ⟨hdest, hchars⟩ := length_escapeTarget dest
    simp only [withTargets_cons, String.length_append, id]
    refine ⟨by omega, fun h other hother => ?_⟩
    -- neither the destination nor what follows it grows
    rw [List.map_cons] at hother
    rcases List.mem_cons.1 hother with rfl | hother
    · exact hchars (by omega)
    · exact heq (by omega) other hother

/-- Destinations that escaping keeps are written alike. -/
lemma withTargets_congr (first : String) {parts : List (String × String)}
    (h : ∀ dest ∈ parts.map Prod.fst, ∀ c ∈ dest.toList, isTargetChar c = true) :
    withTargets escapeTarget first parts = withTargets id first parts := by
  have hparts : (parts.map fun (dest, run) => escapeTarget dest ++ run)
      = parts.map fun (dest, run) => id dest ++ run := by
    refine List.map_congr_left fun part hpart => ?_
    dsimp only
    rw [escapeTarget_eq_self (h part.1 (List.mem_map_of_mem hpart)), id]
  rw [withTargets, withTargets, hparts]

/-- Texts side by side are the same runs, with placeholders between them in one and destinations in
the other. -/
lemma Write.Fills.exists_parts {marks : List (Nat × String)} {s t : List Char}
    (h : Fills marks s t) :
    ∃ (first : String) (parts : List ((Nat × String) × String)), parts.map Prod.fst = marks ∧
      s = (interleave first (parts.map fun part => (part.1.1, part.2))).toList ∧
      t = (withTargets escapeTarget first (parts.map fun part => (part.1.2, part.2))).toList := by
  induction h with
  | nil => exact ⟨"", [], rfl, rfl, rfl⟩
  | @char marks s t c _ ih =>
    obtain ⟨first, parts, hmarks, rfl, rfl⟩ := ih
    refine ⟨String.singleton c ++ first, parts, hmarks, ?_, ?_⟩
    · simp [interleave]
    · simp [withTargets]
  | @mark marks s t i dest _ ih =>
    obtain ⟨first, parts, rfl, rfl, rfl⟩ := ih
    refine ⟨"", ((i, dest), first) :: parts, rfl, ?_, ?_⟩
    · rw [List.map_cons, toList_interleave_cons]
      rfl
    · rw [List.map_cons, withTargets_cons, String.empty_append, String.toList_append]

/-- The runs of a text hold no start of a placeholder if the text holds none. -/
lemma isRun_of_withTargets {f : String → String} {first : String} {parts : List (String × String)}
    (h : IsRun (withTargets f first parts).toList) :
    IsRun first.toList ∧ ∀ part ∈ parts, IsRun part.2.toList := by
  have hshorter {s t : List Char} (ht : IsRun t) (hst : s <:+: t) : IsRun s :=
    fun hstart => ht (hstart.trans hst)
  induction parts generalizing first with
  | nil =>
    rw [withTargets_nil] at h
    exact ⟨h, by simp⟩
  | cons part parts ih =>
    obtain ⟨dest, run⟩ := part
    rw [withTargets_cons, String.toList_append, String.toList_append, ← List.append_assoc] at h
    obtain ⟨hrun, hparts⟩ := ih (hshorter h (List.suffix_append _ _).isInfix)
    rw [List.append_assoc] at h
    exact ⟨hshorter h (List.prefix_append _ _).isInfix, List.forall_mem_cons.2 ⟨hrun, hparts⟩⟩

/-! ## The fragments of a document -/

lemma exists_putsOut_rawRun (scope : Scope) (run : String) :
    ∃ texts, List.Forall₂ (PutsOut scope) (Environment.rawRun run.toList) texts ∧
      String.join texts = run := by
  unfold Environment.rawRun
  by_cases hempty : run.toList.isEmpty = true
  · rw [if_pos hempty]
    refine ⟨[], .nil, ?_⟩
    rw [List.isEmpty_iff, String.toList_eq_nil_iff] at hempty
    rw [hempty]
    rfl
  · rw [if_neg hempty, String.ofList_toList]
    exact ⟨[run], .cons rfl .nil, by simp⟩

/-- Runs and the sources of links put out the runs and the links as they were written. -/
lemma exists_putsOut_interleaved (hassets : scope.assets = none) {sources : List String}
    (first : String) {parts : List ((Nat × String) × String)}
    (h : ∀ part ∈ parts, ∃ source, sources[part.1.1]? = some source ∧
      assetExpression? part.1.2 = some source) :
    ∃ texts, List.Forall₂ (PutsOut scope)
        (interleaved sources first (parts.map fun part => (part.1.1, part.2))) texts ∧
      String.join texts = withTargets id first (parts.map fun part => (part.1.2, part.2)) := by
  induction parts generalizing first with
  | nil =>
    rw [List.map_nil, List.map_nil, Environment.interleaved_nil, withTargets_nil]
    exact exists_putsOut_rawRun scope first
  | cons part parts ih =>
    obtain ⟨⟨i, dest⟩, run⟩ := part
    obtain ⟨source, hsource, hasset⟩ := h _ List.mem_cons_self
    obtain ⟨hlt, hget⟩ := List.getElem?_eq_some_iff.1 hsource
    obtain ⟨before, hbefore, hfirst⟩ := exists_putsOut_rawRun scope first
    obtain ⟨texts, htexts, hrest⟩ := ih run fun part hpart => h part (List.mem_cons_of_mem _ hpart)
    have hlink : PutsOut scope (.expr source) dest := evaluates_link hassets hasset
    refine ⟨before ++ dest :: texts, ?_, ?_⟩
    · rw [List.map_cons, Environment.interleaved_cons hlt, hget]
      exact List.rel_append hbefore (.cons hlink htexts)
    · rw [String.join_append, String.join_cons, hfirst, hrest, List.map_cons, withTargets_cons, id]

/-! ## Documents -/

/-- The HTML of a tree that was split is the HTML of the tree itself, but for placeholders in the
place of the destinations that are asked for. -/
lemma exists_parts_of_plain (settings : Settings) (highlight : Highlighter) {tokens : List Token}
    (hfree : isFreeAll tokens = true)
    (hplain : ∀ text ∈ searchedAll tokens, hasExpressions text = false) :
    ∃ (env : Environment) (first : String) (parts : List ((Nat × String) × String)),
      render settings highlight (splitAll {} tokens).2 (promoteAll (splitAll {} tokens).1)
        = (interleave first (parts.map fun part => (part.1.1, part.2)), env) ∧
      (render settings highlight {} tokens).1
        = withTargets escapeTarget first (parts.map fun part => (part.1.2, part.2)) ∧
      Registers {} env (parts.map Prod.fst) (hiddenAll false tokens) ∧
      (parts.map Prod.fst).map Prod.snd = requestsAll false tokens := by
  obtain ⟨marks, haligned, hregisters, hrequests⟩ := splitAll_aligned false {} tokens hfree hplain
  obtain ⟨henv, -, text, text', hfills, hfold⟩ := haligned.follows settings.html highlight {}
    (splitAll {} tokens).2 {} rfl
  obtain ⟨first, parts, rfl, htext, htext'⟩ := hfills.exists_parts
  obtain ⟨hsplit, hdirect⟩ := hfold ""
  rw [String.empty_append] at hsplit hdirect
  refine ⟨(splitAll {} tokens).2, first, parts, ?_, ?_, hregisters, hrequests⟩
  · rw [haligned.promoteAll, ← String.toList_inj.1 htext]
    exact Prod.ext (congrArg Writer.out hsplit) henv
  · rw [← String.toList_inj.1 htext']
    exact congrArg Writer.out hdirect

lemma compile_eq_reassemble (settings : Settings) (highlight : Highlighter) (source : String) :
    compile settings highlight source =
      (render settings highlight (splitAll {} (tokenize settings source)).2
        (promoteAll (splitAll {} (tokenize settings source)).1)).2.reassemble
      (render settings highlight (splitAll {} (tokenize settings source)).2
        (promoteAll (splitAll {} (tokenize settings source)).1)).1 := rfl

/-- Placeholders that an environment gave away are in a text each at most once. -/
lemma Registers.placement {env : Environment} {hidden : Nat} (first : String)
    {parts : List ((Nat × String) × String)}
    (h : Registers {} env (parts.map Prod.fst) hidden) :
    Placement env.sources.length hidden
      (interleave first (parts.map fun part => (part.1.1, part.2))) first
      (parts.map fun part => (part.1.1, part.2)) := by
  have hfst : (parts.map fun part => (part.1.1, part.2)).map Prod.fst
      = (parts.map Prod.fst).map Prod.fst := by simp
  refine ⟨rfl, ?_, fun m hm => ?_, ?_⟩
  · rw [hfst]
    exact h.sublist.nodup (List.Ico.nodup _ _)
  · have hmem : m.1 ∈ (parts.map Prod.fst).map Prod.fst := hfst ▸ List.mem_map_of_mem hm
    exact (List.Ico.mem.1 (h.sublist.subset hmem)).2
  · have hlength := h.length_add
    simp only [List.length_map, List.length_nil] at hlength ⊢
    omega

/-- What a document without expressions is compiled to, if none of its runs reads as a
placeholder. -/
lemma exists_code_of_plain (settings : Settings) (highlight : Highlighter) (source : String)
    (scope : Scope) (hassets : scope.assets = none)
    (hplain : ∀ text ∈ searchedAll (tokenize settings source), hasExpressions text = false)
    (hrun : IsRun (render settings highlight {} (tokenize settings source)).1.toList)
    (hsize : (requestsAll false (tokenize settings source)).length
      + hiddenAll false (tokenize settings source) ≤ maxIndex + 1) :
    ∃ first parts code, parts.map Prod.fst = requestsAll false (tokenize settings source) ∧
      (render settings highlight {} (tokenize settings source)).1
        = withTargets escapeTarget first parts ∧
      RendersTo scope code (withTargets id first parts) ∧
      compile settings highlight source =
        if hiddenAll false (tokenize settings source) = 0 then .ok code
        else .error (.count (requestsAll false (tokenize settings source)).length
          ((requestsAll false (tokenize settings source)).length
            + hiddenAll false (tokenize settings source))) := by
  rw [compile_eq_reassemble]
  have hfree : isFreeAll (tokenize settings source) = true := isFree_ofEvents _
  generalize tokenize settings source = tokens at *
  obtain ⟨env, first, parts, hrendered, hdirect, hregisters, hrequests⟩ :=
    exists_parts_of_plain settings highlight hfree hplain
  have hregistered : env.sources.length
      = (requestsAll false tokens).length + hiddenAll false tokens := by
    have hadd := hregisters.length_add
    rw [← hrequests, List.length_map]
    simpa using hadd.symm
  -- the runs are those of the HTML rendered directly
  have hinert : Inert first (parts.map fun part => (part.1.1, part.2)) := by
    rw [hdirect] at hrun
    obtain ⟨hfirst, hruns⟩ := isRun_of_withTargets hrun
    refine inert_of_isRun hfirst fun m hm => ?_
    obtain ⟨part, hpart, rfl⟩ := List.mem_map.1 hm
    exact hruns (part.1.2, part.2) (List.mem_map_of_mem hpart)
  obtain ⟨texts, htexts, hjoin⟩ := exists_putsOut_interleaved hassets first fun part hpart =>
    hregisters.asset part.1 (List.mem_map_of_mem hpart)
  refine ⟨first, parts.map fun part => (part.1.2, part.2), reassemble (interleaved env.sources
    first (parts.map fun part => (part.1.1, part.2))), ?_, hdirect, ?_, ?_⟩
  · rw [← hrequests, List.map_map, List.map_map]
    rfl
  · rw [← hjoin]
    exact rendersTo_reassemble htexts
  · rw [hrendered, Environment.reassemble,
      (hregisters.placement first).postprocess_eq (by omega) hinert, hregistered,
      Nat.add_sub_cancel]
    by_cases hhidden : hiddenAll false tokens = 0
    · rw [if_pos hhidden, if_pos hhidden]
      rfl
    · rw [if_neg hhidden, if_neg hhidden]
      rfl

/-- A document without expressions, where no assets can be asked for. The HTML rendered from it
directly consists of runs and of the escaped destinations that are asked for. If none of the
destinations inside of its images is asked for, its code puts out this HTML with the destinations
unescaped, and fails to compile else. So the code puts out the HTML that is rendered directly
exactly if there are none of the latter, and every character of the former may stand in a link
target as it is. This is for HTML that does not hold the start of a placeholder, for as many
destinations as there are indices, and for any highlighting of code. -/
theorem render_compile_without_assets (settings : Settings) (highlight : Highlighter)
    (source : String) (scope : Scope) (hassets : scope.assets = none)
    (hplain : ∀ text ∈ searchedAll (tokenize settings source), hasExpressions text = false)
    (hrun : IsRun (render settings highlight {} (tokenize settings source)).1.toList)
    (hsize : (requestsAll false (tokenize settings source)).length
      + hiddenAll false (tokenize settings source) ≤ maxIndex + 1) :
    let direct := (render settings highlight {} (tokenize settings source)).1
    let requests := requestsAll false (tokenize settings source)
    let hidden := hiddenAll false (tokenize settings source)
    (∃ first parts, parts.map Prod.fst = requests ∧
      direct = withTargets escapeTarget first parts ∧
      (hidden = 0 → ∃ code, compile settings highlight source = .ok code ∧
        RendersTo scope code (withTargets id first parts))) ∧
    (hidden ≠ 0 → compile settings highlight source
      = .error (.count requests.length (requests.length + hidden))) ∧
    ((∃ code, compile settings highlight source = .ok code ∧ RendersTo scope code direct) ↔
      hidden = 0 ∧ ∀ dest ∈ requests, ∀ c ∈ dest.toList, isTargetChar c = true) := by
  intro direct requests hidden
  obtain ⟨first, parts, code, hrequests, hdirect, hrenders, hcompile⟩ :=
    exists_code_of_plain settings highlight source scope hassets hplain hrun hsize
  have hok (hhidden : hidden = 0) : compile settings highlight source = .ok code := by
    rw [hcompile, if_pos hhidden]
  have herror (hhidden : hidden ≠ 0) : compile settings highlight source
      = .error (.count requests.length (requests.length + hidden)) := by
    rw [hcompile, if_neg hhidden]
  refine ⟨⟨first, parts, hrequests, hdirect, fun hhidden => ⟨code, hok hhidden, hrenders⟩⟩,
    herror, ?_, ?_⟩
  · rintro ⟨other, hother, hrendersDirect⟩
    have hhidden : hidden = 0 := by
      by_contra hne
      rw [herror hne] at hother
      cases hother
    -- the code is the same, so what it puts out is as long as the HTML rendered directly
    obtain rfl : code = other := by
      rw [hok hhidden] at hother
      exact Except.ok.inj hother
    have heq : withTargets id first parts = withTargets escapeTarget first parts :=
      (hrenders.unique hrendersDirect).trans hdirect
    refine ⟨hhidden, ?_⟩
    show ∀ dest ∈ requestsAll false (tokenize settings source), _
    rw [← hrequests]
    exact (length_withTargets first parts).2 (by rw [heq])
  · rintro ⟨hhidden, hchars⟩
    refine ⟨code, hok hhidden, ?_⟩
    have heq : direct = withTargets id first parts := by
      apply hdirect.trans
      apply withTargets_congr
      rw [hrequests]
      exact hchars
    rw [heq]
    exact hrenders

/-- A relative link comes out plain. -/
theorem render_compile_without_assets_link :
    bareScope.assets = none ∧
    (∀ text ∈ searchedAll (tokenize {} "[a](b.md)"), hasExpressions text = false) ∧
    IsRun (render {} noHighlighter {} (tokenize {} "[a](b.md)")).1.toList ∧
    requestsAll false (tokenize {} "[a](b.md)") = ["b.md"] ∧
    ∃ code, compile {} noHighlighter "[a](b.md)" = .ok code ∧
      RendersTo bareScope code "<p><a href=\"b.md\">a</a></p>\n" := by
  have hplain : ∀ text ∈ searchedAll (tokenize {} "[a](b.md)"), hasExpressions text = false := by
    decide +kernel
  have hrun : IsRun (render {} noHighlighter {} (tokenize {} "[a](b.md)")).1.toList := by
    unfold IsRun
    decide +kernel
  have hrequests : requestsAll false (tokenize {} "[a](b.md)") = ["b.md"] := by decide +kernel
  have hhidden : hiddenAll false (tokenize {} "[a](b.md)") = 0 := by decide +kernel
  have hdirect : (render {} noHighlighter {} (tokenize {} "[a](b.md)")).1
      = "<p><a href=\"b.md\">a</a></p>\n" := by decide +kernel
  refine ⟨rfl, hplain, hrun, hrequests, ?_⟩
  have h := render_compile_without_assets {} noHighlighter "[a](b.md)" bareScope rfl hplain hrun
    (by rw [hrequests, hhidden]; decide)
  rw [← hdirect]
  have hchars : "b.md".toList.all isTargetChar = true := by decide
  refine h.2.2.2 ⟨hhidden, fun dest hdest => ?_⟩
  rw [hrequests, List.mem_singleton] at hdest
  rw [hdest]
  exact List.all_eq_true.1 hchars

/-- A quotation mark in a destination comes out as it is and ends the attribute, though the document
holds neither an expression nor what looks like a placeholder. -/
theorem fallback_is_not_escaped :
    ¬ ∀ (settings : Settings) (highlight : Highlighter) (source : String) (scope : Scope),
      scope.assets = none → hasExpressions source = false →
      ¬ placeholderStart <:+: source.toList →
      ∃ code, compile settings highlight source = .ok code ∧
        RendersTo scope code (render settings highlight {} (tokenize settings source)).1 := by
  intro h
  have hrequests : requestsAll false (tokenize {} "[a](<b\"c.md>)") = ["b\"c.md"] := by
    decide +kernel
  have hhidden : hiddenAll false (tokenize {} "[a](<b\"c.md>)") = 0 := by decide +kernel
  have hrun : IsRun (render {} noHighlighter {} (tokenize {} "[a](<b\"c.md>)")).1.toList := by
    unfold IsRun
    decide +kernel
  obtain ⟨first, parts, code, hparts, hdirect, hrenders, hcompile⟩ :=
    exists_code_of_plain {} noHighlighter "[a](<b\"c.md>)" bareScope rfl (by decide +kernel) hrun
      (by rw [hrequests, hhidden]; decide)
  rw [if_pos hhidden] at hcompile
  obtain ⟨other, hother, hrendersDirect⟩ := h {} noHighlighter "[a](<b\"c.md>)" bareScope rfl
    (by decide +kernel) (by decide +kernel)
  obtain rfl : code = other := by
    rw [hcompile] at hother
    exact Except.ok.inj hother
  have heq := (hrenders.unique hrendersDirect).trans hdirect
  -- what the code puts out is as long as what is rendered only if escaping changes nothing
  have hchars := (length_withTargets first parts).2 (by rw [heq])
  rw [hparts, hrequests] at hchars
  have hquote : isTargetChar '"' = true := hchars "b\"c.md" List.mem_cons_self '"' (by decide)
  exact absurd hquote (by decide)

end Markdown
end Bindery
