import Bindery.Markdown.Compile
import Bindery.Proofs.Markdown.Writing

/-!
# Putting the expressions of a document back

Every placeholder that is registered while a document is split or rendered is in its HTML once,
except for those of links and images inside of an image, which are in it nowhere
(`exists_placement`). So a document compiles exactly if it has none of these and its literal text
reads as no placeholder (`compile_of_placement`).
-/

namespace Bindery
namespace Markdown

open Template

/-- The HTML of a token tree, with the expressions that were taken out of it. -/
def rendering (settings : Settings) (tokens : List Token) : String × Environment :=
  let (split, env) := splitAll {} tokens
  render settings noHighlighter env (promoteAll split)

/-- A document is compiled by putting its expressions back into its HTML. -/
lemma compile_eq (settings : Settings) (source : String) :
    compile settings noHighlighter source =
      (rendering settings (tokenize settings source)).2.reassemble
        (rendering settings (tokenize settings source)).1 := rfl

/-- A text of runs and of the placeholders of registered expressions, each at most once; `lost` of
the registered ones are not in it. -/
structure Placement (registered lost : Nat) (html first : String) (marked : List (Nat × String)) :
    Prop where
  html_eq : html = interleave first marked
  nodup : (marked.map Prod.fst).Nodup
  lt : ∀ m ∈ marked, m.1 < registered
  length_add : marked.length + lost = registered

variable {tildes : Bool} {settings : Settings} {tokens : List Token}

/-- Rendering writes the placeholders that are not hidden in images. -/
lemma rendering_marked (settings : Settings)
    (h : ∀ text ∈ textsAll tokens, IsLiteralText tildes text) :
    ∃ written lost, Marked tildes written (rendering settings tokens).1.toList ∧
      Numbered 0 (rendering settings tokens).2.sources.length (written ++ lost) ∧
      lost.length = hiddenAll false tokens := by
  obtain ⟨kept, lost, hcarries, hnumbered, hlen⟩ := splitAll_placed false {} tokens h
  obtain ⟨fresh, written, hfresh, hperm, ⟨text, hout, hmarked⟩, -⟩ :=
    hcarries.promoteAll.flattenAll_renders settings.html (splitAll {} tokens).2 {} rfl
  refine ⟨written, lost, ?_, (hnumbered.append hfresh).perm ?_, hlen⟩
  · have hhtml : (rendering settings tokens).1 = "" ++ text := hout
    rw [hhtml, String.empty_append]
    exact hmarked
  · -- what is kept by splitting is written, with what rendering registers
    rw [List.perm_iff_count]
    intro i
    have hcount := hperm.count_eq i
    simp only [List.count_append] at hcount ⊢
    omega

/-- The literal parts and the placeholders of a rendered tree. -/
lemma exists_placement (settings : Settings)
    (h : ∀ text ∈ textsAll tokens, IsLiteralText tildes text) :
    ∃ first marked, Placement (rendering settings tokens).2.sources.length (hiddenAll false tokens)
        (rendering settings tokens).1 first marked ∧
      IsLiteralText tildes first ∧ ∀ m ∈ marked, IsLiteralText tildes m.2 := by
  obtain ⟨written, lost, hmarked, hnumbered, hlen⟩ := rendering_marked settings h
  obtain ⟨first, marked, hhtml, rfl, hfirst, hruns⟩ := hmarked.exists_interleave
  -- what is written and what is lost are the numbers below the count, each once
  have hnodup : (marked.map Prod.fst ++ lost).Nodup :=
    hnumbered.2.nodup_iff.2 (List.Ico.nodup _ _)
  refine ⟨first, marked, ⟨String.toList_inj.1 hhtml, ?_, fun m hm => ?_, ?_⟩, hfirst, hruns⟩
  · exact (List.nodup_append.1 hnodup).1
  · have hmem : m.1 ∈ marked.map Prod.fst ++ lost :=
      List.mem_append_left _ (List.mem_map_of_mem hm)
    exact (List.Ico.mem.1 (hnumbered.2.mem_iff.1 hmem)).2
  · have hlength := hnumbered.length_eq
    rw [List.length_append, List.length_map, hlen] at hlength
    omega

namespace Placement

variable {env : Environment} {lost : Nat} {html first : String} {marked : List (Nat × String)}

lemma index_le (h : Placement env.sources.length lost html first marked)
    (hsize : env.sources.length ≤ maxIndex + 1) : ∀ m ∈ marked, m.1 ≤ maxIndex := by
  intro m hm
  have hlt := h.lt m hm
  omega

lemma unseen (h : Placement env.sources.length lost html first marked) :
    ∀ m ∈ marked, m.1 < env.sources.length ∧ m.1 ∉ ([] : List Nat) :=
  fun m hm => ⟨h.lt m hm, List.not_mem_nil⟩

/-- Runs that read as no placeholder give their fragments back, if no placeholder is lost. -/
lemma postprocess_eq (h : Placement env.sources.length lost html first marked)
    (hsize : env.sources.length ≤ maxIndex + 1) (hinert : Inert first marked) :
    env.postprocess html =
      if lost = 0 then .ok (interleaved env.sources first marked)
      else .error (.count (env.sources.length - lost) env.sources.length) := by
  have hlength := h.length_add
  rw [Environment.postprocess, h.html_eq,
    Environment.splice_interleave hinert (h.index_le hsize) h.unseen h.nodup, List.length_nil,
    Nat.zero_add]
  by_cases hlost : lost = 0
  · rw [if_pos hlost, if_pos (by omega)]
  · rw [if_neg hlost, if_neg (by omega)]
    have hfound : marked.length = env.sources.length - lost := by omega
    rw [hfound]

/-- They are given back only then. -/
lemma postprocess_eq_iff (h : Placement env.sources.length lost html first marked)
    (hsize : env.sources.length ≤ maxIndex + 1) :
    env.postprocess html = .ok (interleaved env.sources first marked) ↔
      lost = 0 ∧ Inert first marked := by
  constructor
  · intro hok
    have hinert : Inert first marked := by
      rw [Environment.postprocess, h.html_eq] at hok
      exact Environment.inert_of_splice (h.index_le hsize) h.unseen h.nodup hok
    refine ⟨?_, hinert⟩
    rw [h.postprocess_eq hsize hinert] at hok
    by_contra hlost
    rw [if_neg hlost] at hok
    simp at hok
  · rintro ⟨hlost, hinert⟩
    rw [h.postprocess_eq hsize hinert, if_pos hlost]

end Placement

/-- The HTML of a document is literal text with the placeholders of its expressions, each once,
except for those of links and images inside of an image, which are lost. Putting the expressions
back gives this text with the expressions in place exactly if none is lost and the literal text
reads as no placeholder. Where it reads as none, a lost placeholder makes compiling fail; it reads
as none at least where the document holds no tilde as text. All of this is for as many expressions
as there are indices for placeholders. -/
theorem compile_of_placement (settings : Settings) (source : String)
    (hsize : (rendering settings (tokenize settings source)).2.sources.length ≤ maxIndex + 1) :
    let tokens := tokenize settings source
    let html := (rendering settings tokens).1
    let env := (rendering settings tokens).2
    let n := env.sources.length
    let lost := hiddenAll false tokens
    (∃ first marked, Placement n lost html first marked) ∧
    (∀ first marked, Placement n lost html first marked →
      (env.postprocess html = .ok (interleaved env.sources first marked) ↔
        lost = 0 ∧ Inert first marked) ∧
      (Inert first marked → compile settings noHighlighter source =
        if lost = 0 then .ok (reassemble (interleaved env.sources first marked))
        else .error (.count (n - lost) n))) ∧
    ((∀ text ∈ textsAll tokens, '~' ∉ text.toList) →
      ((∃ code, compile settings noHighlighter source = .ok code) ↔ lost = 0)) := by
  intro tokens html env n lost
  have hplacement (first : String) (marked : List (Nat × String))
      (h : Placement n lost html first marked) (hinert : Inert first marked) :
      compile settings noHighlighter source =
        if lost = 0 then .ok (reassemble (interleaved env.sources first marked))
        else .error (.count (n - lost) n) := by
    rw [compile_eq, Environment.reassemble, h.postprocess_eq hsize hinert]
    by_cases hlost : lost = 0
    · rw [if_pos hlost, if_pos hlost]
      rfl
    · rw [if_neg hlost, if_neg hlost]
      rfl
  refine ⟨?_, fun first marked h => ⟨h.postprocess_eq_iff hsize, hplacement first marked h⟩, ?_⟩
  · -- that there is such a text needs nothing of the literal text
    have hany : ∀ text ∈ textsAll tokens, IsLiteralText true text := fun _ _ _ _ => .inl rfl
    obtain ⟨first, marked, h, -⟩ := exists_placement settings hany
    exact ⟨first, marked, h⟩
  · intro htexts
    have hliteral : ∀ text ∈ textsAll tokens, IsLiteralText false text :=
      fun text htext c hc => .inr fun heq => htexts text htext (heq ▸ hc)
    obtain ⟨first, marked, h, hfirst, hruns⟩ := exists_placement settings hliteral
    -- text without tildes reads as no placeholder
    have hinert : Inert first marked := inert_of_isRun (isRun_of_isLiteralText hfirst)
      fun m hm => isRun_of_isLiteralText (hruns m hm)
    rw [hplacement first marked h hinert]
    by_cases hlost : lost = 0
    · simp [hlost]
    · simp [hlost]

/-- The placeholders of a link and of the expression in it come back. -/
theorem compile_of_placement_link :
    ∃ code, compile {} noHighlighter "[a <%= x %>](b.md)" = .ok code := by
  have h := compile_of_placement {} "[a <%= x %>](b.md)" (by decide +kernel)
  exact (h.2.2 (by decide +kernel)).2 (by decide +kernel)

/-- A link inside of an image makes compiling fail, though the document looks like no placeholder
anywhere. -/
theorem compile_link_in_image :
    ¬ ∀ (settings : Settings) (source : String), ¬ placeholderStart <:+: source.toList →
      ∃ code, compile settings noHighlighter source = .ok code := by
  intro h
  have hlost : compile {} noHighlighter "![a [b](c.md)](d.png)" = .error (.count 1 2) := by
    decide +kernel
  obtain ⟨code, hcode⟩ := h {} "![a [b](c.md)](d.png)" (by decide)
  rw [hlost] at hcode
  simp at hcode

/-- So does text that reads as a placeholder only after its escapes are gone. -/
example : compile {} noHighlighter "\\~\\~replacement-0\\~\\~" = .error (.unknown 0 0) := by
  decide +kernel

end Markdown
end Bindery
