import Bindery.Proofs.Expr.Resolution
import Bindery.Proofs.Resolver.Coherence

/-!
# Taking back what a module made

An edit of one module that leaves everything that other modules render as it was can be made up for
by taking back what was made by the module or with it: what is left in the cache is coherent with
the edited graph (`Cache.Coherent.invalidate_of_unmoved`). Requests that a page makes are not kept
track of, so the answers that a rendering sees must not change. For renderings that do not see why a
request has no answer it is enough that the answers are the same (`Cache.Coherent.invalidate`).
-/

namespace Bindery

open Bindery.Expr

/-- A rendering that does not see why a request has no answer. -/
def Respectful (render : Expr.Scope → Except String String) : Prop :=
  ∀ context module resolve other, SameAnswers resolve other →
    Agrees (render ⟨context, module, some resolve⟩) (render ⟨context, module, some other⟩)

namespace ModuleGraph

/-- No rendering in a graph sees why a request has no answer. -/
structure Respects (g : ModuleGraph) : Prop where
  modules : ∀ id m, g.pageModule? id = some m → Respectful m.page.render
  pages : ∀ page ∈ g.pages, Respectful page.render

/-- Every page belongs to the module that puts it out. -/
def Owned (g : ModuleGraph) : Prop := ∀ id, ∀ page ∈ g.pagesOf id, page.module = id

/-- Two graphs are the same but for one module, and give the same answers. -/
structure SameBut (id : String) (g g' : ModuleGraph) : Prop where
  load : ∀ other, other ≠ id → g'.load other = g.load other
  modules : ∀ other, other ≠ id → other ∈ g'.modules → other ∈ g.modules
  answers : SameAnswers g.resolve g'.resolve

/-- A rendering for a module comes out the same, up to the error, whichever of two graphs answers
its requests. -/
def Steady (g g' : ModuleGraph) (module : String)
    (render : Expr.Scope → Except String String) : Prop :=
  ∀ context, Agrees (render ⟨context, module, some g.resolve⟩)
    (render ⟨context, module, some g'.resolve⟩)

/-- Two graphs are the same but for one module, and what the other modules render stays: their
tables of contents, their templates and their pages. -/
structure Unmoved (id : String) (g g' : ModuleGraph) : Prop where
  load : ∀ other, other ≠ id → g'.load other = g.load other
  modules : ∀ other, other ≠ id → other ∈ g'.modules → other ∈ g.modules
  tocs : ∀ other m, other ≠ id → g.pageModule? other = some m →
    Steady g g' m.page.module m.page.render
  templates : ∀ other m, other ≠ id → g.pageModule? other = some m → Steady g g' other m.page.render
  pages : ∀ page ∈ g.pages, page.module ≠ id → Steady g g' page.module page.render

variable {g g' : ModuleGraph} {id other : String} {page : Page}

/-- A rendering that looks at answers only is steady where the answers are the same. -/
lemma steady_of_respectful {render : Expr.Scope → Except String String} (h : Respectful render)
    (hanswers : SameAnswers g.resolve g'.resolve) (module : String) :
    Steady g g' module render := fun context => h context module _ _ hanswers

/-- Where no rendering sees why a request has no answer, it is the answers that count. -/
lemma SameBut.unmoved (h : SameBut id g g') (hrespects : g.Respects) : Unmoved id g g' where
  load := h.load
  modules := h.modules
  tocs := fun other m _ hm => steady_of_respectful (hrespects.modules other m hm) h.answers _
  templates := fun other m _ hm => steady_of_respectful (hrespects.modules other m hm) h.answers _
  pages := fun page hpage _ => steady_of_respectful (hrespects.pages page hpage) h.answers _

/-- Where every request is answered as before, everything that other modules render stays. -/
lemma unmoved_of_resolve_eq (hload : ∀ other, other ≠ id → g'.load other = g.load other)
    (hmodules : ∀ other, other ≠ id → other ∈ g'.modules → other ∈ g.modules)
    (hresolve : g'.resolve = g.resolve) : Unmoved id g g' := by
  have hsteady : ∀ module render, Steady g g' module render := by
    intro module render context
    rw [hresolve]
    exact .refl _
  exact ⟨hload, hmodules, fun _ _ _ _ => hsteady _ _, fun _ _ _ _ => hsteady _ _,
    fun _ _ _ => hsteady _ _⟩

lemma Unmoved.pageModule? (h : Unmoved id g g') (hother : other ≠ id) :
    g'.pageModule? other = g.pageModule? other := by
  rw [ModuleGraph.pageModule?, ModuleGraph.pageModule?, h.load other hother]

/-- A page of another module than the edited one was there before. -/
lemma Unmoved.mem_pages (h : Unmoved id g g') (howned : g'.Owned) (hpage : page ∈ g'.pages)
    (hmodule : page.module ≠ id) : page ∈ g.pages := by
  rw [ModuleGraph.pages, List.mem_flatMap] at hpage ⊢
  obtain ⟨owner, howner, hmem⟩ := hpage
  have hne : owner ≠ id := by
    rw [← howned owner page hmem]
    exact hmodule
  refine ⟨owner, h.modules owner hne howner, ?_⟩
  rw [pagesOf] at hmem ⊢
  rw [← h.pageModule? hne]
  exact hmem

end ModuleGraph

namespace Job

open ModuleGraph

variable {g g' : ModuleGraph} {settings : BuildSettings} {ids : List String} {id other : String}
variable {page : Page}

/-- A steady rendering succeeds in both graphs, with the same outcome, or in none. -/
lemma render_steady {render : Expr.Scope → Except String String} {module : String}
    (h : Steady g g' module render) (context : List (String × Value)) :
    Agrees (render ((Job.mk g settings ids).scope context module))
      (render ((Job.mk g' settings ids).scope context module)) := h (.object context)

/-- A table of contents comes out the same if its rendering is steady. -/
lemma renderToc_agrees (h : Steady g g' page.module page.render) (id : String) :
    Agrees ((Job.mk g settings ids).renderToc id page)
      ((Job.mk g' settings ids).renderToc id page) := by
  rw [renderToc, renderToc]
  dsimp only
  obtain ⟨html, ha, hb⟩ | ⟨e, e', ha, hb⟩ :=
    ((h _).mapError (Problem.tocFailed id) (Problem.tocFailed id)).cases
  · rw [scope, scope, ha, hb]
    exact .refl _
  · rw [scope, scope, ha, hb]
    exact agrees_error rfl rfl

/-- The table of contents of a module that was not edited. -/
lemma tocOf_unmoved (h : Unmoved id g g') (hother : other ≠ id) :
    (Job.mk g' settings ids).tocOf other = (Job.mk g settings ids).tocOf other := by
  rw [tocOf, tocOf]
  dsimp only
  rw [h.pageModule? hother]
  cases hm : g.pageModule? other with
  | none => rfl
  | some m => exact (renderToc_agrees (h.tocs other m hother hm) other).symm

/-- A page has the same table of contents if that is not of the edited module. -/
lemma toc_unmoved (h : Unmoved id g g') (hdependencies : id ∉ dependenciesOf page) :
    page.toc.bind (Job.mk g' settings ids).tocOf
      = page.toc.bind (Job.mk g settings ids).tocOf := by
  rw [dependenciesOf, List.mem_append, not_or] at hdependencies
  cases hnamed : page.toc with
  | none => rfl
  | some toc =>
    refine tocOf_unmoved h ?_
    rintro rfl
    exact hdependencies.1 (by simp [hnamed])

lemma bodyOf_unmoved (h : Steady g g' page.module page.render)
    (context : List (String × Value)) :
    (Job.mk g' settings ids).bodyOf page context = (Job.mk g settings ids).bodyOf page context := by
  rw [bodyOf, bodyOf, render_steady h context]

/-- A page gets the same frame if its template is not the edited module. -/
lemma wrapped?_unmoved (h : Unmoved id g g') (hdependencies : id ∉ dependenciesOf page)
    (context : List (String × Value)) (t : Titled) :
    (Job.mk g' settings ids).wrapped? page context t
      = (Job.mk g settings ids).wrapped? page context t := by
  rw [dependenciesOf, List.mem_append, not_or] at hdependencies
  rw [wrapped?, wrapped?]
  cases hnamed : page.template with
  | none => rfl
  | some template =>
    have hne : template ≠ id := by
      rintro rfl
      exact hdependencies.2 (by simp [hnamed])
    dsimp only [Option.bind_some]
    rw [h.pageModule? hne]
    cases hm : g.pageModule? template with
    | none => rfl
    | some m => exact (render_steady (h.templates template m hne hm) _).symm

/-- A page that was not made with the edited module is rendered as before. -/
lemma pageOf_unmoved (h : Unmoved id g g') (hpage : page ∈ g.pages) (hmodule : page.module ≠ id)
    (hdependencies : id ∉ dependenciesOf page) :
    (Job.mk g' settings ids).pageOf page = (Job.mk g settings ids).pageOf page := by
  rw [pageOf, pageOf, toc_unmoved h hdependencies]
  rw [bodyOf_unmoved (h.pages page hpage hmodule), wrapped?_unmoved h hdependencies]
  rfl

end Job

namespace Cache

variable {g g' : ModuleGraph} {settings : BuildSettings} {c : Cache} {id : String}

/-- What is left of the pages in a cache is of other modules than the one taken back. -/
lemma mem_pages_invalidate {key : PageKey} {entry : CachedPage} :
    (key, entry) ∈ (c.invalidate id).pages ↔
      (key, entry) ∈ c.pages ∧ key.module ≠ id ∧ id ∉ entry.dependencies := by
  rw [Cache.invalidate, List.mem_filter, Cache.uses]
  simp

lemma mem_tocs_invalidate {other : String} {toc : Toc} :
    (other, toc) ∈ (c.invalidate id).tocs ↔ (other, toc) ∈ c.tocs ∧ other ≠ id := by
  rw [Cache.invalidate, List.mem_filter, decide_eq_true_eq]

/-- What is left of a coherent cache, once everything made by an edited module or with it was taken
back, is coherent with the edited graph. -/
lemma Coherent.invalidate_of_unmoved (hc : c.Coherent g settings) (howned : g'.Owned)
    (h : g.Unmoved id g') : (c.invalidate id).Coherent g' settings := by
  constructor
  · intro other toc hmem
    obtain ⟨hmem, hne⟩ := mem_tocs_invalidate.1 hmem
    rw [Job.tocOf_unmoved h hne]
    exact hc.tocs other toc hmem
  · intro key entry hmem ids page hpage hkey
    obtain ⟨hmem, hmodule, hunused⟩ := mem_pages_invalidate.1 hmem
    have hne : page.module ≠ id := by
      rw [← hkey] at hmodule
      exact hmodule
    have hbefore := h.mem_pages howned hpage hne
    obtain ⟨hasset, hdependencies⟩ := hc.pages key entry hmem ids page hbefore hkey
    rw [hdependencies] at hunused
    rw [hasset, Job.pageOf_unmoved h hbefore hne hunused]
    exact ⟨rfl, hdependencies⟩

/-- The same for an edit that leaves the answers to all requests as they were. -/
lemma Coherent.invalidate (hc : c.Coherent g settings) (hrespects : g.Respects)
    (howned : g'.Owned) (h : g.SameBut id g') : (c.invalidate id).Coherent g' settings :=
  hc.invalidate_of_unmoved howned (h.unmoved hrespects)

end Cache
end Bindery
