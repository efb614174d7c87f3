import Bindery.Proofs.Sorted
import Bindery.Resolver

/-!
# What a build puts out

The pages of a build as functions of the graph and the settings, without a session and a cache
(`ModuleGraph.output`), and the pages of a graph as those that a build discovers, whatever happened
before (`Resolver.discover_fst`).
-/

namespace Bindery

/-! ## The pages of a graph -/

/-- A page with its url normalized; none if it cannot be put out. -/
def Page.normalized? (page : Page) : Option Page :=
  if page.url.isEmpty then none else (Link.normalize page.url).map fun url => { page with url }

lemma Page.eq_of_normalized? {page other : Page} (h : page.normalized? = some other) :
    other.module = page.module ∧ other.render = page.render := by
  rw [Page.normalized?] at h
  split at h
  · cases h
  · rw [Option.map_eq_some_iff] at h
    obtain ⟨url, -, rfl⟩ := h
    exact ⟨rfl, rfl⟩

namespace ModuleGraph

/-- The module of an id if it loads and is a page. -/
def pageModule? (g : ModuleGraph) (id : String) : Option PageModule :=
  match g.load id with
  | .ok m => m
  | .error _ => none

/-- The pages that a module of a graph puts out. -/
def pagesOf (g : ModuleGraph) (id : String) : List Page :=
  ((g.pageModule? id).map PageModule.outputs).getD [] |>.filterMap Page.normalized?

/-- The pages that a graph puts out. -/
def pages (g : ModuleGraph) : List Page := g.modules.flatMap g.pagesOf

/-- A module is a page if it loads to one. -/
lemma pageModule?_eq_some {g : ModuleGraph} {id : String} {m : PageModule} :
    g.pageModule? id = some m ↔ g.load id = .ok (some m) := by
  rw [pageModule?]
  cases g.load id <;> simp

/-- The pages of a module are those that it puts out, with their urls normalized. -/
lemma mem_pagesOf {g : ModuleGraph} {id : String} {page : Page} :
    page ∈ g.pagesOf id ↔
      ∃ m, g.pageModule? id = some m ∧ ∃ own ∈ m.outputs, own.normalized? = some page := by
  rw [pagesOf, List.mem_filterMap]
  cases g.pageModule? id <;> simp

/-- No module puts out two pages under one url. -/
def Keyed (g : ModuleGraph) : Prop :=
  ∀ p ∈ g.pages, ∀ q ∈ g.pages, p.module = q.module → p.url = q.url → p = q

/-- No two pages that a graph puts out have one module and one url. -/
def Distinct (g : ModuleGraph) : Prop :=
  (g.pages.map fun page => (page.module, page.url)).Nodup

/-- Pages that differ in module or url differ in their keys. -/
lemma Distinct.keyed {g : ModuleGraph} (h : g.Distinct) : g.Keyed := by
  intro p hp q hq hmodule hurl
  have hkey : (p.module, p.url) = (q.module, q.url) := by rw [hmodule, hurl]
  exact List.inj_on_of_nodup_map h hp hq hkey

end ModuleGraph

/-! ## Renderings -/

namespace Job

/-- The table of contents of a module; none if it fails. -/
def tocOf (job : Job) (id : String) : Option Toc :=
  (job.graph.pageModule? id).bind fun m => (job.renderToc id m.page).toOption

/-- The body of a page in a context. -/
def bodyOf (job : Job) (page : Page) (context : List (String × Value)) : String :=
  (page.render (job.scope context page.module)).toOption.getD failedBody

/-- The context of the template of a page. -/
def templateContext (context : List (String × Value)) (t : Titled) : List (String × Value) :=
  context ++ [
    ("title", Value.ofString? (t.title.map (·.1))),
    ("titleHtml", Value.ofString? (t.title.map (·.2))),
    ("html", .string t.html)]

/-- A page body in its template; none if there is no template or it fails. -/
def wrapped? (job : Job) (page : Page) (context : List (String × Value)) (t : Titled) :
    Option String :=
  page.template.bind fun id => (job.graph.pageModule? id).bind fun m =>
    (m.page.render (job.scope (templateContext context t) id)).toOption

/-- The rendering of a page. -/
def pageOf (job : Job) (page : Page) : RenderedPage :=
  let attributes := attributesOf page
  let context := job.contextOf page attributes (page.toc.bind job.tocOf)
  let t := job.titled page attributes (job.bodyOf page context)
  { module := page.module, url := page.url, filename := page.filename
    html := (job.wrapped? page context t).getD t.html
    title := t.title.map (·.1), titleHtml := t.title.map (·.2)
    document := t.document, attributes }

/-- What a page is cached under. -/
def keyOf (job : Job) (page : Page) : PageKey :=
  ⟨page.module, page.url, job.tocIds.contains page.module⟩

/-- The modules that a page is rendered with. -/
def dependenciesOf (page : Page) : List String := page.toc.toList ++ page.template.toList

/-- The title depends on whether the page is a table of contents, and not on the others. -/
lemma titled_congr {g : ModuleGraph} {settings : BuildSettings} {ids ids' : List String}
    {page : Page} (h : ids.contains page.module = ids'.contains page.module)
    (attributes : List (String × Value)) (html : String) :
    (Job.mk g settings ids).titled page attributes html
      = (Job.mk g settings ids').titled page attributes html := by
  rw [titled, titled]
  dsimp only
  rw [h]

/-- A page is rendered in one way under one key, whatever the tables of contents are. -/
lemma pageOf_congr {g : ModuleGraph} {settings : BuildSettings} {ids ids' : List String}
    {page : Page} (h : (Job.mk g settings ids).keyOf page = (Job.mk g settings ids').keyOf page) :
    (Job.mk g settings ids).pageOf page = (Job.mk g settings ids').pageOf page := by
  have hcontains : ids.contains page.module = ids'.contains page.module := by
    rw [keyOf, keyOf, PageKey.mk.injEq] at h
    exact h.2.2
  rw [pageOf, pageOf]
  rw [titled_congr hcontains]
  rfl

end Job

/-- What does not change during a build of a graph. -/
def ModuleGraph.job (g : ModuleGraph) (settings : BuildSettings) : Job :=
  ⟨g, settings, g.pages.filterMap Page.toc⟩

/-- Pages with different modules or urls are kept under different keys. -/
lemma ModuleGraph.Distinct.nodup_keys {g : ModuleGraph} (h : g.Distinct)
    (settings : BuildSettings) : (g.pages.map (g.job settings).keyOf).Nodup := by
  apply List.Nodup.of_map fun key => (key.module, key.url)
  rw [List.map_map]
  exact h

/-- The finished pages of a graph, by url. -/
def ModuleGraph.output (g : ModuleGraph) (settings : BuildSettings) : Sorted RenderedPage :=
  let job : Job := ⟨g, settings, g.pages.filterMap Page.toc⟩
  g.pages.foldl (fun pages page => pages.insert page.url (job.pageOf page)) .empty

/-- The last page that a graph puts out under a url. -/
def ModuleGraph.pageAt? (g : ModuleGraph) (url : String) : Option Page :=
  g.pages.reverse.find? (·.url = url)

lemma ModuleGraph.mem_of_pageAt? {g : ModuleGraph} {url : String} {page : Page}
    (h : g.pageAt? url = some page) : page ∈ g.pages :=
  List.mem_reverse.1 (List.mem_of_find?_eq_some h)

/-- The last page under a url is the one that stays. -/
lemma ModuleGraph.find?_output (g : ModuleGraph) (settings : BuildSettings) (url : String) :
    (g.output settings).find? url = (g.pageAt? url).map (g.job settings).pageOf := by
  rw [output, Sorted.find?_foldl_insert]
  exact Option.or_none

/-! ## Builds -/

namespace Resolver

lemma outputPage_fst (g : ModuleGraph) (s : Session) (page : Page) :
    (outputPage g s page).1 = page.normalized? := by
  rw [outputPage, Page.normalized?]
  split
  · rfl
  · split <;> rename_i hurl <;> rw [hurl] <;> rfl

section

variable {g : ModuleGraph} {motive : Session → Prop}

/-- Putting pages out keeps what putting out one page keeps. -/
lemma outputPages_keeps (hpage : ∀ s page, motive s → motive (outputPage g s page).2)
    (found : List Page × Session) (h : motive found.2) (pages : List Page) :
    (outputPages g found pages).1 = found.1 ++ pages.filterMap Page.normalized? ∧
      motive (outputPages g found pages).2 := by
  induction pages generalizing found with
  | nil => exact ⟨by simp [outputPages], h⟩
  | cons page rest ih =>
    obtain ⟨hfound, hkept⟩ :=
      ih (found.1 ++ (outputPage g found.2 page).1.toList, (outputPage g found.2 page).2)
        (hpage _ page h)
    refine ⟨?_, hkept⟩
    rw [outputPages] at hfound ⊢
    rw [List.foldl_cons]
    dsimp only at hfound ⊢
    rw [hfound, outputPage_fst, List.append_assoc]
    cases hnormalized : page.normalized? with
    | none => rw [List.filterMap_cons_none hnormalized]; rfl
    | some other => rw [List.filterMap_cons_some hnormalized]; rfl

/-- The pages of a module are put out after those found before. -/
lemma outputModule_keeps (hpage : ∀ s page, motive s → motive (outputPage g s page).2)
    (hfail : ∀ s id reason, g.load id = .error reason → motive s → motive (s.fail g id reason))
    (found : List Page × Session) (h : motive found.2) (id : String) :
    (outputModule g found id).1 = found.1 ++ g.pagesOf id ∧ motive (outputModule g found id).2 := by
  rw [outputModule, ModuleGraph.pagesOf, ModuleGraph.pageModule?]
  split <;> rename_i hload <;> rw [hload]
  · exact outputPages_keeps hpage found h _
  · exact ⟨by simp, h⟩
  · exact ⟨by simp, hfail _ _ _ hload h⟩

/-- Discovering pages keeps what putting out a page and failing to load a module keep. -/
lemma discover_keeps (hpage : ∀ s page, motive s → motive (outputPage g s page).2)
    (hfail : ∀ s id reason, g.load id = .error reason → motive s → motive (s.fail g id reason))
    {s : Session} (h : motive s) : (discover g s).1 = g.pages ∧ motive (discover g s).2 := by
  -- over any modules and behind any pages, since the fold goes on with both
  have hfold : ∀ (ids : List String) (found : List Page × Session), motive found.2 →
      (ids.foldl (outputModule g) found).1 = found.1 ++ ids.flatMap g.pagesOf ∧
        motive (ids.foldl (outputModule g) found).2 := by
    intro ids
    induction ids with
    | nil => exact fun found h => ⟨by simp, h⟩
    | cons id rest ih =>
      intro found h
      obtain ⟨hid, hkept⟩ := outputModule_keeps hpage hfail found h id
      obtain ⟨hrest, hkeptRest⟩ := ih _ hkept
      rw [List.foldl_cons, List.flatMap_cons, ← List.append_assoc, ← hid]
      exact ⟨hrest, hkeptRest⟩
  exact hfold g.modules ([], s) h

end

/-- The pages that are discovered are those of the graph, whatever happened before. -/
lemma discover_fst (g : ModuleGraph) (s : Session) : (discover g s).1 = g.pages :=
  (discover_keeps (motive := fun _ => True) (fun _ _ _ => trivial) (fun _ _ _ _ _ => trivial)
    trivial).1

/-- A build renders the pages of the graph one after the other. -/
lemma build_eq (r : Resolver) (g : ModuleGraph) :
    r.build g =
      let built := g.pages.foldl (addAsset (g.job r.settings))
        (.empty, (discover g { cache := r.cache }).2)
      ({ assets := built.1, diagnostics := built.2.diagnostics, tocs := built.2.rendered },
        { r with cache := built.2.cache }) := by
  rw [build, ModuleGraph.job, ← discover_fst g { cache := r.cache }]

end Resolver
end Bindery
