import Bindery.Proofs.Resolver.Assets
import Bindery.Proofs.Resolver.Histories
import Mathlib

/-!
# Isolation of failures

Two graphs that differ in nothing but what one module renders, say because it fails in one of them,
are built by new resolvers. The urls of the two builds are the same, and so is every page that is
not made by the module or with it (`Resolver.build_isolated`). With a cache this takes that no two
pages of a module have one url: of two such pages the second is served the rendering of the first
one if nothing failed there, and so depends on what the first one is made with
(`Resolver.cached_page_depends_on_other_page`).
-/

namespace Bindery

/-! ## Pages apart from what they render -/

/-- A page apart from what it renders. -/
def Page.bare (page : Page) : Page := { page with render := fun _ => .ok "" }

/-- A module apart from what its pages render. -/
def PageModule.bare (m : PageModule) : PageModule :=
  { m with page := m.page.bare, renderPages := m.renderPages.map Page.bare }

/-- Two pages are the same but for what they render, and that is the same too unless they belong to
a module. -/
def Page.Twin (id : String) (page page' : Page) : Prop :=
  page'.bare = page.bare ∧ (page.module ≠ id → page' = page)

lemma Page.normalized?_bare (page : Page) : page.bare.normalized? = page.normalized?.map bare := by
  rw [normalized?, normalized?]
  show (if page.url.isEmpty then _ else _) = _
  split
  · rfl
  · rw [Option.map_map]
    rfl

/-- What a module puts out does not depend on what its pages render. -/
lemma PageModule.outputs_bare (m : PageModule) : m.bare.outputs = m.outputs.map Page.bare := by
  rw [outputs, outputs]
  show (if m.isTemplate then [] else (if m.page.emit then [m.page.bare] else [])
    ++ m.renderPages.map Page.bare) = _
  cases m.isTemplate <;> cases m.page.emit <;> rfl

/-- Searches by what twins agree on find twins. -/
lemma rel_find? {α β : Type} {R : α → β → Prop} {p : α → Bool} {q : β → Bool}
    (hagree : ∀ a b, R a b → p a = q b) {as : List α} {bs : List β} (h : List.Forall₂ R as bs) :
    Option.Rel R (as.find? p) (bs.find? q) := by
  induction h with
  | nil => exact .none
  | @cons a b as bs hab _ ih =>
    rw [List.find?_cons, List.find?_cons, ← hagree a b hab]
    cases p a with
    | true => exact .some hab
    | false => exact ih

namespace ModuleGraph

/-- Two graphs are the same but for what one module renders. -/
structure SameButRender (id : String) (g g' : ModuleGraph) : Prop where
  modules : g'.modules = g.modules
  meta? : g'.meta? = g.meta?
  resolve : g'.resolve = g.resolve
  load : ∀ other, other ≠ id → g'.load other = g.load other
  bare : (g'.load id).map (Option.map PageModule.bare)
    = (g.load id).map (Option.map PageModule.bare)

namespace SameButRender

variable {g g' : ModuleGraph} {id : String}

lemma unmoved (h : SameButRender id g g') : Unmoved id g g' :=
  unmoved_of_resolve_eq h.load (fun _ _ hmem => h.modules ▸ hmem) h.resolve

/-- The module itself differs in what its pages render only. -/
lemma pageModule?_bare (h : SameButRender id g g') :
    (g'.pageModule? id).map PageModule.bare = (g.pageModule? id).map PageModule.bare := by
  have hload : ∀ g : ModuleGraph, (g.pageModule? id).map PageModule.bare
      = ((g.load id).map (Option.map PageModule.bare)).toOption.join := by
    intro g
    rw [pageModule?]
    cases g.load id <;> rfl
  rw [hload, hload, h.bare]

/-- The pages of a module, apart from what they render, follow from the module apart from that. -/
lemma map_bare_pagesOf (g : ModuleGraph) (id : String) :
    (g.pagesOf id).map Page.bare
      = ((((g.pageModule? id).map PageModule.bare).map PageModule.outputs).getD []).filterMap
          Page.normalized? := by
  rw [pagesOf]
  cases g.pageModule? id with
  | none => rfl
  | some m =>
    show (m.outputs.filterMap Page.normalized?).map Page.bare
      = m.bare.outputs.filterMap Page.normalized?
    rw [PageModule.outputs_bare, List.filterMap_map, List.map_filterMap]
    refine List.filterMap_congr ?_
    intro page _
    exact page.normalized?_bare.symm

lemma twins_pagesOf (h : SameButRender id g g') (howned : g.Owned) (other : String) :
    List.Forall₂ (Page.Twin id) (g.pagesOf other) (g'.pagesOf other) := by
  by_cases hother : other = id
  · -- pages of the module, which are the same apart from what they render
    subst hother
    have hbare : (g.pagesOf other).map Page.bare = (g'.pagesOf other).map Page.bare := by
      rw [map_bare_pagesOf, map_bare_pagesOf, h.pageModule?_bare]
    rw [← List.forall₂_eq_eq_eq, List.forall₂_map_left_iff, List.forall₂_map_right_iff] at hbare
    have hpages := (List.forall₂_and_left _ _).2 ⟨howned other, hbare⟩
    refine hpages.imp ?_
    rintro page page' ⟨hmodule, hbare⟩
    exact ⟨hbare.symm, fun hne => absurd hmodule hne⟩
  · have hpages : g'.pagesOf other = g.pagesOf other := by
      rw [pagesOf, pagesOf, h.unmoved.pageModule? hother]
    rw [hpages]
    exact List.forall₂_same.2 fun page _ => ⟨rfl, fun _ => rfl⟩

/-- The pages of the two graphs are twins, one after the other. -/
lemma twins (h : SameButRender id g g') (howned : g.Owned) :
    List.Forall₂ (Page.Twin id) g.pages g'.pages := by
  rw [pages, pages, h.modules]
  refine List.rel_flatMap (List.forall₂_same.2 fun _ _ => rfl) ?_
  rintro other _ rfl
  exact h.twins_pagesOf howned other

/-- Both graphs have the same pages, apart from what they render. -/
lemma map_bare_pages (h : SameButRender id g g') (howned : g.Owned) :
    g'.pages.map Page.bare = g.pages.map Page.bare := by
  rw [eq_comm, ← List.forall₂_eq_eq_eq, List.forall₂_map_left_iff, List.forall₂_map_right_iff]
  exact (h.twins howned).imp fun page page' htwin => htwin.1.symm

/-- What is read off the pages apart from what they render is the same. -/
lemma map_pages {α : Type} (h : SameButRender id g g') (howned : g.Owned) (f : Page → α)
    (hf : ∀ page, f page.bare = f page) : g'.pages.map f = g.pages.map f := by
  have hmap : ∀ pages : List Page, (pages.map Page.bare).map f = pages.map f := by
    intro pages
    rw [List.map_map]
    exact List.map_congr_left fun page _ => hf page
  rw [← hmap g'.pages, h.map_bare_pages howned, hmap]

/-- The pages name the same tables of contents. -/
lemma tocs_eq (h : SameButRender id g g') (howned : g.Owned) :
    g'.pages.filterMap Page.toc = g.pages.filterMap Page.toc := by
  have hbare : ∀ pages : List Page,
      (pages.map Page.bare).filterMap Page.toc = pages.filterMap Page.toc :=
    fun pages => List.filterMap_map
  rw [← hbare, h.map_bare_pages howned, hbare]

/-- No two pages get one module and one url. -/
lemma distinct (h : SameButRender id g g') (howned : g.Owned) (hdistinct : g.Distinct) :
    g'.Distinct := by
  rw [Distinct, h.map_pages howned (fun page => (page.module, page.url)) fun _ => rfl]
  exact hdistinct

/-- The last page under a url is the same in both graphs unless it belongs to the module. -/
lemma pageAt?_eq_some (h : SameButRender id g g') (howned : g.Owned) {url : String} {page : Page}
    (hpage : g.pageAt? url = some page) (hmodule : page.module ≠ id) :
    g'.pageAt? url = some page := by
  have hrel : Option.Rel (Page.Twin id) (g.pageAt? url) (g'.pageAt? url) := by
    refine rel_find? ?_ (List.rel_reverse (h.twins howned))
    intro page page' htwin
    show decide (page.bare.url = url) = decide (page'.bare.url = url)
    rw [htwin.1]
  rw [hpage] at hrel
  generalize g'.pageAt? url = found at hrel ⊢
  cases hrel with
  | some htwin => rw [htwin.2 hmodule]

end SameButRender
end ModuleGraph

/-! ## Builds of the two graphs -/

namespace Resolver

open SourceGraph

variable {g g' : ModuleGraph} {id : String}

/-- Two graphs that differ in nothing but what one module renders are built by new resolvers. They
put out pages under the same urls. If there is no cache or no module has two pages of one url, what
is put out under a url is the rendering of the last page with it, and it is the same for both graphs
unless that page belongs to the module or names it as table of contents or template. -/
theorem build_isolated (settings : BuildSettings) (h : g.SameButRender id g') (howned : g.Owned) :
    let b := ((Resolver.mk settings {}).build g).1
    let b' := ((Resolver.mk settings {}).build g').1
    b'.assets.keys = b.assets.keys ∧
      ((settings.cachePages = true → g.Distinct) → ∀ url asset, b.assets.find? url = some asset →
        ∃ page, g.pageAt? url = some page ∧ asset.page = (g.job settings).pageOf page ∧
          (page.module ≠ id → page.toc ≠ some id → page.template ≠ some id →
            ∃ asset', b'.assets.find? url = some asset' ∧ asset'.page = asset.page)) := by
  intro b b'
  constructor
  · refine Sorted.keys_eq_of_mem_iff ?_
    intro url
    rw [mem_keys_build, mem_keys_build, ← List.mem_map, ← List.mem_map,
      h.map_pages howned Page.url fun _ => rfl]
  · intro hdistinct url asset hasset
    have hbuild := find?_build (r := ⟨settings, {}⟩) (fun hcache => (hdistinct hcache).keyed)
      (Cache.coherent_of_empty rfl rfl) url
    have hbuild' := find?_build (r := ⟨settings, {}⟩) (g := g')
      (fun hcache => (h.distinct howned (hdistinct hcache)).keyed)
      (Cache.coherent_of_empty rfl rfl) url
    rw [show ((Resolver.mk settings {}).build g).1.assets.find? url = some asset from hasset]
      at hbuild
    obtain ⟨page, hpage, hpageOf⟩ := Option.map_eq_some_iff.1 hbuild.symm
    refine ⟨page, hpage, hpageOf.symm, ?_⟩
    intro hmodule htoc htemplate
    rw [h.pageAt?_eq_some howned hpage hmodule] at hbuild'
    obtain ⟨asset', hasset', hpageOf'⟩ := Option.map_eq_some_iff.1 hbuild'
    have hunused : id ∉ Job.dependenciesOf page := by
      simp [Job.dependenciesOf, htoc, htemplate]
    have hjob : (g'.job settings).pageOf page = (g.job settings).pageOf page := by
      rw [ModuleGraph.job, ModuleGraph.job, h.tocs_eq howned]
      exact Job.pageOf_unmoved h.unmoved (ModuleGraph.mem_of_pageAt? hpage) hmodule hunused
    exact ⟨asset', hasset', by rw [hpageOf', hjob, hpageOf]⟩

/-! ## A table of contents that fails -/

/-- Entering a module or one that differs from it in what it renders. -/
lemma sameButRender_apply {g : SourceGraph} {id resource : String} {m m' : PageModule}
    (hbare : m'.bare = m.bare) :
    ((Edit.module id resource m).apply g).toGraph.SameButRender id
      ((Edit.module id resource m').apply g).toGraph := by
  have hdependencies : m'.page.dependencies = m.page.dependencies :=
    congrArg (fun m => m.page.dependencies) hbare
  have hurl : m'.page.url = m.page.url := congrArg (fun m => m.page.url) hbare
  have hfind : ∀ (m : PageModule) (other : String),
      ((Edit.module id resource m).apply g).entries.find? other
        = if id = other then some (.module resource (.ok m) m.page.dependencies)
          else g.entries.find? other := fun _ _ => Sorted.find?_insert
  constructor
  · refine Sorted.keys_eq_of_mem_iff ?_
    intro other
    exact Sorted.mem_keys_insert.trans Sorted.mem_keys_insert.symm
  · funext other
    show SourceGraph.meta? _ other = SourceGraph.meta? _ other
    rw [SourceGraph.meta?, SourceGraph.meta?, hfind, hfind, hdependencies]
    split <;> rfl
  · refine resolve_congr rfl ?_ ?_
    · intro other
      rw [standing, standing, hfind, hfind]
      split
      · rw [standingOf, standingOf, hurl]
      · rfl
    · intro other
      rw [failure?, failure?, Edit.load_apply_module, Edit.load_apply_module]
      by_cases hid : id = other
      · rw [if_pos hid, if_pos hid]
      · rw [if_neg hid, if_neg hid]
  · intro other hne
    exact (Edit.load_apply hne).trans (Edit.load_apply hne).symm
  · show (SourceGraph.load _ id).map _ = (SourceGraph.load _ id).map _
    rw [Edit.load_apply_module, Edit.load_apply_module, if_pos rfl, if_pos rfl]
    show Except.ok (some m'.bare) = Except.ok (some m.bare)
    rw [hbare]

/-- A table of contents that renders. -/
def soundToc : PageModule := samplePage "t.md" "t" "T" none none

/-- The same with a failure in the place of its text. -/
def brokenToc : PageModule :=
  { soundToc with page := { soundToc.page with render := fun _ => .error "broken" } }

/-- A page with a table of contents and a page without. -/
def withToc (toc : PageModule) : SourceGraph :=
  (Edit.module "t.md" "t.md" toc).apply
    ((Edit.module "b.md" "b.md" (samplePage "b.md" "b" "B" none none)).apply
      ((Edit.module "a.md" "a.md" (samplePage "a.md" "a" "A" (some "t.md") none)).apply
        ⟨"/", .empty⟩))

/-- The page without a table of contents does not see that the one of the other page fails. -/
theorem build_isolated_broken_toc :
    let g := (withToc soundToc).toGraph
    let g' := (withToc brokenToc).toGraph
    g.SameButRender "t.md" g' ∧ g.Owned ∧ g.Distinct ∧
      ∃ asset asset', ((Resolver.mk {} {}).build g).1.assets.find? "b" = some asset ∧
        ((Resolver.mk {} {}).build g').1.assets.find? "b" = some asset' ∧
        asset'.page = asset.page := by
  intro g g'
  have hsame : g.SameButRender "t.md" g' := sameButRender_apply rfl
  have hproper : (withToc soundToc).Proper := by
    apply Edit.proper_apply_module _ (proper_samplePage _ _ _ _ _)
    apply Edit.proper_apply_module _ (proper_samplePage _ _ _ _ _)
    exact Edit.proper_apply_module (proper_empty _) (proper_samplePage _ _ _ _ _)
  have howned := hproper.toGraph.owned
  have hdistinct := hproper.toGraph.distinct
  have hfound : (((Resolver.mk {} {}).build g).1.assets.find? "b").isSome := by cbv
  obtain ⟨asset, hasset⟩ := Option.isSome_iff_exists.1 hfound
  have hlast : (g.pageAt? "b").map (fun page => (page.module, page.toc, page.template))
      = some ("b.md", none, none) := by cbv
  obtain ⟨page, hpage, -, hpageSame⟩ :=
    (build_isolated {} hsame howned).2 (fun _ => hdistinct) "b" asset hasset
  rw [hpage, Option.map_some, Option.some.injEq, Prod.mk.injEq, Prod.mk.injEq] at hlast
  obtain ⟨hmodule, htoc, htemplate⟩ := hlast
  obtain ⟨asset', hasset', hsamePage⟩ := hpageSame (by simp [hmodule]) (by simp [htoc])
    (by simp [htemplate])
  exact ⟨hsame, howned, hdistinct, asset, asset', hasset, hasset', hsamePage⟩

/-- A module with two pages of one url, of which the first has a table of contents. -/
def overlapping (toc : PageModule) : SourceGraph :=
  (Edit.module "t.md" "t.md" toc).apply
    ((Edit.module "a.md" "a.md" {
        page := (samplePage "a.md" "a" "One" (some "t.md") none).page
        renderPages := [(samplePage "a.md" "a" "Two" none none).page] }).apply
      ⟨"/", .empty⟩)

/-- Under the one url stands the page without a table of contents, which is the last one. If the
table of contents of the other page fails, it is what is put out. If nothing fails, the other page
is kept, and its rendering is put out in the place of the last page. -/
theorem cached_page_depends_on_other_page :
    let g := (overlapping soundToc).toGraph
    let g' := (overlapping brokenToc).toGraph
    g.SameButRender "t.md" g' ∧ g.Owned ∧
      (g.pageAt? "a").map (fun page => (page.module, page.toc, page.template))
        = some ("a.md", none, none) ∧
      (((Resolver.mk {} {}).build g).1.assets.find? "a").map (·.page.html) = some "One" ∧
      (((Resolver.mk {} {}).build g').1.assets.find? "a").map (·.page.html) = some "Two" := by
  refine ⟨sameButRender_apply rfl, ?_, by cbv, by cbv, by cbv⟩
  refine ModuleGraph.owned_of_modules ?_
  intro id m hm page hpage
  rw [pageModule?_toGraph, overlapping, Edit.load_apply_module, Edit.load_apply_module] at hm
  split at hm
  · rename_i hid
    cases hm
    rw [List.mem_singleton.1 hpage]
    exact hid
  · split at hm
    · rename_i hid
      cases hm
      rcases List.mem_cons.1 hpage with rfl | hpage
      · exact hid
      · rw [List.mem_singleton.1 hpage]
        exact hid
    · cases hm

end Resolver
end Bindery
