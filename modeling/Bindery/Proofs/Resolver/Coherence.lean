import Bindery.Proofs.Resolver.Rendering

/-!
# Coherent caches

A cache is coherent with a graph if everything in it is what would be rendered again. What is known
in a session that starts from a coherent cache is true of the graph (`Session.Faithful`), so a build
that starts from a coherent cache puts out the pages of the graph and leaves a coherent cache
(`Resolver.build_spec`).
-/

namespace Bindery

/-- Everything in a cache is what would be rendered again. -/
structure Cache.Coherent (g : ModuleGraph) (settings : BuildSettings) (c : Cache) : Prop where
  tocs : ∀ id toc, (id, toc) ∈ c.tocs → (Job.mk g settings []).tocOf id = some toc
  pages : ∀ key entry, (key, entry) ∈ c.pages → ∀ ids, ∀ page ∈ g.pages,
    (Job.mk g settings ids).keyOf page = key →
      entry.asset.page = (Job.mk g settings ids).pageOf page ∧
        entry.dependencies = Job.dependenciesOf page

/-- A cache without entries is coherent with every graph. -/
lemma Cache.coherent_of_empty {g : ModuleGraph} {settings : BuildSettings} {c : Cache}
    (htocs : c.tocs = []) (hpages : c.pages = []) : c.Coherent g settings := by
  constructor
  · intro id toc h
    rw [htocs] at h
    exact absurd h List.not_mem_nil
  · intro key entry h
    rw [hpages] at h
    exact absurd h List.not_mem_nil

/-- What is known in the course of a build is true. -/
structure Session.Faithful (job : Job) (s : Session) : Prop where
  cache : s.cache.Coherent job.graph job.settings
  tocs : ∀ id toc, (id, toc) ∈ s.tocs → toc = job.tocOf id
  failed : ∀ id ∈ s.failed, job.graph.pageModule? id = none

namespace Session

variable {job : Job} {s : Session} {id : String}

/-- A session that is faithful knows the tables of contents of the graph. -/
lemma Faithful.knows (h : s.Faithful job) : s.Knows job job.tocOf where
  noted := fun id toc hnoted => h.tocs id toc (mem_of_find?_key hnoted)
  kept := fun id toc hkept => h.cache.tocs id toc (mem_of_find?_key hkept)
  rest := fun _ _ => rfl
  failed := h.failed

lemma Faithful.report (h : s.Faithful job) (errors : List Diagnostic) :
    (s.report errors).Faithful job := ⟨h.cache, h.tocs, h.failed⟩

lemma Faithful.caution (h : s.Faithful job) (warnings : List Diagnostic) :
    (s.caution warnings).Faithful job := ⟨h.cache, h.tocs, h.failed⟩

/-- Putting down that a module fails keeps a session faithful, if the module does fail. -/
lemma Faithful.fail (h : s.Faithful job) (reason : String)
    (hnone : job.graph.pageModule? id = none) : (s.fail job.graph id reason).Faithful job := by
  rw [Session.fail]
  split
  · exact h
  · refine ⟨h.cache, h.tocs, ?_⟩
    intro other hother
    rcases List.mem_append.1 hother with hmem | hmem
    · exact h.failed other hmem
    · rw [List.mem_singleton.1 hmem]
      exact hnone

/-- Noting the table of contents of the graph keeps a session faithful. -/
lemma Faithful.noteToc (h : s.Faithful job) {toc : Option Toc} (htoc : toc = job.tocOf id) :
    (s.noteToc id toc).Faithful job := by
  refine ⟨h.cache, ?_, h.failed⟩
  intro other found hmem
  rcases List.mem_append.1 hmem with hmem | hmem
  · exact h.tocs other found hmem
  · cases List.mem_singleton.1 hmem
    exact htoc

/-- Loading a module keeps a session faithful. -/
lemma Faithful.load (h : s.Faithful job) (id : String) :
    (s.load job.graph id).2.Faithful job := by
  rw [load_eq h.failed]
  cases hobstacle : job.graph.obstacle? id with
  | none => exact h
  | some reason => exact h.fail reason (ModuleGraph.pageModule?_of_obstacle hobstacle)

lemma Faithful.ask (h : s.Faithful job) (name : Option String) :
    (s.ask job.graph name).Faithful job := by
  cases name with
  | none => exact h
  | some id => exact h.load id

end Session

namespace Job

variable {job : Job} {s : Session} {page : Page}

/-! ## Rendering keeps the cache coherent -/

/-- Resolving a table of contents keeps a session faithful. -/
lemma resolveToc_faithful (h : s.Faithful job) (id : String) :
    (job.resolveToc s id).2.Faithful job := by
  rw [resolveToc]
  split
  · exact h
  · split
    · -- kept from a build before
      rename_i toc hcached
      have htoc : job.tocOf id = some toc := h.cache.tocs id toc (mem_of_find?_key hcached)
      exact h.noteToc htoc.symm
    · -- rendered now; a failure is noted too, so that it is reported once
      have hs' := h.load id
      rw [Session.load_eq_pageModule? h.failed]
      cases hm : job.graph.pageModule? id with
      | none =>
        refine hs'.noteToc ?_
        rw [tocOf, hm]
        rfl
      | some m =>
        dsimp only
        cases hrender : job.renderToc id m.page with
        | error p =>
          refine (hs'.noteToc ?_).report [job.graph.report id p]
          rw [tocOf, hm, Option.bind_some, hrender]
          rfl
        | ok toc =>
          have htoc : some toc = job.tocOf id := by
            rw [tocOf, hm, Option.bind_some, hrender]
            rfl
          have hnoted := hs'.noteToc htoc
          dsimp only
          split
          · refine ⟨⟨?_, hnoted.cache.pages⟩, hnoted.tocs, hnoted.failed⟩
            intro other found hmem
            rcases List.mem_append.1 hmem with hmem | hmem
            · exact hnoted.cache.tocs other found hmem
            · cases List.mem_singleton.1 hmem
              exact htoc.symm
          · exact ⟨hnoted.cache, hnoted.tocs, hnoted.failed⟩

/-- Rendering a page keeps a session faithful. -/
lemma sessionWith_faithful (h : s.Faithful job) (page : Page) :
    (job.sessionWith job.tocOf s page).Faithful job := by
  have htoc : (job.afterToc s page).Faithful job := by
    rw [afterToc]
    cases page.toc with
    | none => exact h
    | some id => exact resolveToc_faithful h id
  exact (((htoc.report _).caution _).ask page.template).report _

/-- The asset of a page is its rendering, be it cached or new. Without a cache it does not matter
whether pages share a key. -/
lemma asset_spec (hkeyed : job.settings.cachePages = true → job.graph.Keyed) (h : s.Faithful job)
    (hpage : page ∈ job.graph.pages) :
    (job.asset s page).1.page = job.pageOf page ∧ (job.asset s page).2.Faithful job := by
  cases hserves : job.serves s.cache page with
  | true =>
    obtain ⟨hon, entry, hentry⟩ := serves_eq_true_iff.1 hserves
    rw [asset_of_kept hon hentry]
    exact ⟨(h.cache.pages _ entry (mem_of_find?_key hentry) job.tocIds page hpage rfl).1, h⟩
  | false =>
    have hs' := sessionWith_faithful h page
    rw [asset_of_not_serves h.knows hserves]
    refine ⟨rfl, ⟨hs'.cache.tocs, ?_⟩, hs'.tocs, hs'.failed⟩
    intro key entry hmem ids other hother hkey
    rcases List.mem_append.1 hmem with hmem | hmem
    · exact hs'.cache.pages key entry hmem ids other hother hkey
    · rw [keptWith] at hmem
      split at hmem
      · -- the entry is kept under the key of the page, which no other page has
        rename_i hkeep
        cases List.mem_singleton.1 hmem
        have hsame : other = page := by
          rw [keyOf, PageKey.mk.injEq] at hkey
          exact hkeyed (Bool.and_eq_true_iff.1 hkeep).1 other hother page hpage hkey.1 hkey.2.1
        subst hsame
        exact ⟨pageOf_congr hkey.symm, rfl⟩
      · exact absurd hmem List.not_mem_nil

end Job

/-! ## Builds from a coherent cache -/

namespace Resolver

variable {job : Job} {s : Session}

/-- Looking for the pages keeps a session faithful. -/
lemma discover_faithful (h : s.Faithful job) : (discover job.graph s).2.Faithful job := by
  refine (discover_keeps (motive := fun s => s.Faithful job) ?_ ?_ h).2
  · intro s page h
    rw [outputPage]
    split
    · exact h.caution [_]
    · split
      · exact h
      · exact h.report [_]
  · intro s id reason hload h
    refine h.fail reason ?_
    rw [ModuleGraph.pageModule?, hload]

/-- A map of assets as a map of pages. -/
def HoldsPages (assets : Sorted Asset) (pages : Sorted RenderedPage) : Prop :=
  assets.entries.map (fun e => (e.1, e.2.page)) = pages.entries

variable {built : Sorted Asset × Session} {pages : Sorted RenderedPage}

/-- A page is added as it would be rendered, and the session stays faithful. -/
lemma addAsset_spec (hkeyed : job.settings.cachePages = true → job.graph.Keyed)
    (h : built.2.Faithful job) (hassets : HoldsPages built.1 pages) {page : Page}
    (hpage : page ∈ job.graph.pages) :
    (addAsset job built page).2.Faithful job ∧
      HoldsPages (addAsset job built page).1 (pages.insert page.url (job.pageOf page)) := by
  obtain ⟨hrendered, hs'⟩ := Job.asset_spec hkeyed h hpage
  rw [addAsset_eq]
  refine ⟨hs'.caution _, ?_⟩
  rw [HoldsPages, Sorted.insert, Sorted.insert]
  dsimp only
  rw [Sorted.map_place Asset.page, hassets, hrendered]

/-- Pages are added as they would be rendered, and the session stays faithful. -/
lemma addAssets_spec (hkeyed : job.settings.cachePages = true → job.graph.Keyed)
    (h : built.2.Faithful job) (hassets : HoldsPages built.1 pages) (found : List Page)
    (hfound : ∀ page ∈ found, page ∈ job.graph.pages) :
    (found.foldl (addAsset job) built).2.Faithful job ∧
      HoldsPages (found.foldl (addAsset job) built).1
        (found.foldl (fun pages page => pages.insert page.url (job.pageOf page)) pages) := by
  induction found generalizing built pages with
  | nil => exact ⟨h, hassets⟩
  | cons page rest ih =>
    obtain ⟨h₁, hassets₁⟩ := addAsset_spec hkeyed h hassets (hfound page List.mem_cons_self)
    exact ih h₁ hassets₁ fun other hother => hfound other (List.mem_cons_of_mem _ hother)

/-- A build that starts from a coherent cache puts out the pages of the graph, and the cache that
it leaves is coherent, if the cache is off or no two pages share a key. -/
lemma build_output {r : Resolver} {g : ModuleGraph}
    (hkeyed : r.settings.cachePages = true → g.Keyed) (h : r.cache.Coherent g r.settings) :
    (r.build g).1.pages = (g.output r.settings).entries ∧
      (r.build g).2.settings = r.settings ∧ (r.build g).2.cache.Coherent g r.settings := by
  let job : Job := g.job r.settings
  let start : Sorted Asset × Session := (.empty, (discover g { cache := r.cache }).2)
  have hstart : start.2.Faithful job := discover_faithful
    ⟨h, fun _ _ hmem => absurd hmem List.not_mem_nil, fun _ hmem => absurd hmem List.not_mem_nil⟩
  have hempty : HoldsPages start.1 .empty := rfl
  obtain ⟨hfaithful, hassets⟩ := addAssets_spec hkeyed hstart hempty g.pages fun _ hmem => hmem
  rw [build_eq]
  exact ⟨hassets, rfl, hfaithful.cache⟩

/-- Under a url a build puts out the last page of the graph that has it. -/
lemma find?_build {r : Resolver} {g : ModuleGraph}
    (hkeyed : r.settings.cachePages = true → g.Keyed) (h : r.cache.Coherent g r.settings)
    (url : String) :
    ((r.build g).1.assets.find? url).map Asset.page
      = (g.pageAt? url).map (g.job r.settings).pageOf := by
  rw [← g.find?_output, Sorted.find?, Sorted.find?, ← (build_output hkeyed h).1]
  exact (Sorted.lookup_map Asset.page url _).symm

/-- What a build puts out if no two pages share a key. -/
lemma build_spec {r : Resolver} {g : ModuleGraph} (hkeyed : g.Keyed)
    (h : r.cache.Coherent g r.settings) :
    (r.build g).1.pages = (g.output r.settings).entries ∧
      (r.build g).2.settings = r.settings ∧ (r.build g).2.cache.Coherent g r.settings :=
  build_output (fun _ => hkeyed) h

end Resolver
end Bindery
