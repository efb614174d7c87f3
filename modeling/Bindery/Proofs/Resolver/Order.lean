import Bindery.Proofs.Resolver.Accounting
import Bindery.Proofs.Resolver.Warnings

/-!
# The order of the modules

A new resolver puts out the same pages, and reports and warns of the same, in whatever order the
modules of a graph are listed, if no two pages have one url (`Resolver.new_build_reordered`). Which
page is the first to need a table of contents or a template does depend on the order, but what is
put down to that page does not show which one it was: what a build reports and warns of is known up
to order from the pages alone.
-/

namespace Bindery

/-! ## Graphs in which no two pages have one url -/

namespace ModuleGraph

lemma distinct_of_nodup_urls {g : ModuleGraph} (h : (g.pages.map Page.url).Nodup) :
    g.Distinct := by
  apply List.Nodup.of_map Prod.snd
  rw [List.map_map]
  exact h

/-- If no two pages have one url, the last page under a url is the only one. -/
lemma pageAt?_eq_some_iff {g : ModuleGraph} (h : (g.pages.map Page.url).Nodup) {url : String}
    {page : Page} : g.pageAt? url = some page ↔ page ∈ g.pages ∧ page.url = url := by
  have hurl : ∀ {page}, g.pageAt? url = some page → page.url = url := fun hpage => by
    simpa using List.find?_some hpage
  constructor
  · exact fun hpage => ⟨mem_of_pageAt? hpage, hurl hpage⟩
  · rintro ⟨hpage, hpageUrl⟩
    have hfound : (g.pageAt? url).isSome :=
      List.find?_isSome.2 ⟨page, List.mem_reverse.2 hpage, by simpa using hpageUrl⟩
    obtain ⟨found, hfound⟩ := Option.isSome_iff_exists.1 hfound
    have heq : found = page := List.inj_on_of_nodup_map h (mem_of_pageAt? hfound) hpage
      ((hurl hfound).trans hpageUrl.symm)
    rw [hfound, heq]

end ModuleGraph

namespace Resolver

variable {g : ModuleGraph} {job : Job} {known : String → Option Toc}

/-! ## What a new resolver warns of -/

/-- Pages with different urls, that none of the assets before has, are warned of if they are
rendered and have no title. -/
lemma addAssets_warnings (built : Sorted Asset × Session) (h : built.2.Knows job known)
    {pages : List Page} (hurls : (pages.map Page.url).Nodup)
    (hnew : ∀ page ∈ pages, page.url ∉ built.1.keys) :
    (pages.foldl (addAsset job) built).2.diagnostics.warnings = built.2.diagnostics.warnings
      ++ (job.rendered built.2.cache pages).flatMap fun page =>
        job.titleWarnings (job.pageWith known page) := by
  induction pages generalizing built with
  | nil => exact (List.append_nil _).symm
  | cons page rest ih =>
    obtain ⟨hurl, hrest⟩ := List.nodup_cons.1 hurls
    obtain ⟨hknows, hadds⟩ := addAsset_adds h page
    have hover : overwriteWarnings job built.1 page = [] := by
      have hnone := hnew page List.mem_cons_self
      rw [Sorted.mem_keys_iff] at hnone
      exact if_neg hnone
    have hpage : (addAsset job built page).2.diagnostics.warnings = built.2.diagnostics.warnings
        ++ (job.rendered built.2.cache [page]).flatMap fun page =>
          job.titleWarnings (job.pageWith known page) := by
      rw [addAsset_eq, hover, Session.caution_nil]
      exact asset_warnings h page
    have hfree : ∀ other ∈ rest, other.url ∉ (addAsset job built page).1.keys := by
      intro other hother hmem
      rw [addAsset_eq] at hmem
      rcases Sorted.mem_keys_insert.1 hmem with heq | hmem
      · exact hurl (heq ▸ List.mem_map_of_mem hother)
      · exact hnew other (List.mem_cons_of_mem _ hother) hmem
    have hsame : job.rendered (addAsset job built page).2.cache rest
        = job.rendered built.2.cache rest := by
      refine Job.rendered_congr fun other hother => hadds.others _ ?_
      rw [List.mem_singleton]
      intro heq
      have heq : other.url = page.url := congrArg PageKey.url heq
      exact hurl (heq ▸ List.mem_map_of_mem hother)
    rw [List.foldl_cons, ih _ hknows hrest hfree, hpage, hsame,
      Job.rendered_cons built.2.cache page rest, List.flatMap_append, List.append_assoc]

/-- What a new resolver warns of if no two pages have one url. -/
lemma new_build_warnings (settings : BuildSettings) (hurls : (g.pages.map Page.url).Nodup) :
    ((Resolver.mk settings {}).build g).1.diagnostics.warnings
      = g.candidates.flatMap g.urlWarnings ++ g.pages.flatMap fun page =>
        (g.job settings).titleWarnings ((g.job settings).pageOf page) := by
  let start := (discover g { cache := {} }).2
  have hstart : start.Knows (g.job settings) (g.job settings).tocOf :=
    discover_knows (Session.knows_start (g.job settings) {})
  have hwarnings := addAssets_warnings (.empty, start) hstart hurls
    fun _ _ => List.not_mem_nil
  have hrendered : (g.job settings).rendered start.cache g.pages = g.pages := by
    rw [discover_cache]
    exact rendered_new settings g
  rw [hrendered, discover_warnings] at hwarnings
  rw [build_eq]
  exact hwarnings

/-! ## Listing the modules in another order -/

section

variable {ids : List String} {settings : BuildSettings} {page : Page}

/-- The pages of a reordered listing are those of the graph in another order. -/
lemma pages_reordered (h : ids.Perm g.modules) :
    ({ g with modules := ids } : ModuleGraph).pages.Perm g.pages := h.flatMap_right _

/-- Whether a page counts as a table of contents does not depend on the order. -/
lemma keyOf_reordered (h : ids.Perm g.modules) (settings : BuildSettings) (page : Page) :
    (({ g with modules := ids } : ModuleGraph).job settings).keyOf page
      = (g.job settings).keyOf page := by
  have htocs := (pages_reordered h).filterMap Page.toc
  rw [Job.keyOf, Job.keyOf, PageKey.mk.injEq]
  refine ⟨rfl, rfl, ?_⟩
  rw [Bool.eq_iff_iff, List.contains_iff_mem, List.contains_iff_mem]
  exact htocs.mem_iff

lemma pageOf_reordered (h : ids.Perm g.modules) (settings : BuildSettings) (page : Page) :
    (({ g with modules := ids } : ModuleGraph).job settings).pageOf page
      = (g.job settings).pageOf page :=
  (Job.pageOf_congr (keyOf_reordered h settings page)).trans rfl

lemma pageErrors_reordered (h : ids.Perm g.modules) (settings : BuildSettings) (page : Page) :
    (({ g with modules := ids } : ModuleGraph).job settings).pageErrors page
      = (g.job settings).pageErrors page :=
  (Job.pageErrors_congr (keyOf_reordered h settings page)).trans rfl

/-- What is reported of all pages of a graph. -/
lemma reports_reordered (h : ids.Perm g.modules) (settings : BuildSettings) :
    let g' : ModuleGraph := { g with modules := ids }
    (g'.reports settings g'.pages).Perm (g.reports settings g.pages) := by
  intro g'
  have hpages : g'.pages.Perm g.pages := pages_reordered h
  have hbodies : (g'.pages.flatMap (g'.job settings).pageErrors).Perm
      (g.pages.flatMap (g.job settings).pageErrors) := by
    rw [List.flatMap_congr fun page _ => pageErrors_reordered h settings page]
    exact hpages.flatMap_right _
  have hneeded : (g'.neededFor g'.pages).Perm (g.neededFor g.pages) :=
    (h.filter _).append (hpages.flatMap_right _)
  have htocs : (g'.pages.flatMap fun page => page.toc.toList).Perm
      (g.pages.flatMap fun page => page.toc.toList) := hpages.flatMap_right _
  exact (((h.flatMap_right _).append hbodies).append
    ((hneeded.dedup.filter _).flatMap_right _)).append (htocs.dedup.flatMap_right _)

/-- The finished pages of a graph in which no two pages have one url. -/
lemma output_reordered (h : ids.Perm g.modules) (settings : BuildSettings)
    (hurls : (g.pages.map Page.url).Nodup) :
    ({ g with modules := ids } : ModuleGraph).output settings = g.output settings := by
  have hpages := pages_reordered h
  have hurls' := (hpages.map Page.url).nodup_iff.2 hurls
  refine Sorted.ext_find? fun url => ?_
  have hlast : ({ g with modules := ids } : ModuleGraph).pageAt? url = g.pageAt? url := by
    ext page
    rw [ModuleGraph.pageAt?_eq_some_iff hurls', ModuleGraph.pageAt?_eq_some_iff hurls,
      hpages.mem_iff]
  rw [ModuleGraph.find?_output, ModuleGraph.find?_output, hlast,
    funext (pageOf_reordered h settings)]

end

/-- A new resolver reports what the graph has to report of all pages. -/
lemma new_build_reports (settings : BuildSettings) (hdistinct : g.Distinct) :
    ((Resolver.mk settings {}).build g).1.diagnostics.errors.Perm
      (g.reports settings g.pages) := by
  have hreports := (build_reports_of_distinct (r := ⟨settings, {}⟩) hdistinct
    (Cache.coherent_of_empty rfl rfl) (Cache.clean_of_empty rfl)).1
  rw [rendered_new] at hreports
  exact hreports

/-- A new resolver puts out the same pages in whatever order the modules are listed, if no two pages
have one url. It reports and warns of the same, each as often. A page counts as a table of contents
in every order or in none, namely if some page names its module as one. -/
theorem new_build_reordered (settings : BuildSettings) {g : ModuleGraph} {ids : List String}
    (hids : ids.Perm g.modules) (hurls : (g.pages.map Page.url).Nodup) :
    let g' : ModuleGraph := { g with modules := ids }
    let b := ((Resolver.mk settings {}).build g).1
    let b' := ((Resolver.mk settings {}).build g').1
    b'.pages = b.pages ∧
      b'.diagnostics.errors.Perm b.diagnostics.errors ∧
      b'.diagnostics.warnings.Perm b.diagnostics.warnings ∧
      ∀ page ∈ g.pages,
        (g'.job settings).keyOf page = (g.job settings).keyOf page ∧
          (((g.job settings).keyOf page).isToc = true ↔
            ∃ other ∈ g.pages, other.toc = some page.module) := by
  intro g' b b'
  have hpages : g'.pages.Perm g.pages := pages_reordered hids
  have hurls' : (g'.pages.map Page.url).Nodup := (hpages.map Page.url).nodup_iff.2 hurls
  have hdistinct := ModuleGraph.distinct_of_nodup_urls hurls
  have hdistinct' := ModuleGraph.distinct_of_nodup_urls hurls'
  refine ⟨?_, ?_, ?_, fun page _ => ⟨keyOf_reordered hids settings page, ?_⟩⟩
  · have hbuild := build_output (r := ⟨settings, {}⟩) (fun _ => hdistinct.keyed)
      (Cache.coherent_of_empty rfl rfl)
    have hbuild' := build_output (r := ⟨settings, {}⟩) (fun _ => hdistinct'.keyed)
      (Cache.coherent_of_empty rfl rfl)
    exact hbuild'.1.trans ((congrArg Sorted.entries
      (output_reordered hids settings hurls)).trans hbuild.1.symm)
  · exact (new_build_reports settings hdistinct').trans
      ((reports_reordered hids settings).trans (new_build_reports settings hdistinct).symm)
  · have hcandidates : g'.candidates.Perm g.candidates := hids.flatMap_right _
    rw [new_build_warnings settings hurls, new_build_warnings settings hurls']
    refine (hcandidates.flatMap_right _).append ?_
    rw [funext (pageOf_reordered hids settings)]
    exact hpages.flatMap_right _
  · rw [Job.keyOf, List.contains_iff_mem, ModuleGraph.job, List.mem_filterMap]

/-- A page and its table of contents, in either order. -/
theorem new_build_reordered_toc_first :
    ["t.md", "a.md"].Perm sampleGraph.toGraph.modules ∧
      (sampleGraph.toGraph.pages.map Page.url).Nodup ∧
      let g' : ModuleGraph := { sampleGraph.toGraph with modules := ["t.md", "a.md"] }
      let b := ((Resolver.mk {} {}).build sampleGraph.toGraph).1
      let b' := ((Resolver.mk {} {}).build g').1
      b'.pages = b.pages ∧
        b'.diagnostics.errors.Perm b.diagnostics.errors ∧
        b'.diagnostics.warnings.Perm b.diagnostics.warnings := by
  have hids : ["t.md", "a.md"].Perm sampleGraph.toGraph.modules := by decide
  have hpages : sampleGraph.toGraph.pages.map Page.url = ["a", "t"] := by cbv
  have hurls : (sampleGraph.toGraph.pages.map Page.url).Nodup := by
    rw [hpages]
    decide
  obtain ⟨hpages, herrors, hwarnings, -⟩ := new_build_reordered {} hids hurls
  exact ⟨hids, hurls, hpages, herrors, hwarnings⟩

end Resolver
end Bindery
