import Bindery.Proofs.Resolver.Histories
import Bindery.Proofs.Resolver.Rendering
import Mathlib

/-!
# Pages under one url

Under a url a new resolver puts out the last page that has it, unless an earlier page of the same
module has it too and pages are kept: what is kept in the course of a build is found by module and
url, so that the rendering of the first page that can be kept is put out in the place of the last
one (`Resolver.new_build_last_page`).
-/

namespace Bindery

namespace ModuleGraph

/-- The pages that share module and url with a page, itself among them. -/
def namesakes (g : ModuleGraph) (page : Page) : List Page :=
  g.pages.filter fun other => other.module = page.module ∧ other.url = page.url

/-- No page behind the last one under a url has this url. -/
lemma exists_split_of_pageAt? {g : ModuleGraph} {url : String} {page : Page}
    (h : g.pageAt? url = some page) :
    page.url = url ∧ ∃ front back, g.pages = front ++ page :: back ∧
      ∀ other ∈ back, other.url ≠ url := by
  obtain ⟨hurl, back, front, hpages, hback⟩ := List.find?_eq_some_iff_append.1 h
  refine ⟨by simpa using hurl, front.reverse, back.reverse, ?_, ?_⟩
  · rw [← List.reverse_reverse g.pages, hpages, List.reverse_append, List.reverse_cons,
      List.append_assoc, List.singleton_append]
  · intro other hother
    simpa using hback other (List.mem_reverse.1 hother)

end ModuleGraph

namespace Job

variable {job : Job} {page other : Page} {key : PageKey}

/-- A page with which nothing goes wrong, its table of contents and its template included. -/
def IsSound (job : Job) (page : Page) : Prop :=
  job.IsClean page ∧ ∀ id ∈ page.template, (job.graph.pageModule? id).isSome

lemma keyOf_eq_iff :
    job.keyOf other = job.keyOf page ↔ other.module = page.module ∧ other.url = page.url := by
  rw [keyOf, keyOf, PageKey.mk.injEq]
  constructor
  · rintro ⟨hmodule, hurl, -⟩
    exact ⟨hmodule, hurl⟩
  · rintro ⟨hmodule, hurl⟩
    exact ⟨hmodule, hurl, by rw [hmodule]⟩

/-- What a build has kept of some pages under one key, one after the other: nothing as long as none
of them is sound, else the rendering of a clean one with no sound one before it. -/
inductive KeptFrom (job : Job) : List Page → Option CachedPage → Prop
  | nothing {pages : List Page} (hpages : ∀ page ∈ pages, ¬ job.IsSound page) :
    KeptFrom job pages none
  | shown {before after : List Page} {page : Page} {entry : CachedPage}
    (hbefore : ∀ other ∈ before, ¬ job.IsSound other) (hclean : job.IsClean page)
    (hentry : entry.asset.page = job.pageOf page) :
    KeptFrom job (before ++ page :: after) (some entry)

/-- What is kept of some pages stays when one more of them is put out. If nothing is, the page is
rendered, and kept if it is sound. -/
lemma KeptFrom.asset {s : Session} (hon : job.settings.cachePages = true)
    (hs : s.Knows job job.tocOf) {pages : List Page}
    (h : job.KeptFrom pages (s.cache.page? (job.keyOf page))) :
    job.KeptFrom (pages ++ [page]) ((job.asset s page).2.cache.page? (job.keyOf page)) := by
  generalize hkept : s.cache.page? (job.keyOf page) = kept at h
  cases h with
  | @shown before after other entry hbefore hclean hentry =>
    rw [asset_of_kept hon hkept, hkept, List.append_assoc, List.cons_append]
    exact .shown hbefore hclean hentry
  | nothing hpages =>
    have hserves : job.serves s.cache page = false := by
      rw [serves, hkept]
      exact Bool.and_false _
    rw [asset_of_not_serves hs hserves, page?_sessionAfter, hkept, Option.none_or, hon,
      Bool.true_and]
    split
    · rename_i hkeep
      obtain ⟨htoc, herrors, -⟩ := renderPage_clean hs hkeep.1
      exact .shown hpages ⟨herrors, htoc⟩ rfl
    · rename_i hdrop
      refine .nothing ?_
      intro other hother
      rcases List.mem_append.1 hother with hother | hother
      · exact hpages other hother
      · rw [List.mem_singleton.1 hother]
        intro hsound
        exact hdrop ⟨renderPage_of_clean hs hsound.1.2 hsound.1.1 hsound.2, rfl⟩

/-- A page that is not found in the cache is put out as it renders. -/
lemma asset_page {s : Session} (hs : s.Knows job job.tocOf)
    (hserves : job.serves s.cache page = false) : (job.asset s page).1.page = job.pageOf page := by
  rw [asset_of_not_serves hs hserves]
  rfl

/-- What is put out for a page after some others with its key. -/
lemma KeptFrom.asset_page {s : Session} (hon : job.settings.cachePages = true)
    (hs : s.Knows job job.tocOf) {pages : List Page}
    (h : job.KeptFrom pages (s.cache.page? (job.keyOf page))) :
    ∃ before shown after, pages ++ [page] = before ++ shown :: after ∧
      (job.asset s page).1.page = job.pageOf shown ∧
      (∀ other ∈ before, ¬ job.IsSound other) ∧
      (after = [] ∧ shown = page ∨ job.IsClean shown) := by
  generalize hkept : s.cache.page? (job.keyOf page) = kept at h
  cases h with
  | @shown before after other entry hbefore hclean hentry =>
    refine ⟨before, other, after ++ [page], by simp, ?_, hbefore, .inr hclean⟩
    rw [asset_of_kept hon hkept]
    exact hentry
  | nothing hpages =>
    refine ⟨pages, page, [], rfl, Job.asset_page hs ?_, hpages, .inl ⟨rfl, rfl⟩⟩
    rw [serves, hkept]
    exact Bool.and_false _

end Job

namespace Resolver

open SourceGraph

variable {job : Job} {key : PageKey} {url : String}

/-- What is kept under a key in the course of a build comes from the pages with this key. -/
lemma addAssets_keptFrom (hon : job.settings.cachePages = true)
    (built : Sorted Asset × Session) (h : built.2.Knows job job.tocOf)
    (hempty : built.2.cache.page? key = none) (pages : List Page) :
    job.KeptFrom (pages.filter fun page => job.keyOf page = key)
      ((pages.foldl (addAsset job) built).2.cache.page? key) := by
  induction pages using List.reverseRecOn with
  | nil =>
    rw [List.foldl_nil, hempty]
    exact .nothing fun _ hpage => absurd hpage List.not_mem_nil
  | append_singleton pages page ih =>
    obtain ⟨hknows, -⟩ := addAssets_adds built h pages
    rw [List.foldl_append, List.foldl_cons, List.foldl_nil, List.filter_append]
    by_cases hkey : job.keyOf page = key
    · subst hkey
      rw [List.filter_cons_of_pos (by simp), List.filter_nil, addAsset_eq]
      exact ih.asset hon hknows
    · rw [List.filter_cons_of_neg (by simpa using hkey), List.filter_nil, List.append_nil,
        (addAsset_adds hknows page).2.others key
          fun hmem => hkey (List.mem_singleton.1 hmem).symm]
      exact ih

lemma find?_addAssets_of_ne {pages : List Page} (hurls : ∀ page ∈ pages, page.url ≠ url)
    (built : Sorted Asset × Session) :
    (pages.foldl (addAsset job) built).1.find? url = built.1.find? url := by
  induction pages generalizing built with
  | nil => rfl
  | cons page rest ih =>
    rw [List.foldl_cons, ih fun other hother => hurls other (List.mem_cons_of_mem _ hother),
      addAsset_eq, Sorted.find?_insert, if_neg (hurls page List.mem_cons_self)]

/-- Under a url of which there are several pages a new resolver puts out the rendering of the last
one, if pages are not kept or no other page has both its module and its url. If pages are kept, it
is the rendering of one of the pages that share module and url with the last one. Before this page
there is none that renders without an error, with its table of contents and its template; and it
is the last one itself, or it renders without an error. -/
theorem new_build_last_page (settings : BuildSettings) {g : ModuleGraph} {url : String} {page : Page}
    (hpage : g.pageAt? url = some page) :
    ∃ asset, ((Resolver.mk settings {}).build g).1.assets.find? url = some asset ∧
      ((settings.cachePages = true → g.namesakes page = [page]) →
        asset.page = (g.job settings).pageOf page) ∧
      (settings.cachePages = true → ∃ before shown after,
        g.namesakes page = before ++ shown :: after ∧
        asset.page = (g.job settings).pageOf shown ∧
        (∀ other ∈ before, ¬ (g.job settings).IsSound other) ∧
        (after = [] ∧ shown = page ∨ (g.job settings).IsClean shown)) := by
  obtain ⟨rfl, front, back, hpages, hback⟩ := ModuleGraph.exists_split_of_pageAt? hpage
  let job := g.job settings
  let start := (discover g { cache := {} }).2
  have hstart : start.Knows job job.tocOf := discover_knows (Session.knows_start job {})
  have hempty : start.cache.page? (job.keyOf page) = none := by
    rw [discover_cache]
    rfl
  let built := front.foldl (addAsset job) (.empty, start)
  obtain ⟨hbuilt, -⟩ := addAssets_adds (.empty, start) hstart front
  have hnamesakes : g.namesakes page
      = (front.filter fun other => job.keyOf other = job.keyOf page) ++ [page] := by
    have hnone : (back.filter fun other => other.module = page.module ∧ other.url = page.url)
        = [] := by
      rw [List.filter_eq_nil_iff]
      intro other hother
      simp [hback other hother]
    rw [ModuleGraph.namesakes, hpages, List.filter_append, List.filter_cons_of_pos (by simp), hnone]
    simp only [Job.keyOf_eq_iff]
  have hfound : ((Resolver.mk settings {}).build g).1.assets.find? page.url
      = some (job.asset built.2 page).1 := by
    rw [build_eq]
    dsimp only
    rw [hpages, List.foldl_append, List.foldl_cons, find?_addAssets_of_ne hback, addAsset_eq,
      Sorted.find?_insert, if_pos rfl]
  have hkept : settings.cachePages = true → ∃ before shown after,
      g.namesakes page = before ++ shown :: after ∧
      (job.asset built.2 page).1.page = job.pageOf shown ∧
      (∀ other ∈ before, ¬ job.IsSound other) ∧
      (after = [] ∧ shown = page ∨ job.IsClean shown) := by
    intro hon
    rw [hnamesakes]
    exact (addAssets_keptFrom hon (.empty, start) hstart hempty front).asset_page hon hbuilt
  refine ⟨_, hfound, fun halone => ?_, hkept⟩
  by_cases hon : settings.cachePages = true
  · obtain ⟨before, shown, after, hsplit, hshown, -⟩ := hkept hon
    rw [halone hon, List.singleton_eq_append_iff] at hsplit
    rcases hsplit with ⟨rfl, hsplit⟩ | ⟨-, hsplit⟩
    · rw [hshown, List.cons_eq_cons.1 hsplit |>.1]
    · cases hsplit
  · refine Job.asset_page hbuilt ?_
    rw [Job.serves, Bool.eq_false_iff.2 (show job.settings.cachePages ≠ true from hon)]
    rfl

/-- A module with two pages of one url. -/
def overwriting : SourceGraph :=
  (Edit.module "a.md" "content/a.md" {
      page := (samplePage "a.md" "a" "One" none none).page
      renderPages := [(samplePage "a.md" "./a" "Two" none none).page] }).apply
    ⟨"/", .empty⟩

/-- Without a cache the last one of the two pages is put out. -/
theorem new_build_last_page_uncached :
    ∃ page, overwriting.toGraph.pageAt? "a" = some page ∧
      ∃ asset, ((Resolver.mk { cachePages := false } {}).build overwriting.toGraph).1.assets.find?
          "a" = some asset ∧
        asset.page = (overwriting.toGraph.job { cachePages := false }).pageOf page := by
  have hfound : (overwriting.toGraph.pageAt? "a").isSome := by cbv
  obtain ⟨page, hpage⟩ := Option.isSome_iff_exists.1 hfound
  obtain ⟨asset, hasset, hlast, -⟩ := new_build_last_page { cachePages := false } hpage
  exact ⟨page, hpage, asset, hasset, hlast fun hon => absurd hon Bool.noConfusion⟩

/-- The last one of the two pages is not put out, although the warning says that it overwrites the
other one. It is not even rendered: only the other one is warned of for its lack of a title. -/
theorem first_page_is_put_out :
    let g := overwriting.toGraph
    let b := ((Resolver.mk {} {}).build g).1
    (g.pageAt? "a").map (fun page => ((g.job {}).pageOf page).html) = some "Two" ∧
      (b.assets.find? "a").map (·.page.html) = some "One" ∧
      b.diagnostics.warnings.map (·.problem) = [.untitled, .overwrites "a"] :=
  ⟨by cbv, by cbv, by cbv⟩

end Resolver
end Bindery
