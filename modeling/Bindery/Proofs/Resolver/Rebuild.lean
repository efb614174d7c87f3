import Bindery.Proofs.Resolver.Histories
import Bindery.Proofs.Resolver.Rendering

/-!
# Building a graph again

A build right after a build of the same graph puts out the same pages and reports the same errors,
whatever the first one found in its cache (`Resolver.build_again`). The two builds are followed page
by page. A page that the first build renders and keeps is skipped by the second one; it may be kept
only if rendering it left nothing that another page could see, so that the builds stay abreast. A
page that is not kept is rendered in both.
-/

namespace Bindery
namespace Resolver

open SourceGraph

variable {job : Job} {known : String → Option Toc} {s t : Session} {page : Page}

/-- Two builds abreast of each other: they know the same tables of contents, report the same from
here on, and hold the same pages; the second one has warned of nothing that the first has not. -/
structure Abreast (job : Job) (known : String → Option Toc)
    (first second : Sorted Asset × Session) : Prop where
  knows : first.2.Knows job known
  knowsToo : second.2.Knows job known
  alike : first.2.Alike known second.2
  pages : second.1.entries.map (fun e => (e.1, e.2.page))
    = first.1.entries.map (fun e => (e.1, e.2.page))
  warnings : second.2.diagnostics.warnings.Sublist first.2.diagnostics.warnings

/-- The asset of a page in two builds abreast, if what the second one finds kept for the page is
what the first one leaves. -/
lemma asset_abreast (hs : s.Knows job known) (ht : t.Knows job known) (halike : s.Alike known t)
    (hwarnings : t.diagnostics.warnings.Sublist s.diagnostics.warnings)
    (hleft : job.settings.cachePages = true →
      t.cache.page? (job.keyOf page) = (job.asset s page).2.cache.page? (job.keyOf page)) :
    (job.asset t page).1.page = (job.asset s page).1.page ∧
      (job.asset s page).2.Alike known (job.asset t page).2 ∧
      (job.asset t page).2.diagnostics.warnings.Sublist
        (job.asset s page).2.diagnostics.warnings := by
  cases hserves : job.serves s.cache page with
  | true =>
    -- kept before the first build: neither renders the page
    obtain ⟨hon, entry, hentry⟩ := Job.serves_eq_true_iff.1 hserves
    have hfirst := Job.asset_of_kept hon hentry
    rw [hfirst, hentry] at hleft
    rw [hfirst, Job.asset_of_kept hon (hleft hon)]
    exact ⟨rfl, halike, hwarnings⟩
  | false =>
    have hkept := Job.page?_sessionAfter job known s page (job.keyOf page)
    rw [Job.asset_of_not_serves hs hserves] at hleft ⊢
    by_cases hkeep : (job.settings.cachePages && (job.renderPage s page).2.1) = true
    · -- kept by the first build: it left no trace, and the second build does not render it
      obtain ⟨hon, hclean⟩ := Bool.and_eq_true_iff.1 hkeep
      have hnew : s.cache.page? (job.keyOf page) = none := by
        by_contra hold
        rw [Job.serves, hon, Bool.true_and, Option.isSome_iff_ne_none.2 hold] at hserves
        cases hserves
      rw [hnew, if_pos ⟨hkeep, rfl⟩] at hkept
      have htrace : s.Alike known (job.sessionAfter known s page) :=
        (Job.renderPage_clean hs hclean).2.2.trans (Job.alike_sessionAfter _ _ _ _)
      rw [Job.asset_of_kept hon ((hleft hon).trans hkept), Job.warnings_sessionAfter]
      exact ⟨rfl, htrace.symm.trans halike, hwarnings.trans (List.sublist_append_left _ _)⟩
    · -- not kept: both render it
      rw [if_neg fun h => hkeep h.1, Option.or_none] at hkept
      have hserves' : job.serves t.cache page = false := by
        cases hon : job.settings.cachePages with
        | false =>
          rw [Job.serves, hon]
          rfl
        | true =>
          rw [Job.serves, hon] at hserves ⊢
          rw [hleft hon, hkept]
          exact hserves
      rw [Job.asset_of_not_serves ht hserves', Job.warnings_sessionAfter,
        Job.warnings_sessionAfter]
      have hwith := (Job.alike_sessionAfter job known s page).symm.trans
        ((Job.sessionWith_alike hs ht halike page).trans (Job.alike_sessionAfter _ _ _ _))
      exact ⟨rfl, hwith, hwarnings.append_right _⟩

lemma Abreast.contains {first second : Sorted Asset × Session}
    (h : Abreast job known first second) (url : String) :
    second.1.contains url = first.1.contains url := by
  have hfind : (second.1.find? url).map Asset.page = (first.1.find? url).map Asset.page := by
    rw [Sorted.find?, Sorted.find?, ← Sorted.lookup_map, ← Sorted.lookup_map, h.pages]
  rw [Sorted.contains, Sorted.contains, ← Option.isSome_map (f := Asset.page), hfind,
    Option.isSome_map]

/-- Adding a page to both keeps the builds abreast. -/
lemma Abreast.add {first second : Sorted Asset × Session} (h : Abreast job known first second)
    (hleft : job.settings.cachePages = true → second.2.cache.page? (job.keyOf page)
      = (addAsset job first page).2.cache.page? (job.keyOf page)) :
    Abreast job known (addAsset job first page) (addAsset job second page) := by
  rw [addAsset_eq] at hleft
  obtain ⟨hpage, halike, hwarnings⟩ := asset_abreast h.knows h.knowsToo h.alike h.warnings hleft
  have hover : overwriteWarnings job second.1 page = overwriteWarnings job first.1 page := by
    rw [overwriteWarnings, h.contains, overwriteWarnings]
  refine ⟨(addAsset_adds h.knows page).1, (addAsset_adds h.knowsToo page).1, ?_, ?_, ?_⟩
  · rw [addAsset_eq, addAsset_eq]
    exact halike.caution _ _
  · rw [addAsset_eq, addAsset_eq, Sorted.insert, Sorted.insert]
    dsimp only
    rw [Sorted.map_place Asset.page, Sorted.map_place Asset.page, h.pages, hpage]
  · rw [addAsset_eq, addAsset_eq, hover]
    exact hwarnings.append_right _

/-- Two builds stay abreast over pages with different keys, if what the second one finds kept for
them is what the first one leaves. -/
lemma Abreast.addAll {pages : List Page} (hnodup : (pages.map job.keyOf).Nodup)
    {first second : Sorted Asset × Session} (h : Abreast job known first second)
    (hleft : job.settings.cachePages = true → ∀ page ∈ pages,
      second.2.cache.page? (job.keyOf page)
        = (pages.foldl (addAsset job) first).2.cache.page? (job.keyOf page)) :
    Abreast job known (pages.foldl (addAsset job) first) (pages.foldl (addAsset job) second) := by
  induction pages generalizing first second with
  | nil => exact h
  | cons page rest ih =>
    obtain ⟨hnew, hrest⟩ := List.nodup_cons.1 hnodup
    rw [List.foldl_cons] at hleft
    -- the pages after this one leave what is kept for it
    have hafter := (addAssets_adds _ (addAsset_adds h.knows page).1 rest).2
    have hstep : Abreast job known (addAsset job first page) (addAsset job second page) :=
      h.add fun hon => (hleft hon page List.mem_cons_self).trans (hafter.others _ hnew)
    refine ih hrest hstep ?_
    intro hon other hother
    have hne : job.keyOf other ∉ [job.keyOf page] := by
      rw [List.mem_singleton]
      intro heq
      exact hnew (heq ▸ List.mem_map_of_mem hother)
    rw [(addAsset_adds h.knowsToo page).2.others _ hne]
    exact hleft hon other (List.mem_cons_of_mem _ hother)

/-- Whatever a resolver has kept, of whatever graphs: two builds of one graph in which no two pages
share a module and a url put out the same pages and report the same errors in the same order. The
second one warns of nothing that the first one has not warned of. -/
theorem build_again (r : Resolver) {g : ModuleGraph} (hdistinct : g.Distinct) :
    let once := r.build g
    let twice := once.2.build g
    twice.1.pages = once.1.pages ∧
      twice.1.diagnostics.errors = once.1.diagnostics.errors ∧
      twice.1.diagnostics.warnings.Sublist once.1.diagnostics.warnings := by
  let job := g.job r.settings
  let start := (discover g { cache := r.cache }).2
  let built := g.pages.foldl (addAsset job) (.empty, start)
  have hstart : start.Knows job (job.tocsFrom r.cache) :=
    discover_knows (Session.knows_start job r.cache)
  have hbuilt := (addAssets_adds (.empty, start) hstart g.pages).1
  have habreast : Abreast job (job.tocsFrom r.cache) (.empty, start)
      (.empty, start.withCache built.2.cache) :=
    ⟨hstart, hstart.withCache hbuilt, ⟨rfl, rfl, fun _ _ => rfl⟩, rfl, .refl _⟩
  have hend := habreast.addAll (hdistinct.nodup_keys r.settings) fun _ _ _ => rfl
  -- the second build starts where the first one did, with the cache that the first one left
  have hagain : (discover g { cache := built.2.cache }).2 = start.withCache built.2.cache :=
    congrArg Prod.snd (discover_withCache g { cache := r.cache } built.2.cache)
  dsimp only
  rw [build_eq r g]
  dsimp only
  rw [build_eq, hagain]
  exact ⟨hend.pages, hend.alike.errors, hend.warnings⟩

/-- A page and its table of contents were built, and the table of contents was edited since, which
the resolver was not told. -/
theorem build_again_stale :
    let stale := ((Resolver.mk {} {}).build sampleGraph.toGraph).2
    let g := (sampleEdit.apply sampleGraph).toGraph
    let once := stale.build g
    let twice := once.2.build g
    g.Distinct ∧ twice.1.pages = once.1.pages ∧
      twice.1.diagnostics.errors = once.1.diagnostics.errors ∧
      twice.1.diagnostics.warnings.Sublist once.1.diagnostics.warnings := by
  have hproper : (sampleEdit.apply sampleGraph).Proper := by
    apply Edit.proper_apply_module _ (proper_samplePage _ _ _ _ _)
    apply Edit.proper_apply_module _ (proper_samplePage _ _ _ _ _)
    exact Edit.proper_apply_module (proper_empty _) (proper_samplePage _ _ _ _ _)
  exact ⟨hproper.toGraph.distinct, build_again _ hproper.toGraph.distinct⟩

end Resolver
end Bindery
