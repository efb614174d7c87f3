import Bindery.Proofs.Resolver.Edits
import Bindery.Proofs.Resolver.Rendering
import Mathlib.Data.List.Dedup

/-!
# What a build reports

The errors of a build as a function of the graph and of the pages that are rendered in it. A page
that comes from the cache is not rendered, so a build reports nothing for it. In the course of a
build the errors are accounted for one by one: a module that does not load is reported once, however
many pages need it, and a table of contents is rendered once; everything else is reported by the
page that it happens to (`Session.Ledger`). A page is kept only if nothing was reported while it was
rendered, so a cached page has no errors of its own (`Cache.Clean`).
-/

namespace Bindery

/-- The pages in a cache have no errors of their own, and their tables of contents are there. -/
def Cache.Clean (g : ModuleGraph) (settings : BuildSettings) (c : Cache) : Prop :=
  ∀ key entry, (key, entry) ∈ c.pages → ∀ ids, ∀ page ∈ g.pages,
    (Job.mk g settings ids).keyOf page = key → (Job.mk g settings ids).IsClean page

/-! ## The account of a session -/

namespace Session

/-- The account of the errors of a session, up to order: some errors of pages and urls, one of each
module that was needed and is no page, and those of each table of contents that was asked for. -/
structure Ledger (job : Job) (others : List Diagnostic) (needed tocs : List String)
    (s : Session) : Prop where
  errors : s.diagnostics.errors.Perm (others ++ s.failed.flatMap job.graph.loadErrors
    ++ (s.tocs.map (·.1)).flatMap job.tocErrors)
  nodup_failed : s.failed.Nodup
  nodup_tocs : (s.tocs.map (·.1)).Nodup
  mem_failed : ∀ id, id ∈ s.failed ↔ job.graph.pageModule? id = none ∧ id ∈ needed
  mem_tocs : ∀ id, id ∈ s.tocs.map (·.1) ↔ id ∈ tocs
  tocs_needed : ∀ id ∈ tocs, id ∈ needed

variable {job : Job} {others : List Diagnostic} {needed tocs : List String} {s s' : Session}
variable {id : String}

lemma Ledger.start (job : Job) (c : Cache) : Ledger job [] [] [] { cache := c } := by
  constructor <;> simp

/-- Only errors, failures and tables of contents are accounted for. -/
lemma Ledger.congr (h : s.Ledger job others needed tocs)
    (herrors : s'.diagnostics.errors = s.diagnostics.errors) (hfailed : s'.failed = s.failed)
    (htocs : s'.tocs = s.tocs) : s'.Ledger job others needed tocs := by
  constructor
  · rw [herrors, hfailed, htocs]
    exact h.errors
  · rw [hfailed]
    exact h.nodup_failed
  · rw [htocs]
    exact h.nodup_tocs
  · rw [hfailed]
    exact h.mem_failed
  · rw [htocs]
    exact h.mem_tocs
  · exact h.tocs_needed

lemma Ledger.caution (h : s.Ledger job others needed tocs) (warnings : List Diagnostic) :
    (s.caution warnings).Ledger job others needed tocs := h.congr rfl rfl rfl

/-- Errors that are put down to neither a failure to load nor a table of contents. -/
lemma Ledger.report (h : s.Ledger job others needed tocs) (errors : List Diagnostic) :
    (s.report errors).Ledger job (others ++ errors) needed tocs := by
  refine ⟨?_, h.nodup_failed, h.nodup_tocs, h.mem_failed, h.mem_tocs, h.tocs_needed⟩
  rw [List.perm_iff_count]
  intro d
  have hcount := h.errors.count_eq d
  simp only [List.count_append] at hcount
  show List.count d (s.diagnostics.errors ++ errors) = _
  simp only [List.count_append]
  show _ = _ + List.count d (s.failed.flatMap _) + List.count d ((s.tocs.map _).flatMap _)
  omega

/-- A module that was asked for before, or that is a page, leaves the account as it is. -/
lemma Ledger.need (h : s.Ledger job others needed tocs)
    (hid : (job.graph.pageModule? id).isSome ∨ id ∈ needed) :
    s.Ledger job others (needed ++ [id]) tocs := by
  refine ⟨h.errors, h.nodup_failed, h.nodup_tocs, ?_, h.mem_tocs, ?_⟩
  · intro other
    rw [h.mem_failed, List.mem_append, List.mem_singleton]
    constructor
    · exact fun ⟨hnone, hmem⟩ => ⟨hnone, .inl hmem⟩
    · rintro ⟨hnone, hmem | rfl⟩
      · exact ⟨hnone, hmem⟩
      · rcases hid with hpage | hmem
        · rw [hnone] at hpage
          cases hpage
        · exact ⟨hnone, hmem⟩
  · intro other hother
    exact List.mem_append_left _ (h.tocs_needed other hother)

/-- A failure to load is reported once. -/
lemma Ledger.fail (h : s.Ledger job others needed tocs) {reason : String}
    (hreason : job.graph.obstacle? id = some reason) :
    (s.fail job.graph id reason).Ledger job others (needed ++ [id]) tocs := by
  have hnone := ModuleGraph.pageModule?_of_obstacle hreason
  rw [Session.fail]
  split
  · rename_i hfailed
    have hmem := (h.mem_failed id).1 (List.contains_iff_mem.1 hfailed)
    exact h.need (.inr hmem.2)
  · rename_i hfailed
    have hnew : id ∉ s.failed := fun hmem => hfailed (List.contains_iff_mem.2 hmem)
    constructor
    · rw [List.perm_iff_count]
      intro d
      have hcount := h.errors.count_eq d
      show List.count d (s.diagnostics.errors ++ [job.graph.report id (.unloadable id reason)])
        = List.count d (others ++ (s.failed ++ [id]).flatMap _ ++ (s.tocs.map _).flatMap _)
      rw [List.flatMap_append, List.flatMap_singleton, ModuleGraph.loadErrors_of_obstacle hreason]
      simp only [List.count_append] at hcount ⊢
      omega
    · exact List.nodup_append.2 ⟨h.nodup_failed, List.nodup_singleton id, by
        intro other hother other' hother'
        rw [List.mem_singleton.1 hother']
        rintro rfl
        exact hnew hother⟩
    · exact h.nodup_tocs
    · intro other
      show other ∈ s.failed ++ [id] ↔ _
      rw [List.mem_append, List.mem_append, h.mem_failed, List.mem_singleton]
      constructor
      · rintro (⟨hother, hmem⟩ | rfl)
        · exact ⟨hother, .inl hmem⟩
        · exact ⟨hnone, .inr rfl⟩
      · rintro ⟨hother, hmem | rfl⟩
        · exact .inl ⟨hother, hmem⟩
        · exact .inr rfl
    · exact h.mem_tocs
    · intro other hother
      exact List.mem_append_left _ (h.tocs_needed other hother)

/-- Loading a module puts it down as needed. -/
lemma Ledger.load (h : s.Ledger job others needed tocs) (id : String) :
    (s.load job.graph id).2.Ledger job others (needed ++ [id]) tocs := by
  rw [Session.load]
  split
  · rename_i hfailed
    have hmem := (h.mem_failed id).1 (List.contains_iff_mem.1 hfailed)
    exact h.need (.inr hmem.2)
  · split <;> rename_i hload
    · refine h.need (.inl ?_)
      rw [ModuleGraph.pageModule?, hload]
      rfl
    · exact h.fail (by rw [ModuleGraph.obstacle?, hload])
    · exact h.fail (by rw [ModuleGraph.obstacle?, hload])

/-- Asking for a module that is named puts it down as needed. -/
lemma Ledger.ask (h : s.Ledger job others needed tocs) (name : Option String) :
    (s.ask job.graph name).Ledger job others (needed ++ name.toList) tocs := by
  cases name with
  | none =>
    rw [Option.toList_none, List.append_nil]
    exact h
  | some id => exact h.load id

/-- A table of contents is noted, and what it has to report is. -/
lemma Ledger.note (h : s.Ledger job others needed tocs) (hnew : id ∉ tocs) (hneeded : id ∈ needed)
    {toc : Option Toc} (htocs : s'.tocs = s.tocs ++ [(id, toc)]) (hfailed : s'.failed = s.failed)
    (herrors : s'.diagnostics.errors = s.diagnostics.errors ++ job.tocErrors id) :
    s'.Ledger job others needed (tocs ++ [id]) := by
  have hids : s'.tocs.map (·.1) = s.tocs.map (·.1) ++ [id] := by
    rw [htocs, List.map_append]
    rfl
  constructor
  · rw [List.perm_iff_count]
    intro d
    have hcount := h.errors.count_eq d
    rw [hids, herrors, hfailed, List.flatMap_append, List.flatMap_singleton]
    simp only [List.count_append] at hcount ⊢
    omega
  · rw [hfailed]
    exact h.nodup_failed
  · rw [hids]
    refine List.nodup_append.2 ⟨h.nodup_tocs, List.nodup_singleton id, ?_⟩
    intro other hother other' hother'
    rw [List.mem_singleton.1 hother']
    rintro rfl
    exact hnew ((h.mem_tocs other).1 hother)
  · rw [hfailed]
    exact h.mem_failed
  · intro other
    rw [hids, List.mem_append, List.mem_append, h.mem_tocs]
  · intro other hother
    rcases List.mem_append.1 hother with hother | hother
    · exact h.tocs_needed other hother
    · rw [List.mem_singleton.1 hother]
      exact hneeded

/-- Asking for a table of contents again changes nothing. -/
lemma Ledger.again (h : s.Ledger job others needed tocs) (hmem : id ∈ tocs) :
    s.Ledger job others (needed ++ [id]) (tocs ++ [id]) := by
  have hneeded := h.need (.inr (h.tocs_needed id hmem))
  refine ⟨h.errors, h.nodup_failed, h.nodup_tocs, hneeded.mem_failed, ?_, ?_⟩
  · intro other
    rw [h.mem_tocs, List.mem_append, List.mem_singleton]
    constructor
    · exact .inl
    · rintro (hother | rfl)
      · exact hother
      · exact hmem
  · intro other hother
    rw [List.mem_append] at hother ⊢
    exact hother.imp_left (h.tocs_needed other)

end Session

/-! ## The account of a page -/

namespace Job

open Session

variable {job : Job} {others : List Diagnostic} {needed tocs : List String} {s : Session}
variable {page : Page}

/-- Resolving a table of contents reports what it has to, once. -/
lemma resolveToc_ledger (hs : s.Knows job job.tocOf) (h : s.Ledger job others needed tocs)
    (id : String) :
    (job.resolveToc s id).2.Ledger job others (needed ++ [id]) (tocs ++ [id]) := by
  have hmem_iff : (∃ toc, s.toc? id = some toc) ↔ id ∈ tocs := by
    rw [← h.mem_tocs, Session.toc?]
    constructor
    · rintro ⟨toc, htoc⟩
      exact List.mem_map.2 ⟨_, mem_of_find?_key htoc, rfl⟩
    · intro hmem
      obtain ⟨⟨other, toc⟩, hnoted, rfl⟩ := List.mem_map.1 hmem
      have hfound : (s.tocs.find? (·.1 = other)).isSome :=
        List.find?_isSome.2 ⟨_, hnoted, by simp⟩
      obtain ⟨entry, hentry⟩ := Option.isSome_iff_exists.1 hfound
      exact ⟨entry.2, by rw [hentry]; rfl⟩
  rw [resolveToc]
  split
  · rename_i toc hknown
    exact h.again (hmem_iff.1 ⟨toc, hknown⟩)
  · rename_i hunknown
    have hnew : id ∉ tocs := by
      intro hmem
      obtain ⟨toc, htoc⟩ := hmem_iff.2 hmem
      rw [hunknown] at htoc
      cases htoc
    have hlast : id ∈ needed ++ [id] := List.mem_append_right _ (List.mem_singleton_self id)
    split
    · -- a table of contents that was kept loads and has no errors
      rename_i toc hcached
      have htoc : job.tocOf id = some toc := hs.kept id toc hcached
      have hpage : (job.graph.pageModule? id).isSome := by
        rw [tocOf] at htoc
        cases hm : job.graph.pageModule? id with
        | none =>
          rw [hm] at htoc
          cases htoc
        | some m => rfl
      refine (h.need (.inl hpage)).note hnew hlast rfl rfl ?_
      rw [tocErrors_of_isSome (by rw [htoc]; rfl), List.append_nil]
      rfl
    · have hloaded := h.load id
      rw [Session.load_eq_pageModule? hs.failed]
      cases hm : job.graph.pageModule? id with
      | none =>
        have herrors : job.tocErrors id = [] := by rw [tocErrors, hm]
        refine hloaded.note hnew hlast rfl rfl ?_
        rw [herrors, List.append_nil]
        rfl
      | some m =>
        dsimp only
        cases hrender : job.renderToc id m.page with
        | error p =>
          have herrors : job.tocErrors id = [job.graph.report id p] := by
            rw [tocErrors, hm]
            dsimp only
            rw [hrender]
          refine hloaded.note hnew hlast rfl rfl ?_
          rw [herrors]
          rfl
        | ok toc =>
          have herrors : job.tocErrors id = [] := by
            rw [tocErrors, hm]
            dsimp only
            rw [hrender]
          dsimp only
          split
          · refine hloaded.note hnew hlast rfl rfl ?_
            rw [herrors, List.append_nil]
            rfl
          · refine hloaded.note hnew hlast rfl rfl ?_
            rw [herrors, List.append_nil]
            rfl

/-- Asking for the table of contents of a page reports what that has to, once. -/
lemma afterToc_ledger (hs : s.Knows job job.tocOf) (h : s.Ledger job others needed tocs)
    (page : Page) :
    (job.afterToc s page).Ledger job others (needed ++ page.toc.toList)
      (tocs ++ page.toc.toList) := by
  rw [afterToc]
  cases page.toc with
  | none =>
    rw [Option.toList_none, List.append_nil, List.append_nil]
    exact h
  | some id => exact resolveToc_ledger hs h id

/-- Rendering a page accounts for its errors, for the modules that it needs and for its table of
contents. -/
lemma sessionWith_ledger (hs : s.Knows job job.tocOf) (h : s.Ledger job others needed tocs)
    (page : Page) :
    (job.sessionWith job.tocOf s page).Ledger job (others ++ job.pageErrors page)
      (needed ++ dependenciesOf page) (tocs ++ page.toc.toList) := by
  have hbody := ((afterToc_ledger hs h page).report (job.bodyErrors page (job.contextOf page
    (attributesOf page) (page.toc.bind job.tocOf)))).caution
      (job.titleWarnings (job.pageWith job.tocOf page))
  have htemplate := (hbody.ask page.template).report (job.templateErrorsWith job.tocOf page)
  rw [List.append_assoc, List.append_assoc] at htemplate
  exact htemplate

/-! ## The account of all pages -/

/-- What a session accounts for once some pages were rendered in it. -/
def LedgerWith (job : Job) (others : List Diagnostic) (needed tocs : List String)
    (pages : List Page) (s : Session) : Prop :=
  s.Ledger job (others ++ pages.flatMap job.pageErrors) (needed ++ pages.flatMap dependenciesOf)
    (tocs ++ pages.flatMap fun page => page.toc.toList)

/-- The account of pages is taken one page after the other. -/
lemma ledgerWith_append {pages rest : List Page} :
    job.LedgerWith others needed tocs (pages ++ rest) s ↔
      job.LedgerWith (others ++ pages.flatMap job.pageErrors)
        (needed ++ pages.flatMap dependenciesOf)
        (tocs ++ pages.flatMap fun page => page.toc.toList) rest s := by
  rw [LedgerWith, LedgerWith]
  simp only [List.flatMap_append, List.append_assoc]

lemma ledgerWith_nil :
    job.LedgerWith others needed tocs [] s ↔ s.Ledger job others needed tocs := by
  rw [LedgerWith]
  simp only [List.flatMap_nil, List.append_nil]

/-- A page that is rendered is accounted for. It is kept only if it is clean, under its own key. -/
lemma asset_ledger (hkeyed : job.graph.Keyed) (hs : s.Faithful job)
    (h : s.Ledger job others needed tocs) (hclean : s.cache.Clean job.graph job.settings)
    (hpage : page ∈ job.graph.pages) :
    job.LedgerWith others needed tocs (job.rendered s.cache [page]) (job.asset s page).2 ∧
      (job.asset s page).2.cache.Clean job.graph job.settings ∧
      ∀ key, key ≠ job.keyOf page → (job.asset s page).2.cache.page? key = s.cache.page? key := by
  have hknows := hs.knows
  refine ⟨?_, ?_, fun key hne =>
    (asset_adds hknows page).2.others key fun hmem => hne (List.mem_singleton.1 hmem)⟩
  · cases hserves : job.serves s.cache page with
    | true =>
      obtain ⟨hon, entry, hentry⟩ := serves_eq_true_iff.1 hserves
      rw [asset_of_kept hon hentry, rendered_of_serves hserves]
      exact ledgerWith_nil.2 h
    | false =>
      rw [asset_of_not_serves hknows hserves, rendered_of_not_serves hserves, LedgerWith,
        List.flatMap_singleton, List.flatMap_singleton, List.flatMap_singleton]
      exact (sessionWith_ledger hknows h page).congr rfl rfl rfl
  · cases hserves : job.serves s.cache page with
    | true =>
      obtain ⟨hon, entry, hentry⟩ := serves_eq_true_iff.1 hserves
      rw [asset_of_kept hon hentry]
      exact hclean
    | false =>
      rw [asset_of_not_serves hknows hserves]
      intro key entry hmem ids other hother hkey
      rw [pages_sessionAfter, keptWith, List.mem_append] at hmem
      rcases hmem with hmem | hmem
      · exact hclean key entry hmem ids other hother hkey
      · split at hmem
        · rename_i hkeep
          cases List.mem_singleton.1 hmem
          have hsame : other = page := by
            rw [keyOf, keyOf, PageKey.mk.injEq] at hkey
            exact hkeyed other hother page hpage hkey.1 hkey.2.1
          subst hsame
          obtain ⟨htoc, herrors, -⟩ := renderPage_clean hknows (Bool.and_eq_true_iff.1 hkeep).2
          exact ⟨(pageErrors_congr hkey).trans herrors, htoc⟩
        · exact absurd hmem List.not_mem_nil

end Job

/-! ## The errors of a build -/

namespace Resolver

variable {job : Job} {others : List Diagnostic} {needed tocs : List String} {s : Session}

/-- The pages that do not come from the cache are accounted for, one after the other. -/
lemma addAssets_ledger (hkeyed : job.graph.Keyed) (found : List Page)
    (hfound : ∀ page ∈ found, page ∈ job.graph.pages) (hnodup : (found.map job.keyOf).Nodup)
    (built : Sorted Asset × Session) (hs : built.2.Faithful job)
    (h : built.2.Ledger job others needed tocs)
    (hclean : built.2.cache.Clean job.graph job.settings) :
    job.LedgerWith others needed tocs (job.rendered built.2.cache found)
        (found.foldl (addAsset job) built).2 ∧
      (found.foldl (addAsset job) built).2.cache.Clean job.graph job.settings := by
  induction found generalizing built others needed tocs with
  | nil => exact ⟨Job.ledgerWith_nil.2 h, hclean⟩
  | cons page rest ih =>
    have hpage := hfound page List.mem_cons_self
    have hrest := fun other hother => hfound other (List.mem_cons_of_mem _ hother)
    rw [List.map_cons, List.nodup_cons] at hnodup
    obtain ⟨hledger, hclean₁, hsame⟩ := Job.asset_ledger hkeyed hs h hclean hpage
    have hs₁ := (Job.asset_spec (fun _ => hkeyed) hs hpage).2
    have hunchanged : job.rendered built.2.cache rest
        = job.rendered (job.asset built.2 page).2.cache rest := by
      apply Job.rendered_congr
      intro other hother
      refine (hsame _ ?_).symm
      intro heq
      exact hnodup.1 (heq ▸ List.mem_map_of_mem hother)
    -- a warning that a page is overwritten is no error
    have hfaithful : (addAsset job built page).2.Faithful job := by
      rw [addAsset_eq]
      exact hs₁.caution _
    have hwarned : job.LedgerWith others needed tocs (job.rendered built.2.cache [page])
        (addAsset job built page).2 := by
      rw [addAsset_eq]
      exact hledger.caution _
    have hcache : (addAsset job built page).2.cache = (job.asset built.2 page).2.cache := by
      rw [addAsset_eq]
      rfl
    rw [← hcache] at hunchanged hclean₁
    rw [List.foldl_cons, Job.rendered_cons, Job.ledgerWith_append, hunchanged]
    exact ih hrest hnodup.2 _ hfaithful hwarned hclean₁

/-- A page whose url leads out of the output is reported. -/
lemma outputPage_ledger (h : s.Ledger job others needed tocs) (page : Page) :
    (outputPage job.graph s page).2.Ledger job (others ++ job.graph.urlErrors page) needed
      tocs := by
  rw [outputPage, ModuleGraph.urlErrors]
  by_cases hempty : page.url.isEmpty = true
  · rw [if_pos hempty, if_pos (by rw [hempty]; rfl), List.append_nil]
    exact h.caution _
  · rw [if_neg hempty, Bool.eq_false_iff.2 hempty, Bool.false_or]
    cases Link.normalize page.url with
    | some url =>
      rw [Option.isSome_some, if_pos rfl, List.append_nil]
      exact h
    | none => exact h.report _

/-- The pages whose urls lead out of the output are reported. -/
lemma outputPages_ledger (h : s.Ledger job others needed tocs) (found pages : List Page) :
    (outputPages job.graph (found, s) pages).2.Ledger job
      (others ++ pages.flatMap job.graph.urlErrors) needed tocs := by
  induction pages generalizing s others found with
  | nil =>
    rw [List.flatMap_nil, List.append_nil]
    exact h
  | cons page rest ih =>
    rw [List.flatMap_cons, ← List.append_assoc]
    exact ih (outputPage_ledger h page) (found ++ (outputPage job.graph s page).1.toList)

/-- What a module has to report before anything is rendered. -/
lemma outputModule_ledger (h : s.Ledger job others needed tocs) (found : List Page) (id : String) :
    (outputModule job.graph (found, s) id).2.Ledger job
      (others ++ (((job.graph.pageModule? id).map PageModule.outputs).getD []).flatMap
        job.graph.urlErrors)
      (needed ++ [id].filter job.graph.fails) tocs := by
  rw [outputModule, ModuleGraph.pageModule?]
  cases hload : job.graph.load id with
  | ok m =>
    have hfails : job.graph.fails id = false := by rw [ModuleGraph.fails, hload]
    rw [List.filter_cons_of_neg (by simp [hfails]), List.filter_nil, List.append_nil]
    cases m with
    | none =>
      rw [Option.map_none, Option.getD_none, List.flatMap_nil, List.append_nil]
      exact h
    | some m => exact outputPages_ledger h found m.outputs
  | error reason =>
    have hfails : job.graph.fails id = true := by rw [ModuleGraph.fails, hload]
    rw [List.filter_cons_of_pos (by simp [hfails]), List.filter_nil]
    simp only [Option.map_none, Option.getD_none, List.flatMap_nil, List.append_nil]
    exact h.fail (by rw [ModuleGraph.obstacle?, hload])

/-- Before anything is rendered the urls and the modules that fail to load are reported. -/
lemma discover_ledger (h : s.Ledger job others needed tocs) :
    (discover job.graph s).2.Ledger job (others ++ job.graph.allUrlErrors)
      (needed ++ job.graph.modules.filter job.graph.fails) tocs := by
  -- over any modules, since the fold goes on behind those done
  have hfold : ∀ (ids : List String) (found : List Page × Session) (others : List Diagnostic)
      (needed : List String), found.2.Ledger job others needed tocs →
      (ids.foldl (outputModule job.graph) found).2.Ledger job
        (others ++ ids.flatMap fun id =>
          (((job.graph.pageModule? id).map PageModule.outputs).getD []).flatMap job.graph.urlErrors)
        (needed ++ ids.filter job.graph.fails) tocs := by
    intro ids
    induction ids with
    | nil =>
      intro found others needed h
      rw [List.flatMap_nil, List.filter_nil, List.append_nil, List.append_nil]
      exact h
    | cons id rest ih =>
      intro found others needed h
      rw [List.flatMap_cons, ← List.singleton_append, List.filter_append, ← List.append_assoc,
        ← List.append_assoc]
      exact ih _ _ _ (outputModule_ledger h found.1 id)
  exact hfold job.graph.modules ([], s) others needed h

end Resolver

/-- The modules that have to load for some pages, and those that fail to load anyway. -/
def ModuleGraph.neededFor (g : ModuleGraph) (pages : List Page) : List String :=
  g.modules.filter g.fails ++ pages.flatMap Job.dependenciesOf

/-- What a graph has to report when some pages are rendered: urls that lead out of the output, the
modules that fail to load or are needed for a page and are none, and what goes wrong with the tables
of contents and with the pages themselves. -/
def ModuleGraph.reports (g : ModuleGraph) (settings : BuildSettings) (pages : List Page) :
    List Diagnostic :=
  g.allUrlErrors ++ pages.flatMap (g.job settings).pageErrors
    ++ ((g.neededFor pages).dedup.filter fun id => (g.pageModule? id).isNone).flatMap g.loadErrors
    ++ (pages.flatMap fun page => page.toc.toList).dedup.flatMap (g.job settings).tocErrors

namespace Resolver

/-- The pages of a graph that a build renders, and does not take from the cache. -/
def rendered (r : Resolver) (g : ModuleGraph) : List Page :=
  (g.job r.settings).rendered r.cache g.pages

/-- A build that starts from a clean and coherent cache reports what the graph has to report of the
pages that it renders, and leaves a clean cache, if no two pages share a key. -/
lemma build_reports_of_distinct {r : Resolver} {g : ModuleGraph} (hdistinct : g.Distinct)
    (hcoherent : r.cache.Coherent g r.settings) (hclean : r.cache.Clean g r.settings) :
    (r.build g).1.diagnostics.errors.Perm (g.reports r.settings (r.rendered g)) ∧
      (r.build g).2.cache.Clean g r.settings := by
  let job : Job := g.job r.settings
  have hstart : Session.Faithful job { cache := r.cache } :=
    ⟨hcoherent, fun _ _ hmem => absurd hmem List.not_mem_nil,
      fun _ hmem => absurd hmem List.not_mem_nil⟩
  have hcache := discover_cache g { cache := r.cache }
  obtain ⟨hledger, hclean'⟩ := addAssets_ledger hdistinct.keyed g.pages (fun _ h => h)
    (hdistinct.nodup_keys r.settings) (.empty, _) (discover_faithful hstart)
    (discover_ledger (Session.Ledger.start job r.cache)) (hcache.symm ▸ hclean)
  rw [show (discover job.graph { cache := r.cache }).2.cache = r.cache from hcache] at hledger
  rw [build_eq]
  refine ⟨hledger.errors.trans ?_, hclean'⟩
  refine .append (.append (.refl _) (.flatMap_right _ ?_)) (.flatMap_right _ ?_)
  · rw [List.perm_ext_iff_of_nodup hledger.nodup_failed ((List.nodup_dedup _).filter _)]
    intro id
    rw [hledger.mem_failed, List.mem_filter, List.mem_dedup, Option.isNone_iff_eq_none]
    exact and_comm
  · rw [List.perm_ext_iff_of_nodup hledger.nodup_tocs (List.nodup_dedup _)]
    intro id
    rw [hledger.mem_tocs, List.mem_dedup, List.nil_append]
    rfl

/-- The same for a proper graph. -/
lemma build_reports {r : Resolver} {g : ModuleGraph} (hproper : g.Proper)
    (hcoherent : r.cache.Coherent g r.settings) (hclean : r.cache.Clean g r.settings) :
    (r.build g).1.diagnostics.errors.Perm (g.reports r.settings (r.rendered g)) ∧
      (r.build g).2.cache.Clean g r.settings :=
  build_reports_of_distinct hproper.distinct hcoherent hclean

end Resolver
end Bindery
