import Bindery.Proofs.Resolver.Histories
import Bindery.Proofs.Resolver.Logs

/-!
# Tables of contents are rendered once

In a build a table of contents is rendered if a page that is rendered names it, its module is a page
and none is kept from before, and then only once, whether it comes out or not (`Job.Memo`). What
came out is kept if pages are; what did not is asked for again (`Resolver.toc?_build`). Over any run
of builds, invalidations and clearings this is `Resolver.tocs_rendered_once`.
-/

namespace Bindery

/-- Of renderings of tables of contents those that came out. -/
def resolvedTocs (tocs : List (String × Except Problem Toc)) : List (String × Toc) :=
  tocs.filterMap fun (id, result) => result.toOption.map (id, ·)

/-- The tables of contents that were resolved are those that did not fail. -/
lemma mem_resolvedTocs {tocs : List (String × Except Problem Toc)} {id : String} {toc : Toc} :
    (id, toc) ∈ resolvedTocs tocs ↔ (id, .ok toc) ∈ tocs := by
  rw [resolvedTocs, List.mem_filterMap]
  constructor
  · rintro ⟨⟨other, result⟩, hmem, heq⟩
    obtain ⟨found, hfound, hpair⟩ := Option.map_eq_some_iff.1 heq
    cases hpair
    cases result with
    | ok toc =>
      cases hfound
      exact hmem
    | error p => cases hfound
  · intro hmem
    exact ⟨_, hmem, rfl⟩

lemma snd_resolvedTocs (tocs : List (String × Except Problem Toc)) :
    (resolvedTocs tocs).map Prod.snd = tocs.filterMap (·.2.toOption) := by
  rw [resolvedTocs, List.map_filterMap]
  congr 1
  funext ⟨id, result⟩
  cases result <;> rfl

lemma resolvedTocs_append (tocs more : List (String × Except Problem Toc)) :
    resolvedTocs (tocs ++ more) = resolvedTocs tocs ++ resolvedTocs more := List.filterMap_append

/-- What was not attempted was not resolved. -/
lemma find?_resolvedTocs_of_not_mem {tocs : List (String × Except Problem Toc)} {id : String}
    (h : id ∉ tocs.map Prod.fst) : (resolvedTocs tocs).find? (·.1 = id) = none := by
  rw [List.find?_eq_none]
  rintro ⟨other, toc⟩ hmem heq
  have hother : other = id := of_decide_eq_true heq
  exact h (hother ▸ List.mem_map_of_mem (mem_resolvedTocs.1 hmem))

/-! ## What asking for a table of contents does -/

namespace Session

/-- The tables of contents of a session are as before. -/
structure SameTocs (s s' : Session) : Prop where
  noted : s'.tocs = s.tocs
  kept : s'.cache.tocs = s.cache.tocs
  rendered : s'.rendered = s.rendered

variable {s s' s'' : Session} {id other : String}

lemma SameTocs.refl (s : Session) : s.SameTocs s := ⟨rfl, rfl, rfl⟩

lemma SameTocs.trans (h : s.SameTocs s') (h' : s'.SameTocs s'') : s.SameTocs s'' :=
  ⟨h'.noted.trans h.noted, h'.kept.trans h.kept, h'.rendered.trans h.rendered⟩

/-- Putting down that a module fails leaves the tables of contents. -/
lemma fail_sameTocs (g : ModuleGraph) (s : Session) (id reason : String) :
    s.SameTocs (s.fail g id reason) := by
  rw [fail]
  split <;> exact ⟨rfl, rfl, rfl⟩

/-- Loading a module leaves the tables of contents. -/
lemma load_sameTocs (g : ModuleGraph) (s : Session) (id : String) :
    s.SameTocs (s.load g id).2 := by
  rw [load]
  split
  · exact .refl s
  · split
    · exact .refl s
    · exact fail_sameTocs _ _ _ _
    · exact fail_sameTocs _ _ _ _

lemma ask_sameTocs (g : ModuleGraph) (s : Session) (name : Option String) :
    s.SameTocs (s.ask g name) := by
  cases name with
  | none => exact .refl s
  | some id => exact load_sameTocs g s id

/-- Noting adds one table of contents to those that are known. -/
lemma isSome_toc?_noteToc {toc : Option Toc} :
    ((s.noteToc id toc).toc? other).isSome ↔ (s.toc? other).isSome ∨ other ∈ some id := by
  rw [toc?_noteToc, Option.isSome_or, Bool.or_eq_true, Option.mem_some_iff]
  split <;> simp [*]

end Session

namespace Job

/-- What asking for a table of contents does, where one is named: it is noted, and if it is rendered
and comes out, the hook is called and it is kept if pages are. -/
structure Asked (job : Job) (s s' : Session) (name : Option String)
    (renderings : List (String × Except Problem Toc)) : Prop where
  noted : ∀ id, (s'.toc? id).isSome ↔ (s.toc? id).isSome ∨ id ∈ name
  told : s'.rendered = s.rendered ++ (resolvedTocs renderings).map Prod.snd
  kept : s'.cache.tocs
    = s.cache.tocs ++ if job.settings.cachePages then resolvedTocs renderings else []

variable {job : Job} {known : String → Option Toc} {s s' s'' : Session} {id : String} {page : Page}
  {name : Option String} {renderings : List (String × Except Problem Toc)}

lemma Asked.congr (h : job.Asked s s' name renderings) (hsame : s'.SameTocs s'') :
    job.Asked s s'' name renderings where
  noted := fun id => by
    rw [Session.toc?, hsame.noted]
    exact h.noted id
  told := hsame.rendered.trans h.told
  kept := hsame.kept.trans h.kept

/-- Nothing is told and nothing is kept where nothing came out. -/
lemma asked_of_unresolved (hnone : resolvedTocs renderings = [])
    (hnoted : ∀ id, (s'.toc? id).isSome ↔ (s.toc? id).isSome ∨ id ∈ name)
    (htold : s'.rendered = s.rendered) (hkept : s'.cache.tocs = s.cache.tocs) :
    job.Asked s s' name renderings where
  noted := hnoted
  told := by rw [htold, hnone, List.map_nil, List.append_nil]
  kept := by rw [hkept, hnone, ite_self, List.append_nil]

/-- Resolving a table of contents notes it, and renders it if it is not known yet. -/
lemma asked_resolveToc (h : s.Knows job known) (id : String) :
    job.Asked s (job.resolveToc s id).2 (some id) (job.attempts s id) := by
  rw [resolveToc, attempts]
  cases hnoted : s.toc? id with
  | some toc =>
    refine asked_of_unresolved rfl (fun other => ⟨.inl, ?_⟩) rfl rfl
    rintro (hother | hother)
    · exact hother
    · rw [← Option.mem_some_iff.1 hother, hnoted]
      rfl
  | none =>
    cases s.cache.toc? id with
    | some toc => exact asked_of_unresolved rfl (fun _ => Session.isSome_toc?_noteToc) rfl rfl
    | none =>
      have hsame := Session.load_sameTocs job.graph s id
      have hnotes : ∀ other toc, (((s.load job.graph id).2.noteToc id toc).toc? other).isSome ↔
          (s.toc? other).isSome ∨ other ∈ some id := by
        intro other toc
        rw [Session.isSome_toc?_noteToc, Session.toc?, hsame.noted]
        rfl
      rw [Session.load_eq_pageModule? h.failed]
      cases job.graph.pageModule? id with
      | none =>
        -- noted as failed, without a rendering
        exact asked_of_unresolved rfl (fun other => hnotes other none) hsame.rendered hsame.kept
      | some m =>
        simp only [Option.isNone_none, Bool.and_self, if_true, Option.map_some, Option.toList_some]
        cases job.renderToc id m.page with
        | error p =>
          exact asked_of_unresolved rfl (fun other => hnotes other none) hsame.rendered hsame.kept
        | ok toc =>
          refine ⟨fun other => ?_, ?_, ?_⟩
          · dsimp only
            split <;> exact hnotes other (some toc)
          · rw [← hsame.rendered]
            dsimp only
            split <;> rfl
          · rw [← hsame.kept]
            dsimp only
            split
            · rfl
            · exact (List.append_nil _).symm

/-- What putting out a page that is rendered does to the tables of contents. -/
lemma asked_sessionAfter (h : s.Knows job known) (page : Page) :
    job.Asked s (job.sessionAfter known s page) page.toc (job.attemptsFor s page) := by
  have hasked : job.Asked s (job.afterToc s page) page.toc (job.attemptsFor s page) := by
    rw [afterToc, attemptsFor]
    cases page.toc with
    | none => exact asked_of_unresolved rfl (fun id => by simp) rfl rfl
    | some id => exact asked_resolveToc h id
  have hask := Session.ask_sameTocs job.graph (job.sessionBody known s page) page.template
  exact hasked.congr ⟨hask.noted, hask.kept, hask.rendered⟩

/-! ## The tables of contents in the course of a build -/

/-- A table of contents is rendered for a page that names it if it is neither noted nor kept. -/
lemma mem_attemptsFor {result : Except Problem Toc} :
    (id, result) ∈ job.attemptsFor s page ↔
      id ∈ page.toc ∧ s.toc? id = none ∧ s.cache.toc? id = none ∧
        ∃ m, job.graph.pageModule? id = some m ∧ result = job.renderToc id m.page := by
  rw [attemptsFor]
  cases page.toc with
  | none => simp
  | some other =>
    rw [Option.elim_some, attempts, Option.mem_some_iff]
    split
    · rename_i hnew
      rw [Bool.and_eq_true, Option.isNone_iff_eq_none, Option.isNone_iff_eq_none] at hnew
      rw [Option.mem_toList, Option.map_eq_some_iff]
      constructor
      · rintro ⟨m, hm, heq⟩
        cases heq
        exact ⟨rfl, hnew.1, hnew.2, m, hm, rfl⟩
      · rintro ⟨rfl, -, -, m, hm, rfl⟩
        exact ⟨m, hm, rfl⟩
    · rename_i hold
      constructor
      · intro hmem
        exact absurd hmem List.not_mem_nil
      · rintro ⟨rfl, hnew, hmissing, -⟩
        rw [hnew, hmissing] at hold
        exact absurd rfl hold

lemma mem_fst_attemptsFor :
    id ∈ (job.attemptsFor s page).map Prod.fst ↔
      id ∈ page.toc ∧ s.toc? id = none ∧ s.cache.toc? id = none ∧
        (job.graph.pageModule? id).isSome := by
  rw [List.mem_map, Option.isSome_iff_exists]
  constructor
  · rintro ⟨⟨_, result⟩, hmem, rfl⟩
    obtain ⟨hid, hnew, hmissing, m, hm, -⟩ := mem_attemptsFor.1 hmem
    exact ⟨hid, hnew, hmissing, m, hm⟩
  · rintro ⟨hid, hnew, hmissing, m, hm⟩
    exact ⟨_, mem_attemptsFor.2 ⟨hid, hnew, hmissing, m, hm, rfl⟩, rfl⟩

/-- A page has one table of contents rendered at most. -/
lemma nodup_attemptsFor (job : Job) (s : Session) (page : Page) :
    ((job.attemptsFor s page).map Prod.fst).Nodup := by
  rw [attemptsFor]
  cases page.toc with
  | none => exact List.nodup_nil
  | some id =>
    rw [Option.elim_some, attempts]
    split
    · cases job.graph.pageModule? id with
      | none => exact List.nodup_nil
      | some m => exact List.nodup_singleton id
    · exact List.nodup_nil

/-- What holds of a session and its log in the course of a build that started from a cache. -/
structure Memo (job : Job) (c : Cache) (s : Session) (log : Log) : Prop where
  once : log.tocIds.Nodup
  asked : ∀ id, id ∈ log.tocIds ↔
    (s.toc? id).isSome ∧ c.toc? id = none ∧ (job.graph.pageModule? id).isSome
  results : ∀ id result, (id, result) ∈ log.tocs →
    ∃ m, job.graph.pageModule? id = some m ∧ result = job.renderToc id m.page
  told : s.rendered = (resolvedTocs log.tocs).map Prod.snd
  kept : s.cache.tocs = c.tocs ++ if job.settings.cachePages then resolvedTocs log.tocs else []
  named : ∀ id, (s.toc? id).isSome ↔ log.Names id
  seen : ∀ page context, (page, context) ∈ log.pages →
    context = job.contextOf page (attributesOf page) (page.toc.bind (job.tocsFrom c))

end Job

/-- What is kept in front is found in front. -/
lemma Cache.toc?_of_append {c c' : Cache} {more : List (String × Toc)} {id : String}
    (h : c'.tocs = c.tocs ++ more) :
    c'.toc? id = (c.toc? id).or ((more.find? (·.1 = id)).map (·.2)) := by
  rw [Cache.toc?, Cache.toc?, h, List.find?_append, Option.map_or]

namespace Job

variable {job : Job} {c : Cache} {s s' : Session} {log : Log} {id : String} {page : Page}

lemma memo_start (h : Session.SameTocs { cache := c } s) : job.Memo c s {} where
  once := List.nodup_nil
  asked := by
    intro id
    rw [Session.toc?, h.noted]
    simp [Log.tocIds]
  results := fun _ _ hmem => absurd hmem List.not_mem_nil
  told := h.rendered
  kept := by
    rw [h.kept]
    simp [resolvedTocs]
  named := by
    intro id
    rw [Session.toc?, h.noted]
    simp [Log.Names]
  seen := fun _ _ hmem => absurd hmem List.not_mem_nil

/-- A table of contents that was not noted yet is kept only if it was in the beginning. -/
lemma Memo.toc?_cache (h : job.Memo c s log) (hnew : s.toc? id = none) :
    s.cache.toc? id = c.toc? id := by
  rw [Cache.toc?_of_append h.kept]
  split
  · have hmissing : id ∉ log.tocIds := by
      rw [h.asked, hnew]
      exact fun hasked => Bool.false_ne_true hasked.1
    rw [find?_resolvedTocs_of_not_mem hmissing]
    exact Option.or_none
  · exact Option.or_none

/-- Rendering a page keeps what holds of a session and its log. -/
lemma Memo.step (h : job.Memo c s log)
    (hasked : job.Asked s s' page.toc (job.attemptsFor s page)) :
    job.Memo c s' (job.logAfter (job.tocsFrom c) s log page) := by
  have hids : ∀ id, id ∈ (job.attemptsFor s page).map Prod.fst ↔
      id ∈ page.toc ∧ s.toc? id = none ∧ c.toc? id = none ∧
        (job.graph.pageModule? id).isSome := by
    intro id
    rw [mem_fst_attemptsFor]
    refine and_congr_right fun _ => and_congr_right fun hnew => ?_
    rw [h.toc?_cache hnew]
  refine ⟨?_, ?_, ?_, ?_, ?_, ?_, ?_⟩
  · -- what is rendered now was not noted before, and what is in the log was
    rw [tocIds_logAfter]
    refine h.once.append (nodup_attemptsFor job s page) ?_
    intro id hid hnew
    have hnoted := ((h.asked id).1 hid).1
    rw [((hids id).1 hnew).2.1] at hnoted
    exact Bool.false_ne_true hnoted
  · intro id
    rw [tocIds_logAfter, List.mem_append, hids, hasked.noted, h.asked,
      ← Option.not_isSome_iff_eq_none (o := s.toc? id)]
    tauto
  · intro id result hmem
    rcases List.mem_append.1 hmem with hmem | hmem
    · exact h.results id result hmem
    · exact (mem_attemptsFor.1 hmem).2.2.2
  · rw [hasked.told, h.told, ← List.map_append, ← resolvedTocs_append]
    rfl
  · rw [hasked.kept, h.kept, List.append_assoc]
    congr 1
    split
    · exact (resolvedTocs_append _ _).symm
    · rfl
  · intro id
    rw [hasked.noted, names_logAfter, h.named]
  · intro other context hmem
    rcases List.mem_append.1 hmem with hmem | hmem
    · exact h.seen other context hmem
    · cases List.mem_singleton.1 hmem
      rfl

lemma Memo.congr (h : job.Memo c s log) (hsame : s.SameTocs s') : job.Memo c s' log where
  once := h.once
  asked := fun id => by
    rw [Session.toc?, hsame.noted]
    exact h.asked id
  results := h.results
  told := hsame.rendered.trans h.told
  kept := hsame.kept.trans h.kept
  named := fun id => by
    rw [Session.toc?, hsame.noted]
    exact h.named id
  seen := h.seen

end Job

/-! ## Builds -/

namespace Resolver

variable {job : Job} {c : Cache} {built : Sorted Asset × Session} {log : Log} {page : Page}

/-- Putting out a page keeps what holds of a session and its log. -/
lemma memo_addAsset (hknows : built.2.Knows job (job.tocsFrom c)) (h : job.Memo c built.2 log)
    (page : Page) :
    job.Memo c (addAsset job built page).2 (job.logWith (job.tocsFrom c) built.2 log page) := by
  have hsame : (job.asset built.2 page).2.SameTocs (addAsset job built page).2 := by
    rw [addAsset_eq]
    exact ⟨rfl, rfl, rfl⟩
  refine Job.Memo.congr ?_ hsame
  rw [Job.logWith]
  cases hserves : job.serves built.2.cache page with
  | true =>
    obtain ⟨hon, entry, hentry⟩ := Job.serves_eq_true_iff.1 hserves
    rw [Job.asset_of_kept hon hentry]
    exact h
  | false =>
    rw [Job.asset_of_not_serves hknows hserves]
    exact h.step (Job.asked_sessionAfter hknows page)

/-- In the course of a build what is rendered is put down and noted. -/
lemma memo_addAssets (hknows : built.2.Knows job (job.tocsFrom c)) (h : job.Memo c built.2 log)
    (pages : List Page) :
    job.Memo c (pages.foldl (addAsset job) built).2
      (logThrough job (job.tocsFrom c) built log pages) := by
  induction pages generalizing built log with
  | nil => exact h
  | cons page rest ih => exact ih (addAsset_adds hknows page).1 (memo_addAsset hknows h page)

/-- The pages that do not come from the cache are rendered, one after the other, if the cache is off
or no two of them are kept under one key. -/
lemma pages_logThrough {known : String → Option Toc} (hknows : built.2.Knows job known)
    (log : Log) {pages : List Page}
    (hkeys : job.settings.cachePages = true → (pages.map job.keyOf).Nodup) :
    (logThrough job known built log pages).pages.map Prod.fst
      = log.pages.map Prod.fst ++ job.rendered built.2.cache pages := by
  induction pages generalizing built log with
  | nil => exact (List.append_nil _).symm
  | cons page rest ih =>
    obtain ⟨hknows', hadds⟩ := addAsset_adds hknows page
    -- what is kept of this page is under its own key, which none of the others has
    have hrest : job.rendered (addAsset job built page).2.cache rest
        = job.rendered built.2.cache rest := by
      apply List.filter_congr
      intro other hother
      rw [Job.serves, Job.serves]
      cases hon : job.settings.cachePages with
      | false => rfl
      | true =>
        have hnodup := List.nodup_cons.1 (hkeys hon)
        rw [hadds.others]
        intro hkey
        rw [List.mem_singleton] at hkey
        exact hnodup.1 (hkey ▸ List.mem_map_of_mem hother)
    rw [logThrough, ih hknows' _ fun hon => (List.nodup_cons.1 (hkeys hon)).2, hrest,
      Job.rendered_cons, ← List.append_assoc]
    congr 1
    rw [Job.logWith]
    cases hserves : job.serves built.2.cache page with
    | true =>
      rw [Job.rendered_of_serves hserves, List.append_nil]
      rfl
    | false =>
      rw [Job.rendered_of_not_serves hserves]
      exact List.map_append

variable {r : Resolver} {g : ModuleGraph} {id : String}

lemma log_eq (r : Resolver) (g : ModuleGraph) :
    r.log g = logThrough (g.job r.settings) ((g.job r.settings).tocsFrom r.cache)
      (.empty, (discover g { cache := r.cache }).2) {} g.pages :=
  congrArg Prod.snd (run_buildBy r g)

/-- What holds of a build and its log. -/
lemma memo_build (r : Resolver) (g : ModuleGraph) :
    ∃ s, (g.job r.settings).Memo r.cache s (r.log g) ∧ (r.build g).1.tocs = s.rendered ∧
      (r.build g).2.cache = s.cache := by
  let start : Sorted Asset × Session := (.empty, (discover g { cache := r.cache }).2)
  have hknows : start.2.Knows (g.job r.settings) ((g.job r.settings).tocsFrom r.cache) :=
    discover_knows (Session.knows_start (g.job r.settings) r.cache)
  have hstart : Session.SameTocs { cache := r.cache } start.2 := by
    refine (discover_keeps (motive := Session.SameTocs { cache := r.cache }) ?_ ?_ (.refl _)).2
    · intro s page h
      rw [outputPage]
      split
      · exact ⟨h.noted, h.kept, h.rendered⟩
      · split <;> exact ⟨h.noted, h.kept, h.rendered⟩
    · intro s id reason _ h
      exact h.trans (Session.fail_sameTocs g s id reason)
  have hmemo := memo_addAssets hknows (Job.memo_start hstart) g.pages
  rw [build_eq, log_eq]
  exact ⟨_, hmemo, rfl, rfl⟩

/-- No table of contents is rendered twice in a build. -/
lemma nodup_tocIds_log (r : Resolver) (g : ModuleGraph) : (r.log g).tocIds.Nodup := by
  obtain ⟨s, hmemo, -⟩ := memo_build r g
  exact hmemo.once

/-- All pages of a build see the same tables of contents. -/
lemma context_of_mem_log {context : List (String × Value)}
    (h : (page, context) ∈ (r.log g).pages) :
    context = (g.job r.settings).contextOf page (Job.attributesOf page)
      (page.toc.bind ((g.job r.settings).tocsFrom r.cache)) := by
  obtain ⟨s, hmemo, -⟩ := memo_build r g
  exact hmemo.seen page context h

/-- A build renders the pages that are not kept. -/
lemma pages_log (hkeys : r.settings.cachePages = true → g.Distinct) :
    (r.log g).pages.map Prod.fst = (g.job r.settings).rendered r.cache g.pages := by
  have hknows := discover_knows (Session.knows_start (g.job r.settings) r.cache)
  have hcache := discover_cache g { cache := r.cache }
  rw [log_eq, pages_logThrough hknows {} fun hon => (hkeys hon).nodup_keys r.settings]
  exact congrArg (fun c => (g.job r.settings).rendered c g.pages) hcache

/-- The log names the tables of contents of the pages that are rendered. -/
lemma names_log_iff (hkeys : r.settings.cachePages = true → g.Distinct) :
    (r.log g).Names id ↔ ∃ page ∈ (g.job r.settings).rendered r.cache g.pages, id ∈ page.toc := by
  rw [← pages_log hkeys, Log.Names]
  simp

/-- A table of contents is rendered in a build exactly if a page that is rendered names it, its
module is a page and none is kept. -/
lemma mem_tocIds_log :
    id ∈ (r.log g).tocIds ↔
      (r.log g).Names id ∧ r.cache.toc? id = none ∧ (g.pageModule? id).isSome := by
  obtain ⟨s, hmemo, -⟩ := memo_build r g
  rw [hmemo.asked, hmemo.named]
  rfl

/-- What came of a table of contents is what the pages of the build see. -/
lemma toOption_of_mem_log {result : Except Problem Toc} (h : (id, result) ∈ (r.log g).tocs) :
    result.toOption = (g.job r.settings).tocsFrom r.cache id := by
  obtain ⟨s, hmemo, -⟩ := memo_build r g
  obtain ⟨m, hm, rfl⟩ := hmemo.results id result h
  obtain ⟨-, hmissing, -⟩ := mem_tocIds_log.1 (List.mem_map_of_mem h)
  rw [Job.tocsFrom, hmissing, Option.none_or, Job.tocOf, hm]
  rfl

/-- The hook is called for every table of contents that came out, and for no other. -/
lemma tocs_build (r : Resolver) (g : ModuleGraph) :
    (r.build g).1.tocs = (r.log g).tocs.filterMap (·.2.toOption) := by
  obtain ⟨s, hmemo, htocs, -⟩ := memo_build r g
  rw [htocs, hmemo.told, snd_resolvedTocs]

/-- A build keeps the tables of contents that it resolved, if it keeps any. -/
lemma cache_tocs_build (r : Resolver) (g : ModuleGraph) :
    (r.build g).2.cache.tocs
      = r.cache.tocs ++ if r.settings.cachePages then resolvedTocs (r.log g).tocs else [] := by
  obtain ⟨s, hmemo, -, hcache⟩ := memo_build r g
  rw [hcache, hmemo.kept]
  rfl

lemma tocsFrom_of_find? {toc : Toc}
    (h : ((resolvedTocs (r.log g).tocs).find? (·.1 = id)).map (·.2) = some toc) :
    (g.job r.settings).tocsFrom r.cache id = some toc :=
  (toOption_of_mem_log (mem_resolvedTocs.1 (mem_of_find?_key h))).symm

/-- A table of contents that was asked for and not kept from before is rendered, so what came of it
is in the log. -/
lemma find?_resolvedTocs_log (h : (r.log g).Names id) (hmissing : r.cache.toc? id = none) :
    ((resolvedTocs (r.log g).tocs).find? (·.1 = id)).map (·.2)
      = (g.job r.settings).tocsFrom r.cache id := by
  cases hfound : ((resolvedTocs (r.log g).tocs).find? (·.1 = id)).map (·.2) with
  | some toc => exact (tocsFrom_of_find? hfound).symm
  | none =>
    cases hknown : (g.job r.settings).tocsFrom r.cache id with
    | none => rfl
    | some toc =>
      have htoc : (g.job r.settings).tocOf id = some toc := by
        rwa [Job.tocsFrom, hmissing, Option.none_or] at hknown
      obtain ⟨m, hm, -⟩ := Option.bind_eq_some_iff.1 htoc
      have hid : id ∈ (r.log g).tocIds :=
        mem_tocIds_log.2 ⟨h, hmissing, Option.isSome_iff_exists.2 ⟨m, hm⟩⟩
      obtain ⟨⟨_, result⟩, hmem, rfl⟩ := List.mem_map.1 hid
      have hresult := (toOption_of_mem_log hmem).trans hknown
      cases result with
      | error p => cases hresult
      | ok other =>
        have hfind := List.find?_eq_none.1 (Option.map_eq_none_iff.1 hfound) _
          (mem_resolvedTocs.2 hmem)
        exact absurd (decide_eq_true rfl) hfind

/-- After a build that asked for a table of contents it is kept, if pages are and it came out. -/
lemma toc?_build_of_names (hon : r.settings.cachePages = true) (h : (r.log g).Names id) :
    (r.build g).2.cache.toc? id = (g.job r.settings).tocsFrom r.cache id := by
  rw [Cache.toc?_of_append (cache_tocs_build r g), if_pos hon]
  cases hmissing : r.cache.toc? id with
  | some toc =>
    rw [Job.tocsFrom, hmissing]
    rfl
  | none =>
    rw [Option.none_or]
    exact find?_resolvedTocs_log h hmissing

/-- A table of contents that failed is not kept. -/
lemma toc?_build_eq_none (h : (g.job r.settings).tocsFrom r.cache id = none) :
    (r.build g).2.cache.toc? id = none := by
  rw [Cache.toc?_of_append (cache_tocs_build r g), (Option.or_eq_none_iff.1 h).1, Option.none_or]
  split
  · cases hfound : ((resolvedTocs (r.log g).tocs).find? (·.1 = id)).map (·.2) with
    | none => rfl
    | some toc =>
      rw [tocsFrom_of_find? hfound] at h
      cases h
  · rfl

/-- A build keeps no table of contents that it does not ask for. -/
lemma toc?_build_of_not_names (h : ¬ (r.log g).Names id) :
    (r.build g).2.cache.toc? id = r.cache.toc? id := by
  rw [Cache.toc?_of_append (cache_tocs_build r g)]
  split
  · rw [find?_resolvedTocs_of_not_mem fun hid => h (mem_tocIds_log.1 hid).1]
    exact Option.or_none
  · exact Option.or_none

end Resolver
end Bindery
