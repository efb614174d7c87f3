import Bindery.Proofs.Resolver.Sessions

/-!
# Rendering in the course of a build

With the tables of contents that a session knows, be they kept from builds before or not, a page is
rendered in one way (`Job.renderPage_eq`). It may be kept only if nothing was reported while it was
rendered, and then it leaves no trace in the session that another page could see
(`Job.renderPage_clean`).
-/

namespace Bindery

/-! ## Rendering with what is known -/

namespace Job

variable {job : Job} {known : String → Option Toc} {s t : Session} {id : String} {page : Page}

/-- A body is rendered to its text, and reports what goes wrong. -/
lemma renderBody_eq (job : Job) (s : Session) (page : Page) (context : List (String × Value)) :
    job.renderBody s page context
      = (job.bodyOf page context, s.report (job.bodyErrors page context)) := by
  rw [renderBody, bodyOf, bodyErrors]
  cases page.render (job.scope context page.module) with
  | ok html => exact Prod.ext rfl s.report_nil.symm
  | error reason => rfl

/-- A template frames the page if it can, and reports what goes wrong. -/
lemma applyTemplate_eq (h : s.Knows job known) (page : Page) (context : List (String × Value))
    (t : Titled) :
    job.applyTemplate s page context t
      = ((job.wrapped? page context t).getD t.html,
        (s.ask job.graph page.template).report (job.templateErrors page context t)) := by
  rw [applyTemplate, wrapped?, templateErrors]
  cases page.template with
  | none => exact Prod.ext rfl s.report_nil.symm
  | some id =>
    rw [Option.toList_some, List.flatMap_singleton]
    dsimp only [Option.bind_some, Session.ask, Option.elim_some]
    rw [Session.load_eq_pageModule? h.failed]
    cases job.graph.pageModule? id with
    | none => exact Prod.ext rfl (Session.report_nil _).symm
    | some m =>
      dsimp only [Option.bind_some]
      rw [← templateContext, Option.toList_some, List.flatMap_singleton]
      cases m.page.render (job.scope (templateContext context t) id) with
      | ok html => exact Prod.ext rfl (Session.report_nil _).symm
      | error reason => rfl

/-! ## Tables of contents -/

/-- A table of contents that there is adds nothing that is reported. -/
lemma resolveToc_of_some (h : s.Knows job known) {toc : Toc} (hid : known id = some toc) :
    (job.resolveToc s id).1 = some toc ∧ (job.resolveToc s id).2.Knows job known ∧
      s.Alike known (job.resolveToc s id).2 := by
  have hsome : (known id).isSome := by rw [hid]; rfl
  rw [resolveToc]
  split
  · rename_i found hnoted
    exact ⟨(h.noted id found hnoted).trans hid, h, .refl s⟩
  · split
    · rename_i found hkept
      have hfound : some found = known id := (h.kept id found hkept).symm
      exact ⟨hfound.trans hid, h.noteToc hfound, Session.alike_noteToc hsome⟩
    · rename_i hmissing
      have htoc : job.tocOf id = some toc := (h.rest id hmissing).symm.trans hid
      rw [tocOf, Option.bind_eq_some_iff] at htoc
      obtain ⟨m, hm, hrender⟩ := htoc
      have hload : s.load job.graph id = (some m, s) := by
        rw [Session.load_eq h.failed, hm,
          ModuleGraph.obstacle?_eq_none_iff.2 (by rw [hm]; rfl)]
      rw [hload]
      dsimp only
      cases hresult : job.renderToc id m.page with
      | error p =>
        rw [hresult] at hrender
        cases hrender
      | ok found =>
        rw [hresult] at hrender
        have hfound : some found = known id := hrender.trans hid.symm
        have hnoted : (s.noteToc id (some found)).Knows job known := h.noteToc hfound
        have halike : s.Alike known (s.noteToc id (some found)) := Session.alike_noteToc hsome
        refine ⟨hrender, ?_, ?_⟩
        · dsimp only
          split
          · refine ⟨hnoted.noted, ?_, ?_, hnoted.failed⟩
            · intro other kept hkept
              rw [Cache.toc?, List.find?_append, Option.map_or, Option.or_eq_some_iff] at hkept
              rcases hkept with hkept | ⟨-, hnew⟩
              · exact h.kept other kept hkept
              · cases List.mem_singleton.1 (mem_of_find?_key hnew)
                exact hfound.symm
            · intro other hother
              rw [Cache.toc?, List.find?_append, Option.map_or, Option.or_eq_none_iff] at hother
              exact h.rest other hother.1
          · exact hnoted.congr rfl rfl rfl
        · dsimp only
          split <;> exact ⟨halike.errors, halike.failed, halike.lost⟩

/-- A table of contents that fails is reported when it is asked for first. -/
lemma resolveToc_of_none (h : s.Knows job known) (hid : known id = none) :
    job.resolveToc s id = (none,
      if (s.toc? id).isSome then s
      else ((s.load job.graph id).2.noteToc id none).report (job.tocErrors id)) := by
  rw [resolveToc]
  split
  · rename_i found hnoted
    rw [h.noted id found hnoted, hid, hnoted]
    rfl
  · rename_i hnew
    have hmissing : s.cache.toc? id = none := by
      cases hkept : s.cache.toc? id with
      | none => rfl
      | some toc =>
        rw [h.kept id toc hkept] at hid
        cases hid
    rw [hmissing, hnew, tocErrors]
    have htoc : job.tocOf id = none := (h.rest id hmissing).symm.trans hid
    rw [Session.load_eq_pageModule? h.failed]
    rw [tocOf] at htoc
    cases hm : job.graph.pageModule? id with
    | none => exact Prod.ext rfl (Session.report_nil _).symm
    | some m =>
      rw [hm, Option.bind_some] at htoc
      dsimp only
      cases hrender : job.renderToc id m.page with
      | ok toc =>
        rw [hrender] at htoc
        cases htoc
      | error p => rfl

/-- Resolving a table of contents gives the one that is known. -/
lemma resolveToc_knows (h : s.Knows job known) (id : String) :
    (job.resolveToc s id).1 = known id ∧ (job.resolveToc s id).2.Knows job known := by
  cases hid : known id with
  | some toc =>
    obtain ⟨htoc, hknows, -⟩ := resolveToc_of_some h hid
    exact ⟨htoc, hknows⟩
  | none =>
    rw [resolveToc_of_none h hid]
    refine ⟨rfl, ?_⟩
    dsimp only
    split
    · exact h
    · exact ((h.load id).noteToc hid.symm).report _

/-- Resolving a table of contents keeps sessions alike. -/
lemma resolveToc_alike (hs : s.Knows job known) (ht : t.Knows job known) (h : s.Alike known t)
    (id : String) : (job.resolveToc s id).2.Alike known (job.resolveToc t id).2 := by
  cases hid : known id with
  | some toc =>
    obtain ⟨-, -, hs'⟩ := resolveToc_of_some hs hid
    obtain ⟨-, -, ht'⟩ := resolveToc_of_some ht hid
    exact hs'.symm.trans (h.trans ht')
  | none =>
    rw [resolveToc_of_none hs hid, resolveToc_of_none ht hid, h.lost id hid]
    dsimp only
    split
    · exact h
    · exact ((h.load hs ht id).noteToc id none).report _

/-- Resolving a table of contents leaves the warnings and the pages that are kept. -/
lemma resolveToc_leaves (job : Job) (s : Session) (id : String) :
    s.Leaves (job.resolveToc s id).2 := by
  rw [resolveToc]
  split
  · exact .refl s
  · split
    · exact ⟨rfl, rfl⟩
    · have hload := Session.load_leaves job.graph s id
      split
      · rename_i heq
        rw [heq] at hload
        exact ⟨hload.pages, hload.warnings⟩
      · rename_i heq
        rw [heq] at hload
        split
        · dsimp only
          split <;> exact ⟨hload.pages, hload.warnings⟩
        · exact ⟨hload.pages, hload.warnings⟩

/-- The session once the table of contents of a page is there. -/
def afterToc (job : Job) (s : Session) (page : Page) : Session :=
  match page.toc with
  | some id => (job.resolveToc s id).2
  | none => s

/-- Asking for the table of contents of a page leaves the warnings and the pages. -/
lemma afterToc_leaves (job : Job) (s : Session) (page : Page) :
    s.Leaves (job.afterToc s page) := by
  rw [afterToc]
  cases page.toc with
  | none => exact .refl s
  | some id => exact resolveToc_leaves job s id

/-- Asking for the table of contents of a page adds what is known. -/
lemma afterToc_knows (h : s.Knows job known) (page : Page) :
    (job.afterToc s page).Knows job known := by
  rw [afterToc]
  cases page.toc with
  | none => exact h
  | some id => exact (resolveToc_knows h id).2

lemma afterToc_alike (hs : s.Knows job known) (ht : t.Knows job known) (h : s.Alike known t)
    (page : Page) : (job.afterToc s page).Alike known (job.afterToc t page) := by
  rw [afterToc, afterToc]
  cases page.toc with
  | none => exact h
  | some id => exact resolveToc_alike hs ht h id

lemma alike_afterToc (h : s.Knows job known) (htoc : ∀ id ∈ page.toc, (known id).isSome) :
    s.Alike known (job.afterToc s page) := by
  rw [afterToc]
  cases hnamed : page.toc with
  | none => exact .refl s
  | some id =>
    obtain ⟨toc, hid⟩ := Option.isSome_iff_exists.1 (htoc id hnamed)
    exact (resolveToc_of_some h hid).2.2

/-! ## Pages -/

/-- The rendering of a page, given the tables of contents. -/
def pageWith (job : Job) (known : String → Option Toc) (page : Page) : RenderedPage :=
  let attributes := attributesOf page
  let context := job.contextOf page attributes (page.toc.bind known)
  let t := job.titled page attributes (job.bodyOf page context)
  { module := page.module, url := page.url, filename := page.filename
    html := (job.wrapped? page context t).getD t.html
    title := t.title.map (·.1), titleHtml := t.title.map (·.2)
    document := t.document, attributes }

/-- The warning of a page that has no title. -/
def titleWarnings (job : Job) (page : RenderedPage) : List Diagnostic :=
  if page.title.isSome then [] else [job.graph.report page.module .untitled]

/-- The session once the body of a page was rendered, given the tables of contents. -/
def sessionBody (job : Job) (known : String → Option Toc) (s : Session) (page : Page) : Session :=
  let context := job.contextOf page (attributesOf page) (page.toc.bind known)
  ((job.afterToc s page).report (job.bodyErrors page context)).caution
    (job.titleWarnings (job.pageWith known page))

/-- The errors of the template of a page, given the tables of contents. -/
def templateErrorsWith (job : Job) (known : String → Option Toc) (page : Page) :
    List Diagnostic :=
  let context := job.contextOf page (attributesOf page) (page.toc.bind known)
  job.templateErrors page context
    (job.titled page (attributesOf page) (job.bodyOf page context))

/-- The session once a page was rendered, given the tables of contents. -/
def sessionWith (job : Job) (known : String → Option Toc) (s : Session) (page : Page) : Session :=
  ((job.sessionBody known s page).ask job.graph page.template).report
    (job.templateErrorsWith known page)

lemma sessionBody_knows (h : s.Knows job known) (page : Page) :
    (job.sessionBody known s page).Knows job known :=
  ((afterToc_knows h page).report _).caution _

lemma sessionWith_knows (h : s.Knows job known) (page : Page) :
    (job.sessionWith known s page).Knows job known :=
  ((sessionBody_knows h page).ask _).report _

/-- Rendering a page keeps sessions alike. -/
lemma sessionWith_alike (hs : s.Knows job known) (ht : t.Knows job known) (h : s.Alike known t)
    (page : Page) :
    (job.sessionWith known s page).Alike known (job.sessionWith known t page) := by
  have hbody : (job.sessionBody known s page).Alike known (job.sessionBody known t page) :=
    ((afterToc_alike hs ht h page).report _).caution _ _
  exact (hbody.ask (sessionBody_knows hs page) (sessionBody_knows ht page) _).report _

/-- Rendering a page warns of it if it has no title, and keeps nothing. -/
lemma sessionWith_leaves (job : Job) (known : String → Option Toc) (s : Session) (page : Page) :
    (job.sessionWith known s page).cache.pages = s.cache.pages ∧
      (job.sessionWith known s page).diagnostics.warnings
        = s.diagnostics.warnings ++ job.titleWarnings (job.pageWith known page) := by
  have htoc := afterToc_leaves job s page
  have hask := Session.ask_leaves job.graph (job.sessionBody known s page) page.template
  refine ⟨hask.pages.trans htoc.pages, hask.warnings.trans ?_⟩
  show (job.afterToc s page).diagnostics.warnings ++ _ = _
  rw [htoc.warnings]

/-- A page without a title is warned of. -/
lemma caution_title (s : Session) (page : Page) :
    (if (job.titled page (attributesOf page) (job.bodyOf page (job.contextOf page
        (attributesOf page) (page.toc.bind known)))).title.isSome then s
      else s.warn job.graph page.module .untitled)
      = s.caution (job.titleWarnings (job.pageWith known page)) := by
  have htitle : (job.pageWith known page).title.isSome
      = (job.titled page (attributesOf page) (job.bodyOf page (job.contextOf page
          (attributesOf page) (page.toc.bind known)))).title.isSome := Option.isSome_map
  rw [titleWarnings, htitle]
  split
  · exact s.caution_nil.symm
  · rfl

/-- With the tables of contents that the session knows, a page is rendered in one way. It may be
kept if no error was added and the table of contents that it names is there. -/
lemma renderPage_eq (h : s.Knows job known) (page : Page) :
    job.renderPage s page = (job.pageWith known page,
      (job.sessionWith known s page).diagnostics.errors.length = s.diagnostics.errors.length
        && (page.toc.isNone || (page.toc.bind known).isSome),
      job.sessionWith known s page) := by
  have hbody := sessionBody_knows h page
  rw [renderPage]
  split
  rename_i toc s₁ hfound
  have hfound : page.toc.bind known = toc ∧ job.afterToc s page = s₁ := by
    rw [afterToc]
    split at hfound
    · rename_i id hnamed
      rw [hnamed]
      have htoc := (resolveToc_knows h id).1
      rw [hfound] at htoc
      exact ⟨htoc.symm, congrArg Prod.snd hfound⟩
    · rename_i hnamed
      rw [hnamed]
      cases hfound
      exact ⟨rfl, rfl⟩
  obtain ⟨rfl, rfl⟩ := hfound
  dsimp only
  rw [renderBody_eq]
  dsimp only
  rw [caution_title, ← sessionBody, applyTemplate_eq hbody]
  rfl

/-- What is reported of a page alone, given the tables of contents. -/
def errorsWith (job : Job) (known : String → Option Toc) (page : Page) : List Diagnostic :=
  let context := job.contextOf page (attributesOf page) (page.toc.bind known)
  let t := job.titled page (attributesOf page) (job.bodyOf page context)
  job.bodyErrors page context ++ job.templateErrors page context t

/-- A page that may be kept has its table of contents and no errors. Whatever is rendered after it
reports the same as if it had not been rendered. -/
lemma renderPage_clean (h : s.Knows job known) (hclean : (job.renderPage s page).2.1 = true) :
    (∀ id ∈ page.toc, (known id).isSome) ∧ job.errorsWith known page = [] ∧
      s.Alike known (job.sessionWith known s page) := by
  rw [renderPage_eq h, Bool.and_eq_true, decide_eq_true_eq] at hclean
  obtain ⟨hlength, hthere⟩ := hclean
  have htoc : ∀ id ∈ page.toc, (known id).isSome := by
    intro id hid
    rw [Option.mem_def] at hid
    rw [hid] at hthere
    exact hthere
  let context := job.contextOf page (attributesOf page) (page.toc.bind known)
  have halike := alike_afterToc h htoc
  have herrors : (job.sessionBody known s page).diagnostics.errors
      = s.diagnostics.errors ++ job.bodyErrors page context := congrArg (· ++ _) halike.errors
  have hask := Session.length_errors_ask job.graph (job.sessionBody known s page) page.template
  have hgrown : (job.sessionBody known s page).diagnostics.errors.length
      = s.diagnostics.errors.length + (job.bodyErrors page context).length := by
    rw [herrors, List.length_append]
  -- as many errors as before: no part of the rendering added any
  rw [sessionWith, Session.length_errors_report] at hlength
  have hbody : job.bodyErrors page context = [] := List.length_eq_zero_iff.1 (by omega)
  have htemplate : job.templateErrorsWith known page = [] :=
    List.length_eq_zero_iff.1 (by omega)
  have hasked : (job.sessionBody known s page).ask job.graph page.template
      = job.sessionBody known s page := Session.ask_eq_self (sessionBody_knows h page) (by omega)
  refine ⟨htoc, ?_, ?_⟩
  · exact List.append_eq_nil_iff.2 ⟨hbody, htemplate⟩
  · rw [sessionWith, hasked, htemplate, Session.report_nil]
    exact ⟨by rw [herrors, hbody, List.append_nil], halike.failed, halike.lost⟩

/-- A page without errors may be kept, if its table of contents is there and its template loads. -/
lemma renderPage_of_clean (h : s.Knows job known) (htoc : ∀ id ∈ page.toc, (known id).isSome)
    (herrors : job.errorsWith known page = [])
    (hloads : ∀ id ∈ page.template, (job.graph.pageModule? id).isSome) :
    (job.renderPage s page).2.1 = true := by
  obtain ⟨hbody, htemplate⟩ := List.append_eq_nil_iff.1 herrors
  have hthere : (page.toc.isNone || (page.toc.bind known).isSome) = true := by
    cases hnamed : page.toc with
    | none => rfl
    | some id => exact htoc id hnamed
  have hsame : (job.sessionWith known s page).diagnostics.errors = s.diagnostics.errors := by
    rw [sessionWith, templateErrorsWith, htemplate, Session.report_nil,
      Session.ask_of_loads (sessionBody_knows h page) hloads, sessionBody, hbody,
      Session.report_nil]
    exact (alike_afterToc h htoc).errors
  rw [renderPage_eq h, hsame, hthere]
  simp

/-! ## Assets -/

/-- Whether a page comes from a cache. -/
def serves (job : Job) (c : Cache) (page : Page) : Bool :=
  job.settings.cachePages && (c.page? (job.keyOf page)).isSome

/-- The pages that do not come from a cache. -/
def rendered (job : Job) (c : Cache) (pages : List Page) : List Page :=
  pages.filter fun page => !job.serves c page

/-- Pages are rendered one after the other. -/
lemma rendered_cons (c : Cache) (page : Page) (rest : List Page) :
    job.rendered c (page :: rest) = job.rendered c [page] ++ job.rendered c rest := by
  rw [rendered, rendered, rendered, ← List.filter_append]
  rfl

/-- Which pages are rendered depends on what is kept under their keys. -/
lemma rendered_congr {c c' : Cache} {pages : List Page}
    (h : ∀ page ∈ pages, c.page? (job.keyOf page) = c'.page? (job.keyOf page)) :
    job.rendered c pages = job.rendered c' pages := by
  apply List.filter_congr
  intro page hpage
  rw [serves, serves, h page hpage]

/-- A page is served if pages are kept and there is one under its key. -/
lemma serves_eq_true_iff {c : Cache} :
    job.serves c page = true ↔
      job.settings.cachePages = true ∧ ∃ entry, c.page? (job.keyOf page) = some entry := by
  rw [serves, Bool.and_eq_true, Option.isSome_iff_exists]

/-- A page that is served is not rendered. -/
lemma rendered_of_serves {c : Cache} (h : job.serves c page = true) :
    job.rendered c [page] = [] := by
  rw [rendered, List.filter_cons_of_neg (by simp [h]), List.filter_nil]

/-- A page that is not served is rendered. -/
lemma rendered_of_not_serves {c : Cache} (h : job.serves c page = false) :
    job.rendered c [page] = [page] := by
  rw [rendered, List.filter_cons_of_pos (by simp [h]), List.filter_nil]

/-- A page that is kept is served as it is. -/
lemma asset_of_kept {entry : CachedPage} (hon : job.settings.cachePages = true)
    (hentry : s.cache.page? (job.keyOf page) = some entry) :
    job.asset s page = (entry.asset, s) := by
  rw [keyOf] at hentry
  rw [asset]
  dsimp only
  rw [if_pos hon, hentry]

/-- The asset of a page that is rendered. -/
def assetWith (job : Job) (known : String → Option Toc) (s : Session) (page : Page) : Asset :=
  ⟨job.pageWith known page, (job.sessionWith known s page).cache.renderings⟩

/-- What is kept of a page that is rendered. -/
def keptWith (job : Job) (known : String → Option Toc) (s : Session) (page : Page) :
    List (PageKey × CachedPage) :=
  if (job.settings.cachePages && (job.renderPage s page).2.1) = true then
    [(job.keyOf page, ⟨job.assetWith known s page, dependenciesOf page⟩)]
  else []

/-- The session once a page that is rendered was put out. -/
def sessionAfter (job : Job) (known : String → Option Toc) (s : Session) (page : Page) : Session :=
  let c := (job.sessionWith known s page).cache
  (job.sessionWith known s page).withCache
    { c with pages := c.pages ++ job.keptWith known s page, renderings := c.renderings + 1 }

/-- A page that does not come from the cache is rendered. -/
lemma asset_of_not_serves (h : s.Knows job known) (hnot : job.serves s.cache page = false) :
    job.asset s page = (job.assetWith known s page, job.sessionAfter known s page) := by
  have hmissing :
      (if job.settings.cachePages then s.cache.page? (job.keyOf page) else none) = none := by
    rw [serves, Bool.and_eq_false_iff] at hnot
    split
    · rename_i hon
      rw [hon] at hnot
      simpa using hnot
    · rfl
  rw [keyOf] at hmissing
  rw [asset, sessionAfter, keptWith]
  dsimp only
  rw [hmissing, renderPage_eq h]
  dsimp only
  split
  · rfl
  · rw [List.append_nil]
    rfl

lemma sessionAfter_knows (h : s.Knows job known) (page : Page) :
    (job.sessionAfter known s page).Knows job known :=
  (sessionWith_knows h page).congr rfl rfl rfl

lemma alike_sessionAfter (job : Job) (known : String → Option Toc) (s : Session) (page : Page) :
    (job.sessionWith known s page).Alike known (job.sessionAfter known s page) :=
  ⟨rfl, rfl, fun _ _ => rfl⟩

lemma warnings_sessionAfter (job : Job) (known : String → Option Toc) (s : Session) (page : Page) :
    (job.sessionAfter known s page).diagnostics.warnings
      = s.diagnostics.warnings ++ job.titleWarnings (job.pageWith known page) :=
  (sessionWith_leaves job known s page).2

/-- A page that was rendered without an error is kept. -/
lemma pages_sessionAfter (job : Job) (known : String → Option Toc) (s : Session) (page : Page) :
    (job.sessionAfter known s page).cache.pages
      = s.cache.pages ++ job.keptWith known s page :=
  congrArg (· ++ _) (sessionWith_leaves job known s page).1

/-- A page that is rendered is kept under its own key, if at all. -/
lemma page?_sessionAfter (job : Job) (known : String → Option Toc) (s : Session) (page : Page)
    (key : PageKey) :
    (job.sessionAfter known s page).cache.page? key = (s.cache.page? key).or
      (if (job.settings.cachePages && (job.renderPage s page).2.1) = true ∧ job.keyOf page = key then
        some ⟨job.assetWith known s page, dependenciesOf page⟩
      else none) := by
  rw [Cache.page?, Cache.page?, pages_sessionAfter, List.find?_append, Option.map_or, keptWith]
  congr 1
  split
  · rename_i hkeep
    by_cases hkey : job.keyOf page = key <;> simp [hkeep, hkey]
  · rename_i hdrop
    rw [if_neg fun h => hdrop h.1]
    rfl

/-- A page that is put out is kept under its own key, if at all. -/
lemma asset_adds (h : s.Knows job known) (page : Page) :
    (job.asset s page).2.Knows job known ∧
      s.cache.Adds [job.keyOf page] (job.asset s page).2.cache := by
  cases hserves : job.serves s.cache page with
  | true =>
    obtain ⟨hon, entry, hentry⟩ := serves_eq_true_iff.1 hserves
    rw [asset_of_kept hon hentry]
    exact ⟨h, .refl _ _⟩
  | false =>
    rw [asset_of_not_serves h hserves]
    refine ⟨sessionAfter_knows h page, ?_, ?_⟩
    · intro key entry hentry
      rw [page?_sessionAfter, hentry]
      rfl
    · intro key hkey
      rw [page?_sessionAfter, if_neg fun hkeep => hkey (List.mem_singleton.2 hkeep.2.symm),
        Option.or_none]

end Job

/-! ## Builds -/

namespace Resolver

variable {job : Job} {known : String → Option Toc} {built : Sorted Asset × Session}

/-- The warning of a page that overwrites one of the assets before. -/
def overwriteWarnings (job : Job) (assets : Sorted Asset) (page : Page) : List Diagnostic :=
  if assets.contains page.url then [job.graph.report page.module (.overwrites page.url)] else []

/-- A page is put out at its url, with a warning if there was one before. -/
lemma addAsset_eq (job : Job) (built : Sorted Asset × Session) (page : Page) :
    addAsset job built page = (built.1.insert page.url (job.asset built.2 page).1,
      (job.asset built.2 page).2.caution (overwriteWarnings job built.1 page)) := by
  rw [addAsset, overwriteWarnings]
  dsimp only
  split
  · rfl
  · rw [Session.caution_nil]

/-- Adding a page keeps what is known, and keeps nothing but that page. -/
lemma addAsset_adds (h : built.2.Knows job known) (page : Page) :
    (addAsset job built page).2.Knows job known ∧
      built.2.cache.Adds [job.keyOf page] (addAsset job built page).2.cache := by
  obtain ⟨hknows, hadds⟩ := Job.asset_adds h page
  rw [addAsset_eq]
  exact ⟨hknows.caution _, hadds.stays, hadds.others⟩

/-- Pages that are put out are kept under their own keys, if at all. -/
lemma addAssets_adds (built : Sorted Asset × Session) (h : built.2.Knows job known)
    (pages : List Page) :
    (pages.foldl (addAsset job) built).2.Knows job known ∧
      built.2.cache.Adds (pages.map job.keyOf) (pages.foldl (addAsset job) built).2.cache := by
  induction pages generalizing built with
  | nil => exact ⟨h, .refl _ _⟩
  | cons page rest ih =>
    obtain ⟨hknows, hadds⟩ := addAsset_adds h page
    obtain ⟨hrest, haddsRest⟩ := ih _ hknows
    exact ⟨hrest, hadds.trans haddsRest⟩

/-- Looking for the pages keeps what is known. -/
lemma discover_knows {s : Session} (h : s.Knows job known) :
    (discover job.graph s).2.Knows job known := by
  refine (discover_keeps (motive := fun s => s.Knows job known) ?_ ?_ h).2
  · intro s page h
    rw [outputPage]
    split
    · exact h.congr rfl rfl rfl
    · split
      · exact h
      · exact h.congr rfl rfl rfl
  · intro s id reason hload h
    exact h.fail (by rw [ModuleGraph.obstacle?, hload])

/-- Putting out the pages of a module makes no use of the cache. -/
lemma outputPages_withCache (g : ModuleGraph) (found : List Page × Session) (c : Cache)
    (pages : List Page) :
    outputPages g (found.map id (·.withCache c)) pages
      = (outputPages g found pages).map id (·.withCache c) := by
  refine List.foldl_hom (Prod.map id (Session.withCache · c)) ?_
  intro found page
  dsimp only [Prod.map]
  rw [outputPage, outputPage]
  split
  · rfl
  · split <;> rfl

/-- The pages of a graph are discovered without the cache. -/
lemma discover_withCache (g : ModuleGraph) (s : Session) (c : Cache) :
    discover g (s.withCache c) = (discover g s).map id (·.withCache c) := by
  let put : List Page × Session → List Page × Session := Prod.map id (·.withCache c)
  show g.modules.foldl (outputModule g) (put ([], s)) = put (g.modules.foldl (outputModule g) _)
  refine List.foldl_hom put ?_
  intro found module
  rw [outputModule, outputModule]
  split
  · exact outputPages_withCache g found c _
  · rfl
  · dsimp only [put, Prod.map]
    rw [Session.fail, Session.fail, Session.withCache]
    dsimp only
    split <;> rfl

lemma discover_cache (g : ModuleGraph) (s : Session) : (discover g s).2.cache = s.cache :=
  congrArg (·.2.cache) (discover_withCache g s s.cache)

end Resolver
end Bindery
