import Bindery.Proofs.Resolver.Rendering

/-!
# The log of a build

A build renders tables of contents and pages. With these renderings as actions of a monad
(`Renderer`) the resolver is a program of that monad (`Resolver.buildBy`). With actions that write
down what they render it builds as it always does (`Resolver.run_buildBy`) and leaves a log: the
tables of contents with what came of them, and the pages with the contexts that they were given.
-/

namespace Bindery

/-- Renders tables of contents, and the bodies of pages in their contexts. -/
structure Renderer (m : Type → Type) where
  toc : String → Page → m (Except Problem Toc)
  body : Page → List (String × Value) → m (Except String String)

/-! ## Building with a renderer -/

section

variable {m : Type → Type} [Monad m]

namespace Job

/-- The table of contents of a module: the one of this build, else the cached one, else it is
rendered. -/
def resolveTocBy (renderer : Renderer m) (job : Job) (s : Session) (id : String) :
    m (Option Toc × Session) :=
  match s.toc? id with
  | some toc => pure (toc, s)
  | none =>
    match s.cache.toc? id with
    | some toc => pure (some toc, s.noteToc id (some toc))
    | none =>
      match s.load job.graph id with
      | (none, s) => pure (none, s.noteToc id none)
      | (some m, s) => do
        match ← renderer.toc id m.page with
        | .ok toc =>
          let s := { s with rendered := s.rendered ++ [toc] }.noteToc id (some toc)
          let s := if job.settings.cachePages then
              { s with cache.tocs := s.cache.tocs ++ [(id, toc)] }
            else s
          return (some toc, s)
        | .error p => return (none, (s.noteToc id none).error job.graph id p)

/-- Render the body of a page. -/
def renderBodyBy (renderer : Renderer m) (job : Job) (s : Session) (page : Page)
    (context : List (String × Value)) : m (String × Session) := do
  match ← renderer.body page context with
  | .ok html => return (html, s)
  | .error reason =>
    return (failedBody, s.error job.graph page.module (.renderFailed page.url reason))

/-- Render a page with its table of contents, title and template. -/
def renderPageBy (renderer : Renderer m) (job : Job) (s : Session) (page : Page) :
    m (RenderedPage × Bool × Session) := do
  let errorsBefore := s.diagnostics.errors.length
  let attributes := attributesOf page
  let (toc, s) ← match page.toc with
    | some id => job.resolveTocBy renderer s id
    | none => pure (none, s)
  let context := job.contextOf page attributes toc
  let (body, s) ← job.renderBodyBy renderer s page context
  let t := job.titled page attributes body
  let s := if t.title.isSome then s else s.warn job.graph page.module .untitled
  let (html, s) := job.applyTemplate s page context t
  let rendered := {
    module := page.module, url := page.url, filename := page.filename, html
    title := t.title.map (·.1), titleHtml := t.title.map (·.2)
    document := t.document, attributes }
  let isClean := s.diagnostics.errors.length = errorsBefore && (page.toc.isNone || toc.isSome)
  return (rendered, isClean, s)

/-- The asset of a page: the cached one, or a new rendering, which is kept if nothing failed. -/
def assetBy (renderer : Renderer m) (job : Job) (s : Session) (page : Page) :
    m (Asset × Session) :=
  let key : PageKey := ⟨page.module, page.url, job.tocIds.contains page.module⟩
  let cached := if job.settings.cachePages then s.cache.page? key else none
  match cached with
  | some entry => pure (entry.asset, s)
  | none => do
    let (rendered, isClean, s) ← job.renderPageBy renderer s page
    let asset : Asset := ⟨rendered, s.cache.renderings⟩
    let s := { s with cache.renderings := s.cache.renderings + 1 }
    if job.settings.cachePages && isClean then
      let entry := (key, ⟨asset, page.toc.toList ++ page.template.toList⟩)
      return (asset, { s with cache.pages := s.cache.pages ++ [entry] })
    else return (asset, s)

end Job

namespace Resolver

/-- Put a page out. A page whose url another one has replaces it. -/
def addAssetBy (renderer : Renderer m) (job : Job) (built : Sorted Asset × Session) (page : Page) :
    m (Sorted Asset × Session) := do
  let (assets, s) := built
  let (asset, s) ← job.assetBy renderer s page
  let s := if assets.contains page.url then
      s.warn job.graph page.module (.overwrites page.url)
    else s
  return (assets.insert page.url asset, s)

/-- Build a graph with a renderer for it. -/
def buildBy (renderer : Job → Renderer m) (r : Resolver) (g : ModuleGraph) :
    m (Build × Resolver) := do
  let (pages, s) := discover g { cache := r.cache }
  let job : Job := ⟨g, r.settings, pages.filterMap Page.toc⟩
  let (assets, s) ← pages.foldlM (addAssetBy (renderer job) job) (.empty, s)
  return ({ assets, diagnostics := s.diagnostics, tocs := s.rendered },
    { r with cache := s.cache })

end Resolver

end

/-! ## Logs -/

/-- What was rendered, in order: the tables of contents with what came of them, and the pages with
their contexts. -/
structure Log where
  tocs : List (String × Except Problem Toc) := []
  pages : List (Page × List (String × Value)) := []

namespace Log

/-- The modules that were rendered as tables of contents. -/
def tocIds (log : Log) : List String := log.tocs.map Prod.fst

/-- Whether a page that was rendered names a module as its table of contents. -/
def Names (log : Log) (id : String) : Prop := ∃ entry ∈ log.pages, id ∈ entry.1.toc

/-- A log with further tables of contents. -/
def addTocs (log : Log) (tocs : List (String × Except Problem Toc)) : Log :=
  { log with tocs := log.tocs ++ tocs }

lemma addTocs_nil (log : Log) : log.addTocs [] = log := by
  rw [addTocs, List.append_nil]

/-- A log with another page. -/
def addPage (log : Log) (page : Page) (context : List (String × Value)) : Log :=
  { log with pages := log.pages ++ [(page, context)] }

end Log

namespace Job

/-- Renders as the build does, and writes down what is rendered. -/
def logging (job : Job) : Renderer (StateM Log) where
  toc id page := do
    let result := job.renderToc id page
    modify (·.addTocs [(id, result)])
    return result
  body page context := do
    modify (·.addPage page context)
    return page.render (job.scope context page.module)

variable {job : Job} {known : String → Option Toc} {s : Session} {id : String} {page : Page}

/-- The renderings that are made when a table of contents is asked for: one at most, if it was not
noted before, is not kept, and its module is a page. -/
def attempts (job : Job) (s : Session) (id : String) : List (String × Except Problem Toc) :=
  if (s.toc? id).isNone && (s.cache.toc? id).isNone then
    ((job.graph.pageModule? id).map fun m => (id, job.renderToc id m.page)).toList
  else []

/-- The renderings that are made for the table of contents of a page. -/
def attemptsFor (job : Job) (s : Session) (page : Page) : List (String × Except Problem Toc) :=
  page.toc.elim [] (job.attempts s)

/-- Resolving a table of contents with a log does the same, and puts down what is rendered. -/
lemma run_resolveTocBy (h : s.Knows job known) (id : String) (log : Log) :
    (job.resolveTocBy job.logging s id).run log
      = pure (job.resolveToc s id, log.addTocs (job.attempts s id)) := by
  rw [resolveTocBy, resolveToc, attempts]
  cases s.toc? id with
  | some toc => exact Prod.ext rfl log.addTocs_nil.symm
  | none =>
    cases s.cache.toc? id with
    | some toc => exact Prod.ext rfl log.addTocs_nil.symm
    | none =>
      rw [Session.load_eq_pageModule? h.failed]
      cases job.graph.pageModule? id with
      | none => exact Prod.ext rfl log.addTocs_nil.symm
      | some m =>
        simp only [logging, Option.map_some, Option.toList_some, Option.isNone_none, Bool.and_self,
          if_true, StateT.run_bind]
        cases job.renderToc id m.page with
        | ok toc => rfl
        | error p => rfl

/-- The log once a page was rendered, given the tables of contents. -/
def logAfter (job : Job) (known : String → Option Toc) (s : Session) (log : Log) (page : Page) :
    Log :=
  (log.addTocs (job.attemptsFor s page)).addPage page
    (job.contextOf page (attributesOf page) (page.toc.bind known))

lemma tocIds_logAfter (known : String → Option Toc) (s : Session) (log : Log) (page : Page) :
    (job.logAfter known s log page).tocIds
      = log.tocIds ++ (job.attemptsFor s page).map Prod.fst := List.map_append

lemma names_logAfter {log : Log} :
    (job.logAfter known s log page).Names id ↔ log.Names id ∨ id ∈ page.toc := by
  simp [Log.Names, logAfter, Log.addPage, Log.addTocs, or_and_right, exists_or]

/-- Rendering a body with a log does the same, and puts down the page. -/
lemma run_renderBodyBy (s : Session) (page : Page) (context : List (String × Value)) (log : Log) :
    (job.renderBodyBy job.logging s page context).run log
      = pure (job.renderBody s page context, log.addPage page context) := by
  rw [renderBodyBy, renderBody]
  simp only [logging, StateT.run_bind]
  cases page.render (job.scope context page.module) with
  | ok html => rfl
  | error reason => rfl

/-- Rendering a page with a log does the same, and puts down what is rendered. -/
lemma run_renderPageBy (h : s.Knows job known) (page : Page) (log : Log) :
    (job.renderPageBy job.logging s page).run log
      = pure (job.renderPage s page, job.logAfter known s log page) := by
  rw [renderPageBy, renderPage, logAfter, attemptsFor]
  cases page.toc with
  | none =>
    simp only [StateT.run_bind, StateT.run_pure, run_renderBodyBy]
    rw [Option.elim_none, Log.addTocs_nil]
    rfl
  | some id =>
    -- the context is made of the table of contents that was found, which is the known one
    have htoc := (resolveToc_knows h id).1
    simp only [StateT.run_bind, run_resolveTocBy h, run_renderBodyBy]
    rw [Option.bind_some, ← htoc]
    rfl

/-- The log once a page was put out, given the tables of contents. -/
def logWith (job : Job) (known : String → Option Toc) (s : Session) (log : Log) (page : Page) :
    Log :=
  if job.serves s.cache page then log else job.logAfter known s log page

/-- Getting a page with a log does the same, and puts down what is rendered, if anything is. -/
lemma run_assetBy (h : s.Knows job known) (page : Page) (log : Log) :
    (job.assetBy job.logging s page).run log
      = pure (job.asset s page, job.logWith known s log page) := by
  have hcached : (if job.settings.cachePages then s.cache.page? (job.keyOf page) else none).isSome
      = job.serves s.cache page := by
    rw [serves]
    cases job.settings.cachePages <;> rfl
  rw [keyOf] at hcached
  -- both programs look into the cache in the same way
  rw [assetBy, asset, logWith, ← hcached]
  dsimp only
  cases if job.settings.cachePages then
      s.cache.page? ⟨page.module, page.url, job.tocIds.contains page.module⟩ else none with
  | some entry => rfl
  | none =>
    rw [StateT.run_bind, run_renderPageBy h, pure_bind]
    dsimp only
    cases job.settings.cachePages && (job.renderPage s page).2.1 with
    | true => rfl
    | false => rfl

end Job

namespace Resolver

variable {job : Job} {known : String → Option Toc} {built : Sorted Asset × Session}

/-- Adding a page with a log does the same. -/
lemma run_addAssetBy (h : built.2.Knows job known) (page : Page) (log : Log) :
    (addAssetBy job.logging job built page).run log
      = pure (addAsset job built page, job.logWith known built.2 log page) := by
  rw [addAssetBy, addAsset]
  dsimp only
  rw [StateT.run_bind, Job.run_assetBy h, pure_bind]
  rfl

/-- The log once pages were put out, given the tables of contents. -/
def logThrough (job : Job) (known : String → Option Toc) :
    Sorted Asset × Session → Log → List Page → Log
  | _, log, [] => log
  | built, log, page :: rest =>
    logThrough job known (addAsset job built page) (job.logWith known built.2 log page) rest

/-- Adding pages with a log does the same. -/
lemma run_addAssetsBy (h : built.2.Knows job known) (pages : List Page) (log : Log) :
    (pages.foldlM (addAssetBy job.logging job) built).run log
      = pure (pages.foldl (addAsset job) built, logThrough job known built log pages) := by
  induction pages generalizing built log with
  | nil => rfl
  | cons page rest ih =>
    rw [List.foldlM_cons, StateT.run_bind, run_addAssetBy h, pure_bind]
    exact ih (addAsset_adds h page).1 _

/-- The log of a build. -/
def log (r : Resolver) (g : ModuleGraph) : Log := ((r.buildBy Job.logging g).run {}).2

/-- A build is the same whether its renderings are written down or not. -/
lemma run_buildBy (r : Resolver) (g : ModuleGraph) :
    (r.buildBy Job.logging g).run {} = pure (r.build g,
      logThrough (g.job r.settings) ((g.job r.settings).tocsFrom r.cache)
        (.empty, (discover g { cache := r.cache }).2) {} g.pages) := by
  have hknows := discover_knows (Session.knows_start (g.job r.settings) r.cache)
  rw [build_eq, buildBy]
  dsimp only
  rw [discover_fst, ← ModuleGraph.job, StateT.run_bind, run_addAssetsBy hknows, pure_bind]
  rfl

end Resolver
end Bindery
