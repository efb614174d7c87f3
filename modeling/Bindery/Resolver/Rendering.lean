import Bindery.Date
import Bindery.Resolver.Session

/-!
# Rendering pages

Tables of contents are rendered once in a build. A page is given its table of contents with the
pages before and after it, is rendered and titled, and goes into its template. A failure is
recorded and the page is put out all the same.
-/

namespace Bindery

/-- What does not change during a build: the graph, the settings, and the modules that some page
names as its table of contents. -/
structure Job where
  graph : ModuleGraph
  settings : BuildSettings
  tocIds : List String

namespace Job

/-- The body of a page that could not be rendered. -/
def failedBody : String := "build error"

/-- The title of a page that is a table of contents. -/
def tocTitle : String := "Table of Contents"

/-- The scope of a module. -/
def scope (job : Job) (context : List (String × Value)) (module : String) : Expr.Scope :=
  ⟨.object context, module, some job.graph.resolve⟩

/-! ## Tables of contents -/

/-- Render a table of contents. -/
def renderToc (job : Job) (id : String) (page : Page) : Except Problem Toc := do
  let context := [
    ("url", Value.string page.url),
    ("publicUrl", .string (job.settings.publicUrl page.url)),
    ("attributes", .object page.attributes),
    ("options", job.settings.toValue)]
  let html ← (page.render (job.scope context page.module)).mapError (.tocFailed id)
  let document := Html.Document.parse html
  let outline ←
    if job.settings.generateOutline then
      (Outline.extract document.root).mapError .tocUnordered
    else .ok none
  return {
    module := id, html, document, page, outline
    pages := Toc.entriesOf document
    breadcrumbs := outline.map Outline.breadcrumbs }

/-- The table of contents of a module: the one of this build, else the cached one, else it is
rendered. -/
def resolveToc (job : Job) (s : Session) (id : String) : Option Toc × Session :=
  match s.toc? id with
  | some toc => (toc, s)
  | none =>
    match s.cache.toc? id with
    | some toc => (some toc, s.noteToc id (some toc))
    | none =>
      match s.load job.graph id with
      | (none, s) => (none, s.noteToc id none)
      | (some m, s) =>
        match job.renderToc id m.page with
        | .ok toc =>
          let s := { s with rendered := s.rendered ++ [toc] }.noteToc id (some toc)
          let s := if job.settings.cachePages then
              { s with cache.tocs := s.cache.tocs ++ [(id, toc)] }
            else s
          (some toc, s)
        | .error p => (none, (s.noteToc id none).error job.graph id p)

/-! ## Titles -/

/-- The text that an attribute holds. -/
def textAttribute? (attributes : List (String × Value)) (name : String) : Option String :=
  match Value.lookup name attributes with
  | some (.string s) => some s
  | _ => none

/-- A page body with the title it got. -/
structure Titled where
  title : Option (String × String)
  html : String
  document : Html.Document

/-- Title a page: by its `title` attribute, as a table of contents, or by its first main heading,
which may be taken out of the body. -/
def titled (job : Job) (page : Page) (attributes : List (String × Value)) (html : String) :
    Titled :=
  let document := Html.Document.parse html
  match (textAttribute? attributes "title").filter (!·.isEmpty) with
  | some title =>
    ⟨some (title, (textAttribute? attributes "titleHtml").getD title), html, document⟩
  | none =>
    if job.tocIds.contains page.module then ⟨some (tocTitle, tocTitle), html, document⟩
    else
      match document.firstHeading? with
      | none => ⟨none, html, document⟩
      | some heading =>
        let title := some (heading.text, heading.inner)
        if job.settings.removeTitleElement then
          let rest := document.remove heading.id
          ⟨title, rest.toHtml, rest⟩
        else ⟨title, html, document⟩

/-! ## Pages -/

/-- The attributes of a page: the date in its file name, which its own attributes override. -/
def attributesOf (page : Page) : List (String × Value) :=
  let date := ((Date.ofFileName? page.filename).map fun d => ("date", Value.string d)).toList
  page.attributes.foldl (fun fields (key, value) => Value.insert key value fields) date

/-- What a page sees of its table of contents: the whole of it and the pages around. -/
def tocContext (publicUrl : String) (toc : Toc) : List (String × Value) :=
  let (before, after) := toc.neighbors publicUrl
  [("toc", toc.toValue)]
    ++ (before.map fun e => ("previous", e.toValue)).toList
    ++ (after.map fun e => ("next", e.toValue)).toList

/-- The context of a page. -/
def contextOf (job : Job) (page : Page) (attributes : List (String × Value))
    (toc : Option Toc) : List (String × Value) :=
  let publicUrl := job.settings.publicUrl page.url
  [("url", .string page.url), ("publicUrl", .string publicUrl), ("attributes", .object attributes)]
    ++ (toc.map (tocContext publicUrl)).getD []
    ++ [("options", job.settings.toValue)]

/-- Render the body of a page. -/
def renderBody (job : Job) (s : Session) (page : Page) (context : List (String × Value)) :
    String × Session :=
  match page.render (job.scope context page.module) with
  | .ok html => (html, s)
  | .error reason => (failedBody, s.error job.graph page.module (.renderFailed page.url reason))

/-- Put a page into its template. A page whose template fails stays as it is. -/
def applyTemplate (job : Job) (s : Session) (page : Page) (context : List (String × Value))
    (t : Titled) : String × Session :=
  match page.template with
  | none => (t.html, s)
  | some id =>
    match s.load job.graph id with
    | (none, s) => (t.html, s)
    | (some m, s) =>
      let context := context ++ [
        ("title", Value.ofString? (t.title.map (·.1))),
        ("titleHtml", Value.ofString? (t.title.map (·.2))),
        ("html", .string t.html)]
      match m.page.render (job.scope context id) with
      | .ok html => (html, s)
      | .error reason => (t.html, s.error job.graph id (.templateFailed page.url reason))

/-- Render a page with its table of contents, title and template. The flag tells whether the page
may be kept: nothing failed for it. -/
def renderPage (job : Job) (s : Session) (page : Page) : RenderedPage × Bool × Session :=
  let errorsBefore := s.diagnostics.errors.length
  let attributes := attributesOf page
  let (toc, s) := match page.toc with
    | some id => job.resolveToc s id
    | none => (none, s)
  let context := job.contextOf page attributes toc
  let (body, s) := job.renderBody s page context
  let t := job.titled page attributes body
  let s := if t.title.isSome then s else s.warn job.graph page.module .untitled
  let (html, s) := job.applyTemplate s page context t
  let rendered := {
    module := page.module, url := page.url, filename := page.filename, html
    title := t.title.map (·.1), titleHtml := t.title.map (·.2)
    document := t.document, attributes }
  let isClean := s.diagnostics.errors.length = errorsBefore && (page.toc.isNone || toc.isSome)
  (rendered, isClean, s)

/-- The asset of a page: the cached one, or a new rendering, which is kept if nothing failed. -/
def asset (job : Job) (s : Session) (page : Page) : Asset × Session :=
  let key : PageKey := ⟨page.module, page.url, job.tocIds.contains page.module⟩
  let cached := if job.settings.cachePages then s.cache.page? key else none
  match cached with
  | some entry => (entry.asset, s)
  | none =>
    let (rendered, isClean, s) := job.renderPage s page
    let asset : Asset := ⟨rendered, s.cache.renderings⟩
    let s := { s with cache.renderings := s.cache.renderings + 1 }
    if job.settings.cachePages && isClean then
      let entry := (key, ⟨asset, page.toc.toList ++ page.template.toList⟩)
      (asset, { s with cache.pages := s.cache.pages ++ [entry] })
    else (asset, s)

end Job
end Bindery
