import Bindery.Resolver.Rendering

/-!
# Resolving sites

A resolver builds graphs. It discovers the pages that are put out, renders each, and keeps what it
may for the next build. When a module changes it has to be told.
-/

namespace Bindery

/-- Builds graphs under fixed settings. -/
structure Resolver where
  settings : BuildSettings
  cache : Cache := {}
deriving Inhabited

namespace Resolver

/-- A page with its url normalized; none if it cannot be put out. -/
def outputPage (g : ModuleGraph) (s : Session) (page : Page) : Option Page × Session :=
  if page.url.isEmpty then (none, s.warn g page.module (.withoutUrl page.module))
  else
    match Link.normalize page.url with
    | some url => (some { page with url }, s)
    | none => (none, s.error g page.module (.outsideOutput page.url))

/-- The pages of a module that are put out, behind some others. -/
def outputPages (g : ModuleGraph) (found : List Page × Session) (pages : List Page) :
    List Page × Session :=
  pages.foldl (fun (found, s) page =>
    let (page, s) := outputPage g s page
    (found ++ page.toList, s)) found

/-- Put out the pages of a module after the pages found before. -/
def outputModule (g : ModuleGraph) (found : List Page × Session) (id : String) :
    List Page × Session :=
  match g.load id with
  | .ok (some m) => outputPages g found m.outputs
  | .ok none => found
  | .error reason => (found.1, found.2.fail g id reason)

/-- The pages of a graph that are put out, in the order of the modules. -/
def discover (g : ModuleGraph) (s : Session) : List Page × Session :=
  g.modules.foldl (outputModule g) ([], s)

/-- Put a page out. A page whose url another one has replaces it. -/
def addAsset (job : Job) (built : Sorted Asset × Session) (page : Page) :
    Sorted Asset × Session :=
  let (assets, s) := built
  let (asset, s) := job.asset s page
  let s := if assets.contains page.url then
      s.warn job.graph page.module (.overwrites page.url)
    else s
  (assets.insert page.url asset, s)

/-- Build a graph. -/
def build (r : Resolver) (g : ModuleGraph) : Build × Resolver :=
  let (pages, s) := discover g { cache := r.cache }
  let job : Job := ⟨g, r.settings, pages.filterMap Page.toc⟩
  let (assets, s) := pages.foldl (addAsset job) (.empty, s)
  ({ assets, diagnostics := s.diagnostics, tocs := s.rendered }, { r with cache := s.cache })

/-- Take back all that was made by a module or with it, and tell how much it was. -/
def invalidate (r : Resolver) (id : String) : Nat × Resolver :=
  let cache := r.cache.invalidate id
  (r.cache.size - cache.size, { r with cache })

/-- The modules with a kept page that was rendered with a module. -/
def dependents (r : Resolver) (id : String) : List String := r.cache.dependents id

/-- Take back everything. -/
def clear (r : Resolver) : Resolver := { r with cache := r.cache.clear }

end Resolver
end Bindery
