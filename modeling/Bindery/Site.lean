import Bindery.Config.Located
import Bindery.Minify
import Bindery.Resolver

/-!
# Sites

A site is a content folder whose files are the modules of a graph. It is loaded as a whole, or
brought up to date with the paths that changed, and built into an output folder: pages are written
and other files copied.
-/

namespace Bindery

/-- Why a site cannot be loaded, updated or built. -/
inductive SiteError where
  | outsideContent (path : String)
  | unreadable (path : String)
  | notCleared (output : String)
  | noFolder (fault : FolderFault)
  | notWritten (path : String)
  | notCopied (path : String)
  | withErrors (count : Nat)
  | notWatched (content : String)
deriving DecidableEq, Repr

namespace SiteError

/-- The wording of the error. -/
def message : SiteError → String
  | outsideContent path => "\x60" ++ path ++ "\x60 is outside the content directory"
  | unreadable path => "Failed to read " ++ path
  | notCleared output => "Failed to clear output directory: " ++ output
  | noFolder fault => fault.message
  | notWritten path => "Failed to write " ++ path
  | notCopied path => "Failed to copy " ++ path
  | withErrors count => "Build finished with " ++ toString count ++ " errors"
  | notWatched content => "Failed to watch content: " ++ content

end SiteError

/-- What a content file is to the site. -/
inductive SourceKind where
  | markdown
  | html
  | static
deriving DecidableEq, Repr, Inhabited

/-- The kind of a file, by the extension of its path. -/
def SourceKind.ofPath (path : String) : SourceKind :=
  match Path.extension? path with
  | some "md" | some "markdown" => .markdown
  | some "html" | some "htm" => .html
  | _ => .static

/-- A content file as it enters the graph; a file that is copied has no document. -/
structure Source where
  id : String
  resource : String
  document : Option (Except DocumentError Document)

/-- What changed paths did to a site: the modules that were taken back, and whether a module
appeared, disappeared or moved, so that everything was. -/
structure Changes where
  invalidated : List String := []
  structural : Bool := false
deriving DecidableEq, Repr, Inhabited

/-- A site under a located configuration. -/
structure Site where
  config : Config
  graph : SourceGraph
  resolver : Resolver

namespace Site

/-- The site before it is loaded. -/
def ofConfig (config : Config) : Site where
  config := config
  graph := { publicPath := config.build.publicPath }
  resolver := { settings := config.build }

/-! ## Content files -/

/-- The names of files that are no content. -/
def ignoredNames : List String := [".DS_Store"]

/-- The content files below a folder. -/
def sources (tree : Tree) (content : String) : List String :=
  ((tree.filesBelow content).map (·.1)).filter fun path =>
    !(Path.steps path).getLast?.any ignoredNames.contains

/-- The id of the module at a path: the way to it from the content folder. -/
def moduleId? (content path : String) : Option String :=
  match Path.below? content path with
  | none | some [] => none
  | some steps => some ("/".intercalate steps)

/-- A path as diagnostics show it: the way to it from the root of the site. -/
def resourceOf (config : Config) (path : String) : String :=
  match Path.below? (config.build.root.getD "./") path with
  | some steps => "/".intercalate steps
  | none => path

/-- Read a content file; a document is compiled. -/
def compile (config : Config) (tree : Tree) (path : String) : Except SiteError Source :=
  match moduleId? config.build.content path with
  | none => .error (.outsideContent path)
  | some id =>
    let resource := resourceOf config path
    let document (markdown : Bool) : Except SiteError Source :=
      match tree.readText? path with
      | none => .error (.unreadable path)
      | some source =>
        let options := { DocumentOptions.ofConfig config with markdown }
        .ok ⟨id, resource, some (Document.compile options id source)⟩
    match SourceKind.ofPath path with
    | .static => .ok ⟨id, resource, none⟩
    | .markdown => document true
    | .html => document false

/-- Enter a content file into a graph. -/
def enter (graph : SourceGraph) (source : Source) : SourceGraph :=
  match source.document with
  | some compiled => graph.insertDocument source.id source.resource compiled
  | none => graph.insertStatic source.id source.resource

/-- Load all content files. Nothing is kept from before. -/
def load (site : Site) (tree : Tree) : Except SiteError Site := do
  let found ← (sources tree site.config.build.content).mapM (compile site.config tree)
  let empty : SourceGraph := { publicPath := site.config.build.publicPath }
  return { site with graph := found.foldl enter empty, resolver := site.resolver.clear }

/-! ## Changes -/

/-- The url of the page of a module. -/
def urlOf? (graph : SourceGraph) (id : String) : Option String :=
  match graph.load id with
  | .ok (some m) => some m.page.url
  | _ => none

/-- Bring one path up to date. -/
def updatePath (site : Site) (tree : Tree) (changes : Changes) (path : String) :
    Except SiteError Changes × Site :=
  match moduleId? site.config.build.content path with
  | none => (.ok changes, site)
  | some id =>
    if !tree.isFile path then
      let changes := if site.graph.contains id then { changes with structural := true } else changes
      (.ok changes, { site with graph := site.graph.erase id })
    else
      match compile site.config tree path with
      | .error e => (.error e, site)
      | .ok source =>
        let graph := enter site.graph source
        let moved := !site.graph.contains id || urlOf? site.graph id ≠ urlOf? graph id
        let (_, resolver) := site.resolver.invalidate id
        (.ok ⟨changes.invalidated ++ [id], changes.structural || moved⟩,
          { site with graph, resolver })

/-- Bring paths up to date, one after the other; an error ends it. -/
def updatePaths (site : Site) (tree : Tree) (changes : Changes) :
    List String → Except SiteError Changes × Site
  | [] => (.ok changes, site)
  | path :: rest =>
    match site.updatePath tree changes path with
    | (.ok changes, site) => updatePaths site tree changes rest
    | (.error e, site) => (.error e, site)

/-- Bring changed paths up to date. -/
def update (site : Site) (tree : Tree) (paths : List String) : Except SiteError Changes × Site :=
  match site.updatePaths tree {} paths with
  | (.ok changes, site) =>
    (.ok changes,
      if changes.structural then { site with resolver := site.resolver.clear } else site)
  | (.error e, site) => (.error e, site)

/-! ## Output -/

/-- Make the folder of a file. -/
def makeFolderOf (tree : Tree) (path : String) : Except SiteError Tree :=
  (tree.makeFolders [] (Path.steps path).dropLast).mapError .noFolder

/-- Write a file and the folders on the way to it. -/
def writeFile (tree : Tree) (path : String) (bytes : List UInt8) (failed : SiteError) :
    Except SiteError Unit × Tree :=
  match makeFolderOf tree path with
  | .error e => (.error e, tree)
  | .ok tree =>
    match tree.write? path bytes with
    | some tree => (.ok (), tree)
    | none => (.error failed, tree)

/-- Do something to a tree for each of some items; an error ends it. -/
def forEach {α : Type} (act : Tree → α → Except SiteError Unit × Tree) :
    Tree → List α → Except SiteError Unit × Tree
  | tree, [] => (.ok (), tree)
  | tree, a :: rest =>
    match act tree a with
    | (.ok (), tree) => forEach act tree rest
    | (.error e, tree) => (.error e, tree)

/-- Clear the output folder, if that is asked for. -/
def clear (settings : BuildSettings) (tree : Tree) : Except SiteError Tree :=
  if settings.clean && tree.contains settings.output then
    match tree.removeFolder? settings.output with
    | some tree => .ok tree
    | none => .error (.notCleared settings.output)
  else .ok tree

/-- Write a page. -/
def writePage (settings : BuildSettings) (tree : Tree) (page : String × RenderedPage) :
    Except SiteError Unit × Tree :=
  let path := Path.join settings.output page.1
  let html := if settings.minify then Minify.minify page.2.html else page.2.html
  writeFile tree path (Text.toBytes html) (.notWritten path)

/-- Whether a copy is there that is as new as what was copied. -/
def isUpToDate (tree : Tree) (path copy : String) : Bool :=
  match tree.time? path, tree.time? copy with
  | some t, some c => t ≤ c
  | _, _ => false

/-- Copy a content file, unless its copy is up to date. -/
def copyFile (settings : BuildSettings) (tree : Tree) (path : String) :
    Except SiteError Unit × Tree :=
  let steps := (Path.below? settings.content path).getD []
  let copy := Path.join settings.output ("/".intercalate steps)
  if isUpToDate tree path copy then (.ok (), tree)
  else
    match tree.file? path with
    | some file => writeFile tree copy file.bytes (.notCopied path)
    | none => (.error (.notCopied path), tree)

/-- Write what a build put out, and copy the other content files. -/
def write (settings : BuildSettings) (tree : Tree) (b : Build) : Except SiteError Unit × Tree :=
  match clear settings tree with
  | .error e => (.error e, tree)
  | .ok tree =>
    match forEach (writePage settings) tree b.pages with
    | (.error e, tree) => (.error e, tree)
    | (.ok (), tree) =>
      let copied := (sources tree settings.content).filter (SourceKind.ofPath · = .static)
      forEach (copyFile settings) tree copied

/-- Build a site and write its output. -/
def build (site : Site) (tree : Tree) : Except SiteError Build × Site × Tree :=
  let (b, resolver) := site.resolver.build site.graph.toGraph
  let (done, tree) := write site.config.build tree b
  (done.map fun () => b, { site with resolver }, tree)

/-- Load, build and write a site once. Errors of pages are an error after all is written. -/
def buildOnce (config : Config) (tree : Tree) : Except SiteError Build × Tree :=
  match (ofConfig config).load tree with
  | .error e => (.error e, tree)
  | .ok site =>
    match site.build tree with
    | (.error e, _, tree) => (.error e, tree)
    | (.ok b, _, tree) =>
      if b.diagnostics.hasErrors then (.error (.withErrors b.diagnostics.errors.length), tree)
      else (.ok b, tree)

/-- Load and build a site that is to be kept up to date. A build that fails may do better after a
change; a content folder that is not there is not going to change. -/
def watch (config : Config) (tree : Tree) : Except SiteError Site × Tree :=
  match (ofConfig config).load tree with
  | .error e => (.error e, tree)
  | .ok site =>
    let (_, site, tree) := site.build tree
    if tree.contains config.build.content then (.ok site, tree)
    else (.error (.notWatched config.build.content), tree)

end Site
end Bindery
