import Bindery.Page
import Bindery.Sorted

/-!
# Module graphs

The modules of a site by id. A request that one module makes of another resolves to the url under
which the other one is published. Any graph can be built; the one that a content folder gives holds
compiled documents, documents that failed to compile, and files that are copied as they are.
-/

namespace Bindery

/-- Where a module comes from, and the modules that it names as template and table of contents. -/
structure ModuleMeta where
  resource : String
  dependencies : List String
deriving DecidableEq, Repr, Inhabited

/-- What a build asks of a graph; a module that loads to none is not a page. -/
structure ModuleGraph where
  modules : List String
  load : String → Except String (Option PageModule)
  meta? : String → Option ModuleMeta
  resolve : (module request : String) → Except String String

namespace ModuleGraph

/-- Where a module comes from; a module that the graph does not know is named by its id. -/
def resource (g : ModuleGraph) (id : String) : String :=
  ((g.meta? id).map ModuleMeta.resource).getD id

end ModuleGraph

/-- A file of the content folder: a document, compiled or with the reason why it is not, or a file
that is copied. -/
inductive SourceEntry where
  | module (resource : String) (compiled : Except String PageModule) (dependencies : List String)
  | static (resource : String)

/-- The graph of a content folder. -/
structure SourceGraph where
  publicPath : String
  entries : Sorted SourceEntry := .empty
deriving Inhabited

namespace SourceGraph

/-- Enter a document by the outcome of compiling it. -/
def insertDocument (g : SourceGraph) (id resource : String)
    (compiled : Except DocumentError Document) : SourceGraph :=
  let entry := match compiled with
    | .ok d => .module resource (.ok (.ofDocument d)) d.dependencies
    | .error e => .module resource (.error (": ".intercalate e.chain)) []
  { g with entries := g.entries.insert id entry }

/-- Enter a module. -/
def insertModule (g : SourceGraph) (id resource : String) (m : PageModule) : SourceGraph :=
  { g with entries := g.entries.insert id (.module resource (.ok m) m.page.dependencies) }

/-- Enter a file that is copied. -/
def insertStatic (g : SourceGraph) (id resource : String) : SourceGraph :=
  { g with entries := g.entries.insert id (.static resource) }

/-- Drop a module. -/
def erase (g : SourceGraph) (id : String) : SourceGraph :=
  { g with entries := g.entries.erase id }

/-- Whether there is a module of an id. -/
def contains (g : SourceGraph) (id : String) : Bool := g.entries.contains id

/-- The ids in order. -/
def modules (g : SourceGraph) : List String := g.entries.keys

/-- A module by id. -/
def load (g : SourceGraph) (id : String) : Except String (Option PageModule) :=
  match g.entries.find? id with
  | some (.module _ (.ok m) _) => .ok (some m)
  | some (.module _ (.error reason) _) => .error reason
  | some (.static _) => .ok none
  | none => .error ("Module \x60" ++ id ++ "\x60 not found")

/-- What is known about a module. -/
def meta? (g : SourceGraph) (id : String) : Option ModuleMeta :=
  (g.entries.find? id).map fun
    | .module resource _ dependencies => ⟨resource, dependencies⟩
    | .static resource => ⟨resource, []⟩

/-- The public url that a request of a module leads to. -/
def resolve (g : SourceGraph) (module request : String) : Except String String :=
  match Link.resolve module request with
  | none => .error ("\x60" ++ request ++ "\x60 points outside the content directory")
  | some id =>
    match g.entries.find? id with
    | some (.module _ (.ok m) _) => .ok (g.publicPath ++ m.page.url)
    | some (.module _ (.error reason) _) =>
      .error ("\x60" ++ request ++ "\x60 refers to a module that failed to compile: " ++ reason)
    | some (.static _) => .ok (g.publicPath ++ id)
    | none => .error ("Cannot resolve \x60" ++ request ++ "\x60 from \x60" ++ module ++ "\x60")

/-- The graph as a build sees it. -/
def toGraph (g : SourceGraph) : ModuleGraph := ⟨g.modules, g.load, g.meta?, g.resolve⟩

end SourceGraph
end Bindery
