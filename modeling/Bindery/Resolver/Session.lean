import Bindery.Build
import Bindery.Config
import Bindery.Graph

/-!
# The course of a build

A build asks a graph for modules and records what goes wrong. What it keeps for later builds is
the cache: tables of contents by module, and pages by module and url, each with the modules it was
rendered with. A page that is itself a table of contents is kept apart from one that is not,
because the two are titled differently.
-/

namespace Bindery

/-- What a cached page is kept under. -/
structure PageKey where
  module : String
  url : String
  isToc : Bool
deriving DecidableEq, Repr, Inhabited

/-- A cached page with the modules that it was rendered with. -/
structure CachedPage where
  asset : Asset
  dependencies : List String
deriving Inhabited

/-- What outlives a build; `renderings` counts the pages rendered so far. -/
structure Cache where
  tocs : List (String × Toc) := []
  pages : List (PageKey × CachedPage) := []
  renderings : Nat := 0
deriving Inhabited

namespace Cache

/-- The cached table of contents of a module. -/
def toc? (c : Cache) (id : String) : Option Toc := (c.tocs.find? (·.1 = id)).map (·.2)

/-- The cached page under a key. -/
def page? (c : Cache) (key : PageKey) : Option CachedPage :=
  (c.pages.find? (·.1 = key)).map (·.2)

/-- Whether a page was made by a module or with it. -/
def uses (id : String) (entry : PageKey × CachedPage) : Bool :=
  entry.1.module = id || entry.2.dependencies.contains id

/-- Drop what was made by a module or with it. -/
def invalidate (c : Cache) (id : String) : Cache :=
  { c with
    tocs := c.tocs.filter (·.1 ≠ id)
    pages := c.pages.filter (!uses id ·) }

/-- The number of entries. -/
def size (c : Cache) : Nat := c.tocs.length + c.pages.length

/-- Drop everything. -/
def clear (c : Cache) : Cache := { c with tocs := [], pages := [] }

/-- The modules with a page that was rendered with a module, in order. -/
def dependents (c : Cache) (id : String) : List String :=
  let users := c.pages.filter fun entry => entry.2.dependencies.contains id
  (users.foldl (fun (m : Sorted Unit) entry => m.insert entry.1.module ()) .empty).keys

end Cache

/-- A build under way: the cache, the tables of contents asked for so far, with none for one that
failed, the modules whose failure to load is recorded, and what the build has to tell. -/
structure Session where
  cache : Cache
  tocs : List (String × Option Toc) := []
  failed : List String := []
  diagnostics : Diagnostics := {}
  rendered : List Toc := []
deriving Inhabited

namespace Session

/-- Record an error. -/
def error (s : Session) (g : ModuleGraph) (module : String) (p : Problem) : Session :=
  { s with diagnostics.errors := s.diagnostics.errors ++ [⟨module, g.resource module, p⟩] }

/-- Record a warning. -/
def warn (s : Session) (g : ModuleGraph) (module : String) (p : Problem) : Session :=
  { s with diagnostics.warnings := s.diagnostics.warnings ++ [⟨module, g.resource module, p⟩] }

/-- Record that a module does not load, once. -/
def fail (s : Session) (g : ModuleGraph) (id reason : String) : Session :=
  if s.failed.contains id then s
  else { s with failed := s.failed ++ [id] }.error g id (.unloadable id reason)

/-- Load a module that has to be a page. -/
def load (s : Session) (g : ModuleGraph) (id : String) : Option PageModule × Session :=
  if s.failed.contains id then (none, s)
  else
    match g.load id with
    | .ok (some m) => (some m, s)
    | .ok none => (none, s.fail g id (Problem.quoted id ++ " is not a page module"))
    | .error reason => (none, s.fail g id reason)

/-- What is known in this build of the table of contents of a module. -/
def toc? (s : Session) (id : String) : Option (Option Toc) :=
  (s.tocs.find? (·.1 = id)).map (·.2)

/-- Note the table of contents of a module, or that it failed. -/
def noteToc (s : Session) (id : String) (toc : Option Toc) : Session :=
  { s with tocs := s.tocs ++ [(id, toc)] }

end Session
end Bindery
