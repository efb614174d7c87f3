import Bindery.Outline

/-!
# Diagnostics

A build goes on after a failure. What went wrong is recorded in order, with the module it is put
down to.
-/

namespace Bindery

/-- What can go wrong with a page. Reasons are texts, because a page may be rendered in any way. -/
inductive Problem where
  | unloadable (id reason : String)
  | withoutUrl (id : String)
  | outsideOutput (url : String)
  | overwrites (url : String)
  | tocFailed (id reason : String)
  | tocUnordered (cause : Outline.AfterListError)
  | renderFailed (url reason : String)
  | templateFailed (url reason : String)
  | untitled
deriving DecidableEq, Repr

namespace Problem

/-- A name between marks. -/
def quoted (name : String) : String := "\x60" ++ name ++ "\x60"

/-- The wording of a problem. -/
def message : Problem → String
  | unloadable id reason => "Failed to load " ++ quoted id ++ ": " ++ reason
  | withoutUrl id => quoted id ++ " is emitted without a url"
  | outsideOutput url => "Page url " ++ quoted url ++ " leaves the output directory"
  | overwrites url => quoted url ++ " overwrites a page with the same url"
  | tocFailed id reason =>
    "Failed to render table of contents " ++ quoted id ++ ": " ++ reason
  | tocUnordered cause => cause.message
  | renderFailed url reason => "Failed to render " ++ quoted url ++ ": " ++ reason
  | templateFailed url reason => "Failed to apply template to " ++ quoted url ++ ": " ++ reason
  | untitled => "No h1 or h2 or title attribute"

end Problem

/-- A problem of a module, and where the module comes from. -/
structure Diagnostic where
  module : String
  resource : String
  problem : Problem
deriving DecidableEq, Repr

namespace Diagnostic

/-- A diagnostic as one line. -/
def text (d : Diagnostic) : String := d.resource ++ ": " ++ d.problem.message

end Diagnostic

/-- The errors and warnings of a build, in the order in which they came up. -/
structure Diagnostics where
  errors : List Diagnostic := []
  warnings : List Diagnostic := []
deriving DecidableEq, Repr, Inhabited

namespace Diagnostics

/-- Whether there are errors. -/
def hasErrors (d : Diagnostics) : Bool := !d.errors.isEmpty

/-- The errors of a module. -/
def errorsFor (d : Diagnostics) (module : String) : List Diagnostic :=
  d.errors.filter (·.module = module)

/-- The warnings of a module. -/
def warningsFor (d : Diagnostics) (module : String) : List Diagnostic :=
  d.warnings.filter (·.module = module)

end Diagnostics
end Bindery
