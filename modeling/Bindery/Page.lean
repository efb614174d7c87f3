import Bindery.Document
import Bindery.Expr.Eval

/-!
# Pages

A page is rendered in a scope: the context it is given, the module it belongs to, and the resolver
of its requests. A module has a page of its own and may make more.
-/

namespace Bindery

/-- One output page; `template` and `toc` are the modules of the template around it and of its
table of contents. -/
structure Page where
  module : String
  url : String
  filename : String
  render : Expr.Scope → Except String String
  attributes : List (String × Value) := []
  template : Option String := none
  toc : Option String := none
  emit : Bool := true

instance : Inhabited Page := ⟨{ module := "", url := "", filename := "", render := fun _ => .ok "" }⟩

namespace Page

/-- The modules that a page names, its template first. -/
def dependencies (page : Page) : List String := page.template.toList ++ page.toc.toList

end Page

/-- What a module gives to the site: its own page, and further ones. A template is there for other
pages only. -/
structure PageModule where
  page : Page
  isTemplate : Bool := false
  renderPages : List Page := []
deriving Inhabited

namespace PageModule

/-- The module of a document. -/
def ofDocument (d : Document) : PageModule where
  page := {
    module := d.id
    url := d.url
    filename := d.id
    render := fun scope => (d.code.render scope).mapError Expr.EvalError.message
    attributes := d.attributes
    template := d.template
    toc := d.toc
    emit := d.emit }
  isTemplate := d.isTemplate

/-- The pages that a module puts out. -/
def outputs (m : PageModule) : List Page :=
  if m.isTemplate then []
  else (if m.page.emit then [m.page] else []) ++ m.renderPages

end PageModule
end Bindery
