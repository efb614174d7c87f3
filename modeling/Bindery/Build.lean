import Bindery.Diagnostic
import Bindery.Sorted
import Bindery.Toc

/-!
# Builds

What a build puts out: the finished pages by url, and what went wrong.
-/

namespace Bindery

/-- A finished page; `document` is its body before the template went around it. -/
structure RenderedPage where
  module : String
  url : String
  filename : String
  html : String
  title : Option String
  titleHtml : Option String
  document : Html.Document
  attributes : List (String × Value)
deriving Inhabited

namespace RenderedPage

/-- The length in bytes. -/
def size (p : RenderedPage) : Nat := p.html.utf8ByteSize

/-- Whether there is no text. -/
def isEmpty (p : RenderedPage) : Bool := p.html.isEmpty

end RenderedPage

/-- A page as a build puts it out. The number tells renderings apart: a page that was kept from an
earlier build has the number it had there. -/
structure Asset where
  page : RenderedPage
  number : Nat
deriving Inhabited

/-- The outcome of a build; `tocs` are the tables of contents that were rendered in it, in order. -/
structure Build where
  assets : Sorted Asset := .empty
  diagnostics : Diagnostics := {}
  tocs : List Toc := []
deriving Inhabited

namespace Build

/-- The finished pages by url. -/
def pages (b : Build) : List (String × RenderedPage) :=
  b.assets.entries.map fun (url, asset) => (url, asset.page)

end Build
end Bindery
