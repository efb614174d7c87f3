import Bindery.Html.Document
import Bindery.Outline.Value
import Bindery.Page

/-!
# Tables of contents

A table of contents is a rendered page read for its links. Their order is the order of the pages
they lead to.
-/

namespace Bindery

/-- A link of a table of contents. -/
structure TocEntry where
  url : String
  title : String
deriving DecidableEq, Repr, Inhabited

namespace TocEntry

/-- A link as a value. -/
def toValue (e : TocEntry) : Value :=
  .object [("url", .string e.url), ("title", .string e.title)]

end TocEntry

/-- A table of contents; `pages` are its links in order. -/
structure Toc where
  module : String
  html : String
  document : Html.Document
  page : Page
  pages : List TocEntry
  outline : Option Outline.Item
  breadcrumbs : Option Outline.Breadcrumbs
deriving Inhabited

namespace Toc

/-- The links of a document that lead somewhere. -/
def entriesOf (d : Html.Document) : List TocEntry :=
  d.anchors.filterMap fun a => a.href.map fun url => ⟨url, a.text⟩

/-- The entries before and after the first one with a url, looked for behind some other entry. -/
def neighborsAfter (url : String) (before : Option TocEntry) :
    List TocEntry → Option TocEntry × Option TocEntry
  | [] => (none, none)
  | e :: rest => if e.url = url then (before, rest.head?) else neighborsAfter url (some e) rest

/-- The entries before and after a page, given by its public url. -/
def neighbors (toc : Toc) (publicUrl : String) : Option TocEntry × Option TocEntry :=
  neighborsAfter publicUrl none toc.pages

/-- A table of contents as the pages see it that name it. -/
def toValue (toc : Toc) : Value :=
  .object ([
    ("url", .string toc.page.url),
    ("html", .string toc.html),
    ("attributes", .object toc.page.attributes),
    ("pages", .array (toc.pages.map TocEntry.toValue))]
    ++ (toc.outline.map fun o => ("outline", o.toValue)).toList
    ++ (toc.breadcrumbs.map fun b => ("breadcrumbs", Outline.crumbsValue b)).toList)

end Toc
end Bindery
