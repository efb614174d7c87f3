import Bindery.Html.Modes
import Bindery.Html.Printer

/-!
# Parsed documents

A markup text is read as the body of a document. Nodes keep their places, so that one can be named
and taken out; what is asked of all nodes is answered in the order in which they were made.
-/

namespace Bindery
namespace Html

/-- A parsed markup text. -/
structure Document where
  forest : Forest
deriving Inhabited

/-- A link of a document. -/
structure Anchor where
  href : Option String
  text : String
deriving DecidableEq, Repr, Inhabited

/-- A heading of a document. -/
structure Heading where
  id : Nat
  text : String
  inner : String
deriving DecidableEq, Repr, Inhabited

namespace Document

/-- Read a markup text. -/
def parse (markup : String) : Document := ⟨(Builder.ofText markup.toList).forest⟩

/-- The outermost element; its children are the content. -/
def root (d : Document) : Node := d.forest.node Builder.rootId

/-- The content, written. -/
def toHtml (d : Document) : String := d.root.inner

/-- The nodes of a name that hang from another node, in the order in which they were made. -/
def elementsNamed (d : Document) (names : List String) : List Nat :=
  (List.range d.forest.cells.size).filter fun id =>
    (d.forest.parent? id).isSome && (d.forest.element? id).any fun e => names.contains e.name

/-- All links. -/
def anchors (d : Document) : List Anchor :=
  (d.elementsNamed ["a"]).map fun id =>
    { href := (d.forest.element? id).bind (·.attribute? "href")
      text := (d.forest.node id).content }

/-- The first main heading. -/
def firstHeading? (d : Document) : Option Heading :=
  (d.elementsNamed ["h1", "h2"]).head?.map fun id =>
    let node := d.forest.node id
    { id, text := node.content, inner := node.inner }

/-- Take a node out, with all below it. -/
def remove (d : Document) (id : Nat) : Document := ⟨d.forest.detach id⟩

end Document
end Html
end Bindery
