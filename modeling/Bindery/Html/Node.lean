import Bindery.Text.Blank

/-!
# Markup trees

A markup document is a tree of elements, texts and comments. This module holds the tree and what
can be read off it without writing it out: its text and its first element of a kind.
-/

namespace Bindery
namespace Html

/-- The vocabulary that an element belongs to. -/
inductive Vocabulary where
  | html
  | svg
  | math
deriving DecidableEq, Repr, Inhabited

/-- Where an attribute's name comes from. -/
inductive AttributeSpace where
  | plain
  | xmlns
  | xlink
  | xml
  | xmlnsXlink
deriving DecidableEq, Repr, Inhabited

namespace AttributeSpace

/-- What is written in front of the local name. -/
def label : AttributeSpace → String
  | plain | xmlns => ""
  | xlink => "xlink:"
  | xml => "xml:"
  | xmlnsXlink => "xmlns:"

/-- The place of a space in the order of attributes. -/
def rank : AttributeSpace → Nat
  | plain => 0
  | xmlns => 1
  | xlink => 2
  | xml => 3
  | xmlnsXlink => 4

end AttributeSpace

/-- A named value of an element. -/
structure Attribute where
  space : AttributeSpace := .plain
  name : String
  value : String
deriving DecidableEq, Repr, Inhabited

namespace Attribute

/-- Attributes are kept by space and, within a space, by name. -/
def le (a b : Attribute) : Bool :=
  a.space.rank < b.space.rank || (a.space.rank == b.space.rank && !decide (b.name < a.name))

end Attribute

/-- What an element is, apart from its children. -/
structure Element where
  vocabulary : Vocabulary := .html
  name : String
  attributes : List Attribute := []
deriving DecidableEq, Repr, Inhabited

namespace Element

/-- The value of a plain attribute. -/
def attribute? (e : Element) (name : String) : Option String :=
  (e.attributes.find? fun a => a.space == .plain && a.name == name).map Attribute.value

end Element

/-- A node of a markup tree; a fragment is a nameless container. -/
inductive Node where
  | element (head : Element) (children : List Node)
  | text (s : String)
  | comment (s : String)
  | fragment (children : List Node)
deriving Repr, Inhabited

namespace Node

/-- The children of a node. -/
def children : Node → List Node
  | element _ children | fragment children => children
  | text _ | comment _ => []

mutual

/-- The text of a node and all below it. -/
def content : Node → String
  | element _ children => contentAll children
  | fragment children => contentAll children
  | text s => s
  | comment _ => ""

/-- The text of some nodes, one after the other. -/
def contentAll : List Node → String
  | [] => ""
  | node :: rest => node.content ++ contentAll rest

end

mutual

/-- The first element that passes a test, in document order. -/
def first? (test : Element → Bool) : Node → Option Element
  | element head children => if test head then some head else firstOf? test children
  | fragment children => firstOf? test children
  | text _ | comment _ => none

/-- The first element that passes a test in a list of nodes. -/
def firstOf? (test : Element → Bool) : List Node → Option Element
  | [] => none
  | node :: rest => (node.first? test).or (firstOf? test rest)

end

end Node
end Html
end Bindery
