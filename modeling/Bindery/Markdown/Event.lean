/-!
# The vocabulary of documents

Settings of the grammar, the constructs of a document, and the flat sequence of events that a
document is read as: opened and closed constructs with text between them.
-/

namespace Bindery
namespace Markdown

/-- Which extensions of the grammar are on, and whether raw HTML passes through. -/
structure Settings where
  html : Bool := true
  tables : Bool := true
  footnotes : Bool := false
  strikethrough : Bool := true
  tasklists : Bool := true
  headingAttributes : Bool := false
  smartPunctuation : Bool := false
deriving DecidableEq, Repr, Inhabited

/-- How the text of a table column is aligned. -/
inductive Alignment where
  | none
  | left
  | center
  | right
deriving DecidableEq, Repr

/-- How a link was written. -/
inductive LinkKind where
  | inline
  | reference
  | collapsed
  | shortcut
  | autolink
  | email
deriving DecidableEq, Repr

namespace LinkKind

/-- The name of a kind of link. -/
def name : LinkKind → String
  | .inline => "Inline"
  | .reference => "Reference"
  | .collapsed => "Collapsed"
  | .shortcut => "Shortcut"
  | .autolink => "Autolink"
  | .email => "Email"

end LinkKind

/-- The target of a link or an image. -/
structure Target where
  kind : LinkKind
  dest : String
  title : String
  /-- The label under which the target was looked up; empty for an inline link. -/
  id : String
deriving DecidableEq, Repr

/-- The id, classes and further attributes of a heading. -/
structure HeadingAttributes where
  id : Option String := .none
  classes : List String := []
  attrs : List (String × Option String) := []
deriving DecidableEq, Repr, Inhabited

/-- A construct that encloses others. -/
inductive Tag where
  | paragraph
  | heading (level : Nat) (attributes : HeadingAttributes)
  | blockQuote
  | htmlBlock
  | list (start : Option Nat)
  | item
  | footnoteDefinition (label : String)
  | table (alignments : List Alignment)
  | tableHead
  | tableRow
  | tableCell
  | emphasis
  | strong
  | strikethrough
  | link (target : Target)
  | image (target : Target)
deriving DecidableEq, Repr

/-- How a code block was written; a fenced one has an info string. -/
inductive CodeKind where
  | indented
  | fenced (info : String)
deriving DecidableEq, Repr

/-- A construct without children. -/
inductive Leaf where
  | code (text : String)
  | footnoteReference (label : String)
  | taskListMarker (checked : Bool)
  | softBreak
  | hardBreak
  | rule
deriving DecidableEq, Repr

/-- One step through a document. -/
inductive Event where
  | start (tag : Tag)
  | stop (tag : Tag)
  | startCode (kind : CodeKind)
  | stopCode
  | text (text : String)
  | html (text : String)
  | inlineHtml (text : String)
  | leaf (leaf : Leaf)
deriving DecidableEq, Repr

end Markdown
end Bindery
