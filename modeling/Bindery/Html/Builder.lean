import Bindery.Html.Forest
import Bindery.Html.Token

/-!
# The state of tree construction

The elements that are still open form a stack. Formatting elements are also kept in a list of their
own, because one that was closed by the end of a block goes on in the next block. This module holds
that state and the operations on it that do not look at tokens.
-/

namespace Bindery
namespace Html

/-- An element that is still open. -/
structure OpenElement where
  id : Nat
  vocabulary : Vocabulary := .html
  name : String
deriving DecidableEq, Repr, Inhabited

namespace OpenElement

/-- Whether this is an element of documents with a given name. -/
def is (e : OpenElement) (name : String) : Bool := e.vocabulary == .html && e.name == name

/-- Whether this is an element of documents with one of some names. -/
def isAmong (e : OpenElement) (names : List String) : Bool :=
  e.vocabulary == .html && names.contains e.name

/-- The formula elements that hold text. -/
def holdsFormulaText (e : OpenElement) : Bool :=
  e.vocabulary == .math && ["mi", "mo", "mn", "ms", "mtext"].contains e.name

/-- The drawing elements that hold document content. -/
def holdsDocument (e : OpenElement) : Bool :=
  e.vocabulary == .svg && ["foreignObject", "desc", "title"].contains e.name

end OpenElement

/-- An entry of the list of formatting elements. -/
inductive Formatting where
  | marker
  | element (id : Nat) (tag : StartTag)
deriving Repr, Inhabited

namespace Formatting

/-- The place of the element of an entry. -/
def id? : Formatting → Option Nat
  | marker => none
  | element id _ => some id

end Formatting

/-- What part of a document is being read. -/
inductive Mode where
  | inBody
  | inRawText
  | inTable
  | inTableText
  | inCaption
  | inColumns
  | inTableBody
  | inRow
  | inCell
  | inSelect
  | inSelectInTable
  | inTemplate
deriving DecidableEq, Repr, Inhabited

/-- The state of tree construction; the latest entry of each list comes first. -/
structure Builder where
  forest : Forest
  stack : List OpenElement
  formatting : List Formatting := []
  mode : Mode := .inBody
  /-- The mode to go back to after text that is read in a way of its own. -/
  resumed : Mode := .inBody
  templates : List Mode := []
  form : Option Nat := none
  fostering : Bool := false
  tableText : List Char := []
  skipLineFeed : Bool := false
  reading : Reading := .markup
deriving Inhabited

namespace Builder

/-- The place of the outermost element. -/
def rootId : Nat := 0

/-- An empty document. -/
def empty : Builder :=
  let (id, forest) := ({} : Forest).create (.element { name := "html" })
  { forest, stack := [{ id, name := "html" }] }

/-! ## Scopes -/

/-- The elements that an end tag does not reach through. -/
def endsScope (e : OpenElement) : Bool :=
  e.isAmong ["applet", "caption", "html", "table", "td", "th", "marquee", "object", "template"] ||
    e.holdsFormulaText || e.holdsDocument

/-- As `endsScope`, for list items. -/
def endsListScope (e : OpenElement) : Bool := endsScope e || e.isAmong ["ol", "ul"]

/-- As `endsScope`, for paragraphs. -/
def endsButtonScope (e : OpenElement) : Bool := endsScope e || e.is "button"

/-- As `endsScope`, for the parts of a table. -/
def endsTableScope (e : OpenElement) : Bool := e.isAmong ["html", "table", "template"]

/-- As `endsScope`, for selections. -/
def endsSelectScope (e : OpenElement) : Bool := !e.isAmong ["optgroup", "option"]

/-- Whether an open element that passes a test is in scope. -/
def inScope (b : Builder) (stops test : OpenElement → Bool) : Bool :=
  let rec go : List OpenElement → Bool
    | [] => false
    | e :: rest => test e || (!stops e && go rest)
  go b.stack

/-- Whether an element of a name is in the ordinary scope. -/
def hasInScope (b : Builder) (name : String) : Bool := b.inScope endsScope (·.is name)

/-- Whether an element of a name is in table scope. -/
def hasInTableScope (b : Builder) (name : String) : Bool := b.inScope endsTableScope (·.is name)

/-- Whether an element of a name is open. -/
def isOpen (b : Builder) (name : String) : Bool := b.stack.any (·.is name)

/-! ## The stack -/

/-- Whether the innermost element passes a test. -/
def current (b : Builder) (test : OpenElement → Bool) : Bool := b.stack.head?.any test

/-- Close the innermost element. -/
def pop (b : Builder) : Builder := { b with stack := b.stack.drop 1 }

/-- Close elements while the innermost one passes a test. -/
def popWhile (b : Builder) (test : OpenElement → Bool) : Builder :=
  { b with stack := b.stack.dropWhile test }

/-- Close elements up to and with the first one that passes a test. -/
def popThrough (b : Builder) (test : OpenElement → Bool) : Builder :=
  (b.popWhile fun e => !test e).pop

/-- Close elements up to and with the first one of a name. -/
def popNamed (b : Builder) (name : String) : Builder := b.popThrough (·.is name)

/-- Take an element out of the stack wherever it stands. -/
def removeOpen (b : Builder) (id : Nat) : Builder :=
  { b with stack := b.stack.filter (·.id != id) }

/-- The elements that end without an end tag. -/
def impliedEnds : List String :=
  ["dd", "dt", "li", "option", "optgroup", "p", "rb", "rp", "rt", "rtc"]

/-- The elements that end without an end tag at the end of a template. -/
def allImpliedEnds : List String :=
  impliedEnds ++ ["caption", "colgroup", "tbody", "td", "tfoot", "th", "thead", "tr"]

/-- Close the elements that end without an end tag. -/
def closeImplied (b : Builder) : Builder := b.popWhile (·.isAmong impliedEnds)

/-- As `closeImplied`, but not elements of one name. -/
def closeImpliedExcept (b : Builder) (name : String) : Builder :=
  b.popWhile fun e => e.isAmong impliedEnds && !e.is name

/-- Close a paragraph with all in it. -/
def closeParagraph (b : Builder) : Builder := (b.closeImpliedExcept "p").popNamed "p"

/-- Whether a paragraph is open that a block would end. -/
def hasParagraph (b : Builder) : Bool := b.inScope endsButtonScope (·.is "p")

/-- Close the paragraph that a block ends, if there is one. -/
def endParagraph (b : Builder) : Builder := if b.hasParagraph then b.closeParagraph else b

/-! ## Insertion -/

/-- Where new content goes. -/
inductive Place where
  | lastIn (id : Nat)
  | before (table outer : Nat)
deriving Repr

/-- Where new content goes inside an element; content that does not belong into a table goes before
it while fostering is on. -/
def placeIn (b : Builder) (target : OpenElement) : Place :=
  let rec foster : List OpenElement → Place
    | [] => .lastIn rootId
    | e :: rest =>
      if e.is "template" then .lastIn e.id
      else if e.is "table" then .before e.id ((rest.head?.map (·.id)).getD rootId)
      else foster rest
  if b.fostering && target.isAmong ["table", "tbody", "tfoot", "thead", "tr"] then foster b.stack
  else .lastIn target.id

/-- Where new content goes now. -/
def place (b : Builder) : Place :=
  match b.stack with
  | [] => .lastIn rootId
  | e :: _ => b.placeIn e

/-- Put a node at a place. -/
def put (b : Builder) (place : Place) (id : Nat) : Builder :=
  { b with forest := match place with
    | .lastIn parent => b.forest.append parent id
    | .before table outer =>
      if (b.forest.parent? table).isSome then b.forest.insertBefore table id
      else b.forest.append outer id }

/-- Add text to the current element. -/
def addText (b : Builder) (s : List Char) : Builder :=
  if s.isEmpty then b
  else
    let s := String.ofList s
    { b with forest := match b.place with
      | .lastIn parent => b.forest.appendText parent s
      | .before table outer =>
        if (b.forest.parent? table).isSome then b.forest.insertTextBefore table s
        else b.forest.appendText outer s }

/-- Add a comment to the current element. -/
def addComment (b : Builder) (s : List Char) : Builder :=
  let (id, forest) := b.forest.create (.comment (String.ofList s))
  { b with forest }.put b.place id

/-- Make an element that hangs nowhere. -/
def create (b : Builder) (head : Element) : OpenElement × Builder :=
  let head := { head with attributes := head.attributes.mergeSort Attribute.le }
  let (id, forest) := b.forest.create (.element head)
  ({ id, vocabulary := head.vocabulary, name := head.name }, { b with forest })

/-- The element of a tag of documents. -/
def elementOf (tag : StartTag) : Element :=
  { name := tag.name, attributes := tag.attributes.map fun (name, value) => { name, value } }

/-- Add an element without opening it. -/
def addElement (b : Builder) (head : Element) : OpenElement × Builder :=
  let place := b.place
  let (e, b) := b.create head
  (e, b.put place e.id)

/-- Add an element and open it. -/
def openElement (b : Builder) (head : Element) : OpenElement × Builder :=
  let (e, b) := b.addElement head
  (e, { b with stack := e :: b.stack })

/-- Add the element of a tag and open it. -/
def insert (b : Builder) (tag : StartTag) : Builder := (b.openElement (elementOf tag)).2

/-- Add the element of a tag that holds nothing. -/
def insertVoid (b : Builder) (tag : StartTag) : Builder := (b.addElement (elementOf tag)).2

/-- Add an element whose text is read in a way of its own. -/
def insertRaw (b : Builder) (tag : StartTag) (reading : Reading) : Builder :=
  { b.insert tag with mode := .inRawText, resumed := b.mode, reading }

/-! ## Formatting elements -/

/-- Forget the formatting elements since the last marker. -/
def clearToMarker (b : Builder) : Builder :=
  let isElement : Formatting → Bool
    | .marker => false
    | .element _ _ => true
  { b with formatting := (b.formatting.dropWhile isElement).drop 1 }

/-- Keep the formatting elements from here on apart from the earlier ones. -/
def addMarker (b : Builder) : Builder := { b with formatting := .marker :: b.formatting }

/-- The formatting elements since the last marker, the latest first. -/
def recentFormatting (b : Builder) : List (Nat × StartTag) :=
  let rec go : List Formatting → List (Nat × StartTag)
    | .element id tag :: rest => (id, tag) :: go rest
    | _ => []
  go b.formatting

/-- Forget a formatting element. -/
def removeFormatting (b : Builder) (id : Nat) : Builder :=
  { b with formatting := b.formatting.filter (·.id? != some id) }

/-- Put another entry in the place of a formatting element. -/
def replaceFormatting (b : Builder) (id : Nat) (entry : Formatting) : Builder :=
  { b with formatting := b.formatting.map fun e => if e.id? == some id then entry else e }

/-- Open again the formatting elements that the end of a block has closed. -/
def reopenFormatting (b : Builder) : Builder :=
  let isClosed : Formatting → Bool
    | .marker => false
    | .element id _ => !b.stack.any (·.id == id)
  (b.formatting.takeWhile isClosed).reverse.foldl (fun b entry =>
    match entry with
    | .marker => b
    | .element id tag =>
      let (e, b) := b.openElement (elementOf tag)
      b.replaceFormatting id (.element e.id tag)) b

/-- Whether two tags open the same formatting. -/
def sameFormatting (a b : StartTag) : Bool :=
  a.name == b.name && a.attributes.length == b.attributes.length &&
    a.attributes.all b.attributes.contains

/-- Open a formatting element. Of equal ones only the latest three are kept. -/
def insertFormatting (b : Builder) (tag : StartTag) : Builder :=
  let equal := b.recentFormatting.filter fun (_, other) => sameFormatting tag other
  let b := match (equal.drop 2).getLast? with
    | some (id, _) => b.removeFormatting id
    | none => b
  let (e, b) := b.openElement (elementOf tag)
  { b with formatting := .element e.id tag :: b.formatting }

/-! ## Which mode follows from the stack -/

/-- The mode that the open elements call for; the outermost one stands for the body. -/
def modeOf (templates : List Mode) : List OpenElement → Mode
  | [] | [_] => .inBody
  | e :: rest =>
    if e.is "select" then
      match (rest.find? fun a => a.isAmong ["template", "table"]) with
      | some a => if a.is "table" then .inSelectInTable else .inSelect
      | none => .inSelect
    else if e.isAmong ["td", "th"] then .inCell
    else if e.is "tr" then .inRow
    else if e.isAmong ["tbody", "thead", "tfoot"] then .inTableBody
    else if e.is "caption" then .inCaption
    else if e.is "colgroup" then .inColumns
    else if e.is "table" then .inTable
    else if e.is "template" then templates.head?.getD .inBody
    else modeOf templates rest

/-- Take the mode that the open elements call for. -/
def resetMode (b : Builder) : Builder := { b with mode := modeOf b.templates b.stack }

end Builder
end Html
end Bindery
