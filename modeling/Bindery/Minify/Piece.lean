import Bindery.Html.Printer
import Bindery.Html.Token

/-!
# Markup as written

Small markup has to stay what it is, so it is made from what is written and not from the tree that
a reader of the markup would build: a document type stays, and an element has an end tag only if it
was written with one.
-/

namespace Bindery
namespace Minify

/-- A piece of written markup. -/
inductive Piece where
  | element (tag : Html.StartTag) (children : List Piece) (isClosed : Bool)
  | text (s : String)
  | raw (s : String)
  | comment
  | doctype
deriving Inhabited

/-- The element that encloses what is being read, with its children so far, the last one first. -/
structure Frame where
  tag : Html.StartTag
  children : List Piece := []
deriving Inhabited

/-- What is being read: the pieces outside every element, and the open elements, the innermost
one first; both have the last piece first. -/
structure Reading where
  outside : List Piece := []
  frames : List Frame := []
deriving Inhabited

namespace Reading

/-- Add a piece inside the innermost element. -/
def add (r : Reading) (piece : Piece) : Reading :=
  match r.frames with
  | [] => { r with outside := piece :: r.outside }
  | frame :: rest => { r with frames := { frame with children := piece :: frame.children } :: rest }

/-- End the innermost element. -/
def pop (r : Reading) (isClosed : Bool) : Reading :=
  match r.frames with
  | [] => r
  | frame :: rest =>
    add { r with frames := rest } (.element frame.tag frame.children.reverse isClosed)

/-- End elements up to and with the innermost one of a name, which has an end tag. -/
def close (r : Reading) (name : String) : Reading :=
  let inner := r.frames.takeWhile (·.tag.name ≠ name)
  if inner.length < r.frames.length then (inner.foldl (fun r _ => r.pop false) r).pop true else r

/-- The elements whose start ends a paragraph. -/
def blockNames : List String :=
  ["address", "article", "aside", "blockquote", "details", "div", "dl", "fieldset", "figcaption",
    "figure", "footer", "form", "h1", "h2", "h3", "h4", "h5", "h6", "header", "hgroup", "hr",
    "main", "menu", "nav", "ol", "p", "pre", "section", "table", "ul"]

/-- The elements whose start ends an element that has no end tag. -/
def endedBy : (name : String) → List String
  | "p" => blockNames
  | "li" => ["li"]
  | "dt" | "dd" => ["dt", "dd"]
  | "tr" => ["tr", "tbody", "tfoot"]
  | "td" | "th" => ["td", "th", "tr", "tbody", "tfoot"]
  | "thead" | "tbody" => ["tbody", "tfoot"]
  | "option" => ["option", "optgroup"]
  | "optgroup" => ["optgroup"]
  | "rt" | "rp" => ["rt", "rp"]
  | _ => []

/-- End the elements that the start of another one ends. -/
def makeWay (r : Reading) (name : String) : Reading :=
  let ended := r.frames.takeWhile fun frame => (endedBy frame.tag.name).contains name
  ended.foldl (fun r _ => r.pop false) r

/-- Begin an element. -/
def begin (r : Reading) (tag : Html.StartTag) : Reading :=
  let r := r.makeWay tag.name
  if Html.voidNames.contains tag.name then r.add (.element tag [] false)
  else { r with frames := { tag } :: r.frames }

/-- How the text inside the innermost element is read. -/
def mode (r : Reading) : Html.Reading :=
  match r.frames with
  | [] => .markup
  | frame :: _ =>
    match frame.tag.name with
    | "textarea" => .escapable "textarea"
    | "title" => .escapable "title"
    | "script" => .script
    | "style" => .raw "style"
    | _ => .markup

/-- Take in a token. -/
def token (r : Reading) : Html.Token → Reading
  | .start tag => r.begin tag
  | .stop name => r.close name
  | .text run =>
    let s := String.ofList run
    match r.mode with
    | .script | .raw _ => r.add (.raw s)
    | _ => r.add (.text s)
  | .comment _ => r.add .comment
  | .null => r.add (.text "\x00")

/-- Whether a document type stands here. -/
def atDoctype (s : List Char) : Bool :=
  s.take 2 = ['<', '!'] && Html.Lexer.lowerName ((s.drop 2).take 7) == "doctype"

/-- Read markup to its end. -/
def run : (fuel : Nat) → Reading → List Char → Reading
  | 0, r, _ => r
  | fuel + 1, r, s =>
    let r := if atDoctype s then r.add .doctype else r
    match Html.nextTokens r.mode false s with
    | none => r
    | some (tokens, rest) => run fuel (tokens.foldl token r) rest

end Reading

/-- The pieces of a markup text. -/
def pieces (markup : String) : List Piece :=
  let s := markup.toList
  let r := Reading.run (s.length + 1) {} s
  (r.frames.foldl (fun r _ => r.pop false) r).outside.reverse

end Minify
end Bindery
