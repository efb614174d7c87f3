import Bindery.Html.Node
import Bindery.Text.Markup

/-!
# The written form of markup trees

A tree is written with double quotes around attribute values, without end tags for void elements,
and with the text of scripts and the like as it is.
-/

namespace Bindery
namespace Html

/-- The entities of text between tags. -/
def textEntity (c : Char) : Option String :=
  match c with
  | '&' => some "&amp;"
  | '\u00a0' => some "&nbsp;"
  | '<' => some "&lt;"
  | '>' => some "&gt;"
  | _ => none

/-- The entities of an attribute value. -/
def valueEntity (c : Char) : Option String :=
  match c with
  | '&' => some "&amp;"
  | '\u00a0' => some "&nbsp;"
  | '"' => some "&quot;"
  | _ => none

/-- The elements that have neither content nor an end tag. -/
def voidNames : List String :=
  ["area", "base", "basefont", "bgsound", "br", "col", "embed", "frame", "hr", "img", "input",
    "keygen", "link", "meta", "param", "source", "track", "wbr"]

/-- The elements whose text is written as it is. -/
def rawTextNames : List String :=
  ["style", "script", "xmp", "iframe", "noembed", "noframes", "noscript", "plaintext"]

namespace Attribute

/-- An attribute after a space. -/
def print (a : Attribute) : String :=
  " " ++ a.space.label ++ a.name ++ "=\"" ++ Text.escapeWith valueEntity a.value ++ "\""

end Attribute

namespace Element

/-- Whether an element has neither content nor an end tag. -/
def isVoid (e : Element) : Bool := e.vocabulary == .html && voidNames.contains e.name

/-- Whether the text of an element is written as it is. -/
def isRawText (e : Element) : Bool := e.vocabulary == .html && rawTextNames.contains e.name

/-- The start tag of an element. -/
def startTag (e : Element) : String :=
  "<" ++ e.name ++ String.join (e.attributes.map Attribute.print) ++ ">"

/-- The end tag of an element. -/
def endTag (e : Element) : String := "</" ++ e.name ++ ">"

end Element

namespace Node

mutual

/-- Write a node; `raw` says that text is written as it is. -/
def print (raw : Bool) : Node → String
  | text s => if raw then s else Text.escapeWith textEntity s
  | comment s => "<!--" ++ s ++ "-->"
  | element head children =>
    if head.isVoid then head.startTag
    else head.startTag ++ printAll head.isRawText children ++ head.endTag
  | fragment children => printAll false children

/-- Write some nodes, one after the other. -/
def printAll (raw : Bool) : List Node → String
  | [] => ""
  | node :: rest => node.print raw ++ printAll raw rest

end

/-- The children of a node, written. -/
def inner (node : Node) : String := printAll false node.children

/-- An element as it is written, or the text of a text node as it is. -/
def outer : Node → String
  | text s => s
  | node@(element _ _) => node.print false
  | comment _ | fragment _ => ""

end Node
end Html
end Bindery
