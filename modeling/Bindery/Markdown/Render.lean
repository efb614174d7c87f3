import Bindery.Markdown.Token
import Bindery.Template.Environment
import Bindery.Text.Markup

/-!
# Rendering

A token tree is flattened into events, with a placeholder for every expression, and the events are
written as HTML. The writer starts block constructs on a line of their own, and writes the inside
of an image as the text of its `alt` attribute.
-/

namespace Bindery
namespace Markdown

/-- Highlights code: the inside of the code block for an info string and the code, or none to
write the code as it is. -/
abbrev Highlighter := String → String → Option String

/-- A highlighter that leaves all code as it is. -/
def noHighlighter : Highlighter := fun _ _ => none

/-- The events of highlighted code. -/
def highlightedEvent (info inside : String) : Event :=
  if info.isEmpty then .html ("<pre><code>" ++ inside ++ "</code></pre>\n")
  else
    .html ("<pre><code class=\"language-" ++ Text.escapeAnywhere info ++ "\">" ++ inside
      ++ "</code></pre>\n")

/-- The events of a code block. -/
def codeEvents (highlight : Highlighter) (kind : CodeKind) (content : String) (templated : Bool) :
    List Event :=
  let plain := [.startCode kind, .text content, .stopCode]
  match kind, templated with
  | .fenced info, false =>
    match highlight info content with
    | some inside => [highlightedEvent info inside]
    | none => plain
  | _, _ => plain

mutual

/-- The events of a token. Raw HTML becomes text where it is not let through. -/
def Token.flatten (raw : Bool) (highlight : Highlighter) (env : Template.Environment) :
    Token → List Event × Template.Environment
  | .element tag children =>
    let (inside, env) := flattenAll raw highlight env children
    (.start tag :: inside ++ [.stop tag], env)
  | .text text => ([.text text], env)
  | .html text => ([if raw then .html text else .text text], env)
  | .inlineHtml text => ([if raw then .inlineHtml text else .text text], env)
  | .codeBlock kind content templated => (codeEvents highlight kind content templated, env)
  | .expression source =>
    let (mark, env) := env.replace source
    ([.inlineHtml mark], env)
  | .leaf leaf => ([.leaf leaf], env)

/-- The events of tokens in order. -/
def flattenAll (raw : Bool) (highlight : Highlighter) (env : Template.Environment) :
    List Token → List Event × Template.Environment
  | [] => ([], env)
  | token :: rest =>
    let (first, env) := token.flatten raw highlight env
    let (others, env) := flattenAll raw highlight env rest
    (first ++ others, env)

end

namespace Write

/-- The entities of text between tags. -/
def bodyEntity (c : Char) : Option String :=
  match c with
  | '&' => some "&amp;"
  | '<' => some "&lt;"
  | '>' => some "&gt;"
  | _ => none

/-- The entities of text inside double quotes. -/
def attributeEntity (c : Char) : Option String :=
  match c with
  | '"' => some "&quot;"
  | '\'' => some "&#39;"
  | c => bodyEntity c

/-- Escape text between tags. -/
def escapeBody (s : String) : String := Text.escapeWith bodyEntity s

/-- Escape text inside double quotes. -/
def escapeAttribute (s : String) : String := Text.escapeWith attributeEntity s

/-- Whether a character may stand in a link target as it is. -/
def isTargetChar (c : Char) : Bool :=
  c.isAlphanum || "!#$%()*+,-./:;=?@_~".toList.contains c

/-- A byte as a percent sign and two capital digits. -/
def percent (b : UInt8) : List Char :=
  let digit (n : Nat) := (Text.hexDigit n).toUpper
  ['%', digit (b.toNat / 16), digit (b.toNat % 16)]

/-- A character of a link target. -/
def targetChar (c : Char) : List Char :=
  if isTargetChar c then [c]
  else if c = '&' then "&amp;".toList
  else if c = '\'' then "&#x27;".toList
  else (String.singleton c).toUTF8.toList.flatMap percent

/-- Escape a link target. -/
def escapeTarget (s : String) : String := String.ofList (s.toList.flatMap targetChar)

/-- The state of the writer. -/
structure Writer where
  out : String := ""
  /-- Whether the output is at the start of a line. -/
  lineStart : Bool := true
  /-- Whether the head of a table is being written. -/
  inHead : Bool := false
  alignments : List Alignment := []
  /-- The number of the next cell of the row. -/
  column : Nat := 0
  /-- The labels of footnotes in the order of their numbers. -/
  footnotes : List String := []
  /-- Inside an image: the number of constructs open in it, and its title. -/
  image : Option (Nat × String) := none
deriving Repr

namespace Writer

/-- Write markup. -/
def put (w : Writer) (s : String) : Writer :=
  if s.isEmpty then w else { w with out := w.out ++ s, lineStart := s.toList.getLast? = some '\n' }

/-- Write escaped text; it decides alone whether a line starts after it. -/
def putText (w : Writer) (escaped source : String) : Writer :=
  { w with out := w.out ++ escaped, lineStart := source.toList.getLast? = some '\n' }

/-- Write a part of markup after which the writer does not look for line starts. -/
def putInside (w : Writer) (s : String) : Writer := { w with out := w.out ++ s }

/-- Write markup on a line of its own. -/
def putLine (w : Writer) (s : String) : Writer := w.put (if w.lineStart then s else "\n" ++ s)

/-- The number of a footnote; a new one is numbered next. -/
def footnote (w : Writer) (label : String) : Nat × Writer :=
  match w.footnotes.findIdx? (· = label) with
  | some i => (i + 1, w)
  | none => (w.footnotes.length + 1, { w with footnotes := w.footnotes ++ [label] })

/-- The attribute for an id. -/
def idAttribute : Option String → String
  | some id => " id=\"" ++ escapeAttribute id ++ "\""
  | none => ""

/-- The attribute for classes. -/
def classAttribute : List String → String
  | [] => ""
  | classes => " class=\"" ++ " ".intercalate (classes.map escapeAttribute) ++ "\""

/-- An attribute with a value, which may be left out. -/
def namedAttribute (named : String × Option String) : String :=
  " " ++ escapeAttribute named.1 ++ "=\"" ++ escapeAttribute (named.2.getD "") ++ "\""

/-- The opening tag of a heading. -/
def headingTag (level : Nat) (attributes : HeadingAttributes) : String :=
  "<h" ++ toString level ++ idAttribute attributes.id ++ classAttribute attributes.classes
    ++ String.join (attributes.attrs.map namedAttribute) ++ ">"

/-- The title attribute of a link or image, after the quote of the attribute before it. -/
def titleAttribute (title : String) : String :=
  if title.isEmpty then "" else "\" title=\"" ++ escapeAttribute title

/-- The style of a cell. -/
def cellStyle : Option Alignment → String
  | some .left => " style=\"text-align: left\">"
  | some .center => " style=\"text-align: center\">"
  | some .right => " style=\"text-align: right\">"
  | _ => ">"

/-- The name of a cell. -/
def cellName (w : Writer) : String := if w.inHead then "th" else "td"

/-- Open a construct. -/
def start (w : Writer) : Tag → Writer
  | .htmlBlock => w
  | .paragraph => w.putLine "<p>"
  | .heading level attributes => w.putLine (headingTag level attributes)
  | .table alignments => { w with alignments }.put "<table>"
  | .tableHead => { w with inHead := true, column := 0 }.put "<thead><tr>"
  | .tableRow => { w with column := 0 }.put "<tr>"
  | .tableCell => w.put ("<" ++ w.cellName ++ cellStyle w.alignments[w.column]?)
  | .blockQuote => w.putLine "<blockquote>\n"
  | .list (some 1) => w.putLine "<ol>\n"
  | .list (some n) => w.putLine ("<ol start=\"" ++ toString n ++ "\">\n")
  | .list none => w.putLine "<ul>\n"
  | .item => w.putLine "<li>"
  | .emphasis => w.put "<em>"
  | .strong => w.put "<strong>"
  | .strikethrough => w.put "<del>"
  | .link target =>
    let scheme := if target.kind = .email then "mailto:" else ""
    w.put ("<a href=\"" ++ scheme ++ escapeTarget target.dest ++ titleAttribute target.title
      ++ "\">")
  | .image target =>
    { w.put ("<img src=\"" ++ escapeTarget target.dest ++ "\" alt=\"") with
      image := some (0, target.title) }
  | .footnoteDefinition label =>
    let w := w.putLine ("<div class=\"footnote-definition\" id=\"" ++ escapeAttribute label
      ++ "\"><sup class=\"footnote-definition-label\">")
    let (number, w) := w.footnote label
    w.put (toString number ++ "</sup>")

/-- Close a construct. -/
def stop (w : Writer) : Tag → Writer
  | .htmlBlock => w
  | .paragraph => w.put "</p>\n"
  | .heading level _ => w.put ("</h" ++ toString level ++ ">\n")
  | .table _ => w.put "</tbody></table>\n"
  | .tableHead => { w.put "</tr></thead><tbody>\n" with inHead := false }
  | .tableRow => w.put "</tr>\n"
  | .tableCell => { w.put ("</" ++ w.cellName ++ ">") with column := w.column + 1 }
  | .blockQuote => w.put "</blockquote>\n"
  | .list (some _) => w.put "</ol>\n"
  | .list none => w.put "</ul>\n"
  | .item => w.put "</li>\n"
  | .emphasis => w.put "</em>"
  | .strong => w.put "</strong>"
  | .strikethrough => w.put "</del>"
  | .link _ => w.put "</a>"
  | .image _ => w
  | .footnoteDefinition _ => w.put "</div>\n"

/-- Open a code block. The language is the first word of the info string. -/
def startCode (w : Writer) (kind : CodeKind) : Writer :=
  let language := match kind with
    | .indented => ""
    | .fenced info => String.ofList (info.toList.takeWhile (· ≠ ' '))
  w.putLine (if language.isEmpty then "<pre><code>"
    else "<pre><code class=\"language-" ++ escapeAttribute language ++ "\">")

/-- Write a construct without children. -/
def leaf (w : Writer) : Leaf → Writer
  | .code text => w.put ("<code>" ++ escapeBody text ++ "</code>")
  | .softBreak => w.put "\n"
  | .hardBreak => w.put "<br />\n"
  | .rule => w.putLine "<hr />\n"
  | .footnoteReference label =>
    let (number, w) := w.footnote label
    w.put ("<sup class=\"footnote-reference\"><a href=\"#" ++ escapeAttribute label ++ "\">"
      ++ toString number ++ "</a></sup>")
  | .taskListMarker true => w.put "<input disabled=\"\" type=\"checkbox\" checked=\"\"/>\n"
  | .taskListMarker false => w.put "<input disabled=\"\" type=\"checkbox\"/>\n"

/-- Read an event inside an image with `depth` constructs open in it. -/
def imageStep (w : Writer) (depth : Nat) (title : String) : Event → Writer
  | .start _ => { w with image := some (depth + 1, title) }
  | .startCode _ => { w with image := some (depth + 1, title) }
  | .stop _ =>
    match depth with
    | 0 => { w with image := none }.put (titleAttribute title ++ "\" />")
    | depth + 1 => { w with image := some (depth, title) }
  | .stopCode =>
    match depth with
    | 0 => { w with image := none }.put (titleAttribute title ++ "\" />")
    | depth + 1 => { w with image := some (depth, title) }
  | .html _ => w
  | .inlineHtml text => w.putText (escapeAttribute text) text
  | .text text => w.putText (escapeAttribute text) text
  | .leaf (.code text) => w.putText (escapeAttribute text) text
  | .leaf .softBreak => w.put " "
  | .leaf .hardBreak => w.put " "
  | .leaf .rule => w.put " "
  | .leaf (.footnoteReference label) =>
    let (number, w) := w.footnote label
    w.putInside ("[" ++ toString number ++ "]")
  | .leaf (.taskListMarker checked) => w.put (if checked then "[x]" else "[ ]")

/-- Read an event. -/
def step (w : Writer) (event : Event) : Writer :=
  match w.image with
  | some (depth, title) => w.imageStep depth title event
  | none =>
    match event with
    | .start tag => w.start tag
    | .stop tag => w.stop tag
    | .startCode kind => w.startCode kind
    | .stopCode => w.put "</code></pre>\n"
    | .text text => w.putText (escapeBody text) text
    | .html text => w.put text
    | .inlineHtml text => w.put text
    | .leaf l => w.leaf l

end Writer

/-- The HTML of a sequence of events. -/
def html (events : List Event) : String := (events.foldl Writer.step {}).out

end Write

/-- Render tokens as HTML, with a placeholder for every expression. -/
def render (settings : Settings) (highlight : Highlighter) (env : Template.Environment)
    (tokens : List Token) : String × Template.Environment :=
  let (events, env) := flattenAll settings.html highlight env tokens
  (Write.html events, env)

end Markdown
end Bindery
