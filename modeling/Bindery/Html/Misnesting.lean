import Bindery.Html.Builder

/-!
# Misnested elements

An end tag may come while elements inside the one it closes are still open. For most elements those
are closed too. A formatting element is split instead: what it formats before, inside and after a
block each gets an element of its own.
-/

namespace Bindery
namespace Html
namespace Builder

/-- The elements that an end tag of another name does not close. -/
def specialNames : List String :=
  ["address", "applet", "area", "article", "aside", "base", "basefont", "bgsound", "blockquote",
    "body", "br", "button", "caption", "center", "col", "colgroup", "dd", "details", "dir", "div",
    "dl", "dt", "embed", "fieldset", "figcaption", "figure", "footer", "form", "frame", "frameset",
    "h1", "h2", "h3", "h4", "h5", "h6", "head", "header", "hgroup", "hr", "html", "iframe", "img",
    "input", "isindex", "li", "link", "listing", "main", "marquee", "menu", "meta", "nav",
    "noembed", "noframes", "noscript", "object", "ol", "p", "param", "plaintext", "pre", "script",
    "section", "select", "source", "style", "summary", "table", "tbody", "td", "template",
    "textarea", "tfoot", "th", "thead", "title", "tr", "track", "ul", "wbr", "xmp"]

/-- Whether an end tag of another name does not close an element. -/
def isSpecial (e : OpenElement) : Bool := e.isAmong specialNames

/-- The end tag of an element without rules of its own. -/
def endOther (b : Builder) (name : String) : Builder :=
  match b.stack.find? fun e => e.is name || isSpecial e with
  | some e => if e.is name then b.popThrough (·.id == e.id) else b
  | none => b

/-- The elements between a block and the formatting element around it, each made anew below the
next one; `last` is the node that hangs lowest so far. -/
def splitInner (b : Builder) (last : Nat) (after : Option Nat) :
    (count : Nat) → List OpenElement → Builder × Nat × Option Nat × List OpenElement
  | _, [] => (b, last, after, [])
  | count, e :: rest =>
    match b.formatting.find? fun entry => entry.id? == some e.id with
    | some (.element _ tag) =>
      if count < 3 then
        let (made, b) := b.create (elementOf tag)
        let b := b.replaceFormatting e.id (.element made.id tag)
        let b := { b with forest := b.forest.append made.id last }
        let after := after.or (some made.id)
        let (b, last, after, kept) := b.splitInner made.id after (count + 1) rest
        (b, last, after, made :: kept)
      else (b.removeFormatting e.id).splitInner last after (count + 1) rest
    | _ => b.splitInner last after (count + 1) rest

/-- Put the entry of a split formatting element behind the entry that follows it now, or in the
place of the old one. -/
def moveFormatting (b : Builder) (old : Nat) (after : Option Nat) (entry : Formatting) : Builder :=
  match after with
  | none => b.replaceFormatting old entry
  | some id =>
    { b with
      formatting := (b.formatting.flatMap fun e =>
        if e.id? == some id then [entry, e] else [e]).filter (·.id? != some old) }

/-- Split a formatting element around the outermost block in it. `inner` holds the elements inside
the block, the block and what is between it and the formatting element, innermost first. -/
def splitAround (b : Builder) (format : OpenElement) (tag : StartTag) (block : OpenElement)
    (inside between outside : List OpenElement) : Builder :=
  let (b, last, after, between) := b.splitInner block.id none 0 between
  let b := match outside with
    | ancestor :: _ =>
      -- Where the block goes is looked for while the old elements are still open.
      let b := { b with forest := b.forest.detach last }
      b.put (b.placeIn ancestor) last
    | [] => b
  let (made, b) := b.create (elementOf tag)
  let forest := b.forest.moveChildren block.id made.id
  let b := { b with forest := forest.append block.id made.id }
  let b := b.moveFormatting format.id after (.element made.id tag)
  { b with stack := inside ++ made :: block :: between ++ outside }

/-- One round of closing a formatting element; the flag says that there may be another round. -/
def endFormattingOnce (b : Builder) (name : String) : Builder × Bool :=
  match b.recentFormatting.find? fun (_, tag) => tag.name == name with
  | none => (b.endOther name, false)
  | some (id, tag) =>
    match b.stack.span (·.id != id) with
    | (_, []) => (b.removeFormatting id, false)
    | (inner, format :: outside) =>
      if !b.inScope endsScope (·.id == id) then (b, false)
      else
        -- The outermost special element inside the formatting element.
        match inner.reverse.span (!isSpecial ·) with
        | (_, []) => ({ b with stack := outside }.removeFormatting id, false)
        | (between, block :: inside) =>
          (b.splitAround format tag block inside.reverse between.reverse outside, true)

/-- The end tag of a formatting element. -/
def endFormatting (b : Builder) (name : String) : Builder :=
  let rec rounds : (count : Nat) → Builder → Builder
    | 0, b => b
    | count + 1, b =>
      match b.endFormattingOnce name with
      | (b, true) => rounds count b
      | (b, false) => b
  let isKept (b : Builder) (e : OpenElement) : Bool :=
    b.formatting.any fun entry => entry.id? == some e.id
  if b.current fun e => e.is name && !isKept b e then b.pop else rounds 8 b

end Builder
end Html
end Bindery
