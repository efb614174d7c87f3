import Bindery.Html.Misnesting

/-!
# Tags in a document's body

How the body of a document grows by a tag. A block ends an open paragraph, a heading ends an open
heading, an item ends the item before it.
-/

namespace Bindery
namespace Html
namespace Builder

/-- The blocks whose start tag does nothing but end a paragraph. -/
def blockNames : List String :=
  ["address", "article", "aside", "blockquote", "center", "details", "dialog", "dir", "div", "dl",
    "fieldset", "figcaption", "figure", "footer", "header", "hgroup", "main", "menu", "nav", "ol",
    "p", "search", "section", "summary", "ul"]

/-- The elements whose end tag closes all in them that ends by itself. -/
def closingNames : List String :=
  ["address", "article", "aside", "blockquote", "button", "center", "details", "dialog", "dir",
    "div", "dl", "fieldset", "figcaption", "figure", "footer", "header", "hgroup", "listing",
    "main", "menu", "nav", "ol", "pre", "search", "section", "summary", "ul"]

/-- The headings. -/
def headingNames : List String := ["h1", "h2", "h3", "h4", "h5", "h6"]

/-- The elements that format text. -/
def formattingNames : List String :=
  ["b", "big", "code", "em", "font", "i", "s", "small", "strike", "strong", "tt", "u"]

/-- The elements that belong into a document's head and are read there by its rules. -/
def headNames : List String :=
  ["base", "basefont", "bgsound", "link", "meta", "noframes", "script", "style", "template",
    "title"]

/-- The parts of documents and tables whose tags mean nothing in a body. -/
def strayNames : List String :=
  ["caption", "col", "colgroup", "frame", "head", "tbody", "td", "tfoot", "th", "thead", "tr"]

/-- A start tag that belongs into a document's head. -/
def startInHead (b : Builder) (tag : StartTag) : Builder :=
  match tag.name with
  | "title" => b.insertRaw tag (.escapable "title")
  | "script" => b.insertRaw tag .script
  | "style" | "noframes" => b.insertRaw tag (.raw tag.name)
  | "template" =>
    { b.addMarker.insert tag with mode := .inTemplate, templates := .inTemplate :: b.templates }
  | _ => b.insertVoid tag

/-- The end tag of a template. -/
def endTemplate (b : Builder) : Builder :=
  if b.isOpen "template" then
    let b := ((b.popWhile (·.isAmong allImpliedEnds)).popNamed "template").clearToMarker
    { b with templates := b.templates.drop 1 }.resetMode
  else b

/-- The start tag of an item; it ends the item before it in the same list. -/
def startItem (b : Builder) (tag : StartTag) : Builder :=
  let siblings := if tag.name == "li" then ["li"] else ["dd", "dt"]
  let isBarrier (e : OpenElement) : Bool := isSpecial e && !e.isAmong ["address", "div", "p"]
  let b := match b.stack.find? fun e => e.isAmong siblings || isBarrier e with
    | some e => if e.isAmong siblings then (b.closeImpliedExcept e.name).popNamed e.name else b
    | none => b
  b.endParagraph.insert tag

/-- The start tag of a link; a link ends the link before it. -/
def startAnchor (b : Builder) (tag : StartTag) : Builder :=
  let b := match b.recentFormatting.find? fun (_, other) => other.name == "a" with
    | some (id, _) => ((b.endFormatting "a").removeFormatting id).removeOpen id
    | none => b
  b.reopenFormatting.insertFormatting tag

/-- The attribute names that hold a capital in drawings. -/
def drawingAttributes : List String :=
  ["attributeName", "attributeType", "baseFrequency", "baseProfile", "calcMode", "clipPathUnits",
    "diffuseConstant", "edgeMode", "filterUnits", "glyphRef", "gradientTransform",
    "gradientUnits", "kernelMatrix", "kernelUnitLength", "keyPoints", "keySplines", "keyTimes",
    "lengthAdjust", "limitingConeAngle", "markerHeight", "markerUnits", "markerWidth",
    "maskContentUnits", "maskUnits", "numOctaves", "pathLength", "patternContentUnits",
    "patternTransform", "patternUnits", "pointsAtX", "pointsAtY", "pointsAtZ", "preserveAlpha",
    "preserveAspectRatio", "primitiveUnits", "refX", "refY", "repeatCount", "repeatDur",
    "requiredExtensions", "requiredFeatures", "specularConstant", "specularExponent",
    "spreadMethod", "startOffset", "stdDeviation", "stitchTiles", "surfaceScale",
    "systemLanguage", "tableValues", "targetX", "targetY", "textLength", "viewBox", "viewTarget",
    "xChannelSelector", "yChannelSelector", "zoomAndPan"]

/-- The element names that hold a capital in drawings. -/
def drawingNames : List String :=
  ["altGlyph", "altGlyphDef", "altGlyphItem", "animateColor", "animateMotion",
    "animateTransform", "clipPath", "feBlend", "feColorMatrix", "feComponentTransfer",
    "feComposite", "feConvolveMatrix", "feDiffuseLighting", "feDisplacementMap",
    "feDistantLight", "feDropShadow", "feFlood", "feFuncA", "feFuncB", "feFuncG", "feFuncR",
    "feGaussianBlur", "feImage", "feMerge", "feMergeNode", "feMorphology", "feOffset",
    "fePointLight", "feSpecularLighting", "feSpotLight", "feTile", "feTurbulence",
    "foreignObject", "glyphRef", "linearGradient", "radialGradient", "textPath"]

/-- The spelling of a name that was read in small letters. -/
def spelling (known : List String) (name : String) : String :=
  (known.find? fun k => k.map Char.toLower == name).getD name

/-- An attribute of an element that is not of a document. -/
def foreignAttribute (vocabulary : Vocabulary) (name value : String) : Attribute :=
  let name := match vocabulary with
    | .svg => spelling drawingAttributes name
    | .math => spelling ["definitionURL"] name
    | .html => name
  let linkNames := ["actuate", "arcrole", "href", "role", "show", "title", "type"]
  match name.splitOn ":" with
  | ["xmlns"] => { space := .xmlns, name, value }
  | ["xmlns", "xlink"] => { space := .xmlnsXlink, name := "xlink", value }
  | ["xlink", local_] =>
    if linkNames.contains local_ then { space := .xlink, name := local_, value }
    else { name, value }
  | ["xml", local_] =>
    if ["lang", "space"].contains local_ then { space := .xml, name := local_, value }
    else { name, value }
  | _ => { name, value }

/-- Add an element that is not of a document. -/
def insertForeign (b : Builder) (vocabulary : Vocabulary) (tag : StartTag) : Builder :=
  let head : Element :=
    { vocabulary, name := tag.name,
      attributes := tag.attributes.map fun (name, value) =>
        foreignAttribute vocabulary name value }
  if tag.selfClosing then (b.addElement head).2 else (b.openElement head).2

/-- The start tag of a list of choices. -/
def startSelect (b : Builder) (tag : StartTag) : Builder :=
  let inTable := [Mode.inTable, .inCaption, .inTableBody, .inRow, .inCell].contains b.mode
  { b.reopenFormatting.insert tag with mode := if inTable then .inSelectInTable else .inSelect }

/-- A start tag in a body. -/
def startInBody (b : Builder) (tag : StartTag) : Builder :=
  let name := tag.name
  if name == "html" then
    if b.isOpen "template" then b
    else { b with forest := b.forest.addAttributes rootId (elementOf tag).attributes }
  else if headNames.contains name then b.startInHead tag
  else if name == "body" || name == "frameset" || strayNames.contains name then b
  else if blockNames.contains name then b.endParagraph.insert tag
  else if headingNames.contains name then
    let b := b.endParagraph
    (if b.current (·.isAmong headingNames) then b.pop else b).insert tag
  else if name == "pre" || name == "listing" then
    { b.endParagraph.insert tag with skipLineFeed := true }
  else if name == "form" then
    let inTemplate := b.isOpen "template"
    if b.form.isSome && !inTemplate then b
    else
      let (e, b) := b.endParagraph.openElement (elementOf tag)
      if inTemplate then b else { b with form := some e.id }
  else if ["li", "dd", "dt"].contains name then b.startItem tag
  else if name == "plaintext" then { b.endParagraph.insert tag with reading := .toEnd }
  else if name == "button" then
    let b := if b.hasInScope "button" then b.closeImplied.popNamed "button" else b
    b.reopenFormatting.insert tag
  else if name == "a" then b.startAnchor tag
  else if formattingNames.contains name then b.reopenFormatting.insertFormatting tag
  else if name == "nobr" then
    let b := b.reopenFormatting
    let b := if b.hasInScope "nobr" then (b.endFormatting "nobr").reopenFormatting else b
    b.insertFormatting tag
  else if ["applet", "marquee", "object"].contains name then
    (b.reopenFormatting.insert tag).addMarker
  else if name == "table" then { b.endParagraph.insert tag with mode := .inTable }
  else if ["area", "br", "embed", "img", "keygen", "wbr", "input"].contains name then
    b.reopenFormatting.insertVoid tag
  else if ["param", "source", "track"].contains name then b.insertVoid tag
  else if name == "hr" then b.endParagraph.insertVoid tag
  else if name == "image" then b.reopenFormatting.insertVoid { tag with name := "img" }
  else if name == "textarea" then
    { b.insertRaw tag (.escapable name) with skipLineFeed := true }
  else if name == "xmp" then b.endParagraph.reopenFormatting.insertRaw tag (.raw name)
  else if ["iframe", "noembed", "noscript"].contains name then b.insertRaw tag (.raw name)
  else if name == "select" then b.startSelect tag
  else if name == "optgroup" || name == "option" then
    (if b.current (·.is "option") then b.pop else b).reopenFormatting.insert tag
  else if name == "rb" || name == "rtc" then
    (if b.hasInScope "ruby" then b.closeImplied else b).insert tag
  else if name == "rp" || name == "rt" then
    (if b.hasInScope "ruby" then b.closeImpliedExcept "rtc" else b).insert tag
  else if name == "math" then b.reopenFormatting.insertForeign .math tag
  else if name == "svg" then b.reopenFormatting.insertForeign .svg tag
  else b.reopenFormatting.insert tag

/-- The end tag of a form. -/
def endForm (b : Builder) : Builder :=
  if b.isOpen "template" then
    if b.hasInScope "form" then b.closeImplied.popNamed "form" else b
  else
    match b.form with
    | none => b
    | some id =>
      let b := { b with form := none }
      if b.inScope endsScope (·.id == id) then b.closeImplied.removeOpen id else b

/-- An end tag in a body. -/
def endInBody (b : Builder) (name : String) : Builder :=
  if name == "template" then b.endTemplate
  else if name == "body" || name == "html" then b
  else if closingNames.contains name then
    if b.hasInScope name then b.closeImplied.popNamed name else b
  else if name == "form" then b.endForm
  else if name == "p" then
    (if b.hasParagraph then b else b.insert { name := "p" }).closeParagraph
  else if ["li", "dd", "dt"].contains name then
    let stops := if name == "li" then endsListScope else endsScope
    if b.inScope stops (·.is name) then (b.closeImpliedExcept name).popNamed name else b
  else if headingNames.contains name then
    if b.inScope endsScope (·.isAmong headingNames) then
      b.closeImplied.popThrough (·.isAmong headingNames)
    else b
  else if name == "a" || name == "nobr" || formattingNames.contains name then b.endFormatting name
  else if ["applet", "marquee", "object"].contains name then
    if b.hasInScope name then (b.closeImplied.popNamed name).clearToMarker else b
  else if name == "br" then b.reopenFormatting.insertVoid { name }
  else b.endOther name

/-- A token in a body. -/
def inBody (b : Builder) : Token → Builder
  | .null => b
  | .text run => b.reopenFormatting.addText run
  | .comment s => b.addComment s
  | .start tag => b.startInBody tag
  | .stop name => b.endInBody name

end Builder
end Html
end Bindery
