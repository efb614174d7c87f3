import Bindery.Minify.Piece

/-!
# Small markup

Markup without comments, without the blanks that are not seen, and with attribute values in their
shortest form. Which blanks are seen depends on the element around them: lists and sections show no
blanks between their parts, paragraphs show none at their ends, and code shows all.
-/

namespace Bindery
namespace Minify

/-! ## Blanks -/

/-- What may be done to the blanks inside an element: make one of a run, drop texts that are all
blank, and drop those at the ends. -/
structure Spacing where
  collapse : Bool
  dropBlank : Bool
  trim : Bool
deriving DecidableEq, Repr, Inhabited

/-- All blanks stay. -/
def Spacing.verbatim : Spacing := ⟨false, false, false⟩

/-- Text that goes on around the element. -/
def Spacing.inline : Spacing := ⟨true, false, false⟩

/-- Text that begins and ends with the element. -/
def Spacing.block : Spacing := ⟨true, false, true⟩

/-- Parts that stand apart from each other. -/
def Spacing.layout : Spacing := ⟨true, true, true⟩

/-- The elements that hold text from end to end. -/
def textBlocks : List String :=
  ["address", "audio", "button", "canvas", "caption", "figcaption", "h1", "h2", "h3", "h4", "h5",
    "h6", "legend", "meter", "object", "option", "p", "summary", "video", "dd", "details", "dt",
    "iframe", "label", "li", "noscript", "output", "progress", "slot", "td", "template", "th",
    "title"]

/-- The elements that hold parts. -/
def layouts : List String :=
  ["article", "aside", "blockquote", "body", "colgroup", "datalist", "dialog", "div", "dl",
    "fieldset", "figure", "footer", "form", "head", "header", "hgroup", "html", "main", "map",
    "menu", "nav", "ol", "optgroup", "picture", "section", "select", "table", "tbody", "tfoot",
    "thead", "tr", "ul"]

/-- The elements whose blanks all show. -/
def verbatims : List String := ["code", "pre", "textarea"]

/-- The spacing inside an element. -/
def spacingOf (name : String) : Spacing :=
  if verbatims.contains name then .verbatim
  else if textBlocks.contains name then .block
  else if layouts.contains name then .layout
  else .inline

/-- Make one blank of each run of blanks. -/
def singleBlanks : (afterBlank : Bool) → List Char → List Char
  | _, [] => []
  | afterBlank, c :: rest =>
    if Html.Lexer.isSpace c then
      if afterBlank then singleBlanks true rest else ' ' :: singleBlanks true rest
    else c :: singleBlanks false rest

/-- Drop the blanks at the front. -/
def trimFront (s : String) : String := String.ofList (s.toList.dropWhile Html.Lexer.isSpace)

/-- Drop the blanks at the back. -/
def trimBack (s : String) : String :=
  String.ofList (s.toList.reverse.dropWhile Html.Lexer.isSpace).reverse

/-- A text with the blanks that stay. -/
def Spacing.text (spacing : Spacing) (s : String) : String :=
  if spacing.dropBlank && s.toList.all Html.Lexer.isSpace then ""
  else if spacing.collapse then String.ofList (singleBlanks false s.toList)
  else s

/-- Whether a piece shows: an element or a text that is not empty. -/
def shows : Piece → Bool
  | .element _ _ _ => true
  | .text s | .raw s => !s.isEmpty
  | .comment | .doctype => false

/-- Drop the blanks in front of the first text, unless an element comes before it. -/
def trimFirst : List Piece → List Piece
  | [] => []
  | .text s :: rest => .text (trimFront s) :: rest
  | .element tag children isClosed :: rest => .element tag children isClosed :: rest
  | piece :: rest => piece :: trimFirst rest

/-- Drop the blanks behind the last piece that shows, given the pieces from the last one on. -/
def trimLast : List Piece → List Piece
  | [] => []
  | piece :: rest =>
    if shows piece then
      match piece with
      | .text s => .text (trimBack s) :: rest
      | piece => piece :: rest
    else piece :: trimLast rest

/-- Pieces with the blanks that stay. -/
def Spacing.apply (spacing : Spacing) (pieces : List Piece) : List Piece :=
  let pieces := if spacing.trim then trimFirst pieces else pieces
  let pieces := pieces.map fun
    | .text s => .text (spacing.text s)
    | piece => piece
  if spacing.trim then (trimLast pieces.reverse).reverse else pieces

/-! ## Text -/

/-- Whether an ampersand before some text begins a character reference. -/
def beginsReference (inAttribute : Bool) (rest : List Char) : Bool :=
  (Html.Lexer.reference? inAttribute rest).isSome

/-- Text between tags, with entities only where the characters would mean something else. -/
def escapeText : List Char → List Char
  | [] => []
  | '&' :: rest =>
    (if beginsReference false rest then "&amp;".toList else ['&']) ++ escapeText rest
  | '<' :: rest =>
    (if Html.Lexer.beginsMarkup rest then "&lt;".toList else ['<']) ++ escapeText rest
  | c :: rest => c :: escapeText rest

/-! ## Attributes -/

/-- An attribute value between marks. -/
def escapeValue (mark : Option Char) : List Char → List Char
  | [] => []
  | '&' :: rest =>
    (if beginsReference true rest then "&amp;".toList else ['&']) ++ escapeValue mark rest
  | c :: rest =>
    (if some c = mark then (if c = '"' then "&#34;" else "&#39;").toList else [c])
      ++ escapeValue mark rest

/-- Whether an attribute value may stand without marks. -/
def isBare (value : List Char) : Bool :=
  value.all fun c => !(Html.Lexer.isSpace c || "\"'=<>\x60".toList.contains c)

/-- The shortest form of an attribute value: bare, else between the marks that need fewer
entities. -/
def printValue (value : List Char) : List Char :=
  if isBare value then escapeValue none value
  else
    let double := '"' :: escapeValue (some '"') value ++ ['"']
    let single := '\'' :: escapeValue (some '\'') value ++ ['\'']
    if single.length < double.length then single else double

/-- The attributes that mean nothing without a value. -/
def emptyNames : List String := ["class", "id", "style"]

/-- An attribute with its value as it stays; none if it means nothing. -/
def attribute? (name value : String) : Option (String × List Char) :=
  let value := if name = "class" then
      singleBlanks false (trimBack (trimFront value)).toList
    else value.toList
  if value.isEmpty && emptyNames.contains name then none else some (name, value)

/-- An attribute. -/
def printAttribute (name : String) (value : List Char) : String :=
  if value.isEmpty then name else name ++ "=" ++ String.ofList (printValue value)

/-- The attributes of a tag: those between marks first, each group in order. -/
def printAttributes (attributes : List (String × String)) : String :=
  let kept := attributes.filterMap fun (name, value) => attribute? name value
  let (bare, marked) := kept.partition fun a => isBare a.2
  let sort (group : List (String × List Char)) : List (String × List Char) :=
    group.mergeSort fun a b => decide (a.1 ≤ b.1)
  String.join ((sort marked ++ sort bare).map fun (name, value) =>
    " " ++ printAttribute name value)

/-! ## Pieces -/

mutual

/-- A piece with the blanks inside it that stay; `verbatim` says that all blanks show. -/
def respace (verbatim : Bool) : Piece → Piece
  | .element tag children isClosed =>
    let spacing := if verbatim then .verbatim else spacingOf tag.name
    .element tag (spacing.apply (respaceAll (verbatim || tag.name == "pre") children)) isClosed
  | piece => piece

/-- Some pieces with the blanks inside each that stay. -/
def respaceAll (verbatim : Bool) : List Piece → List Piece
  | [] => []
  | piece :: rest => respace verbatim piece :: respaceAll verbatim rest

end

mutual

/-- Write a piece. -/
def Piece.print : Piece → String
  | .text s => String.ofList (escapeText s.toList)
  | .raw s => trimBack (trimFront s)
  | .comment => ""
  | .doctype => "<!doctype html>"
  | .element tag children isClosed =>
    "<" ++ tag.name ++ printAttributes tag.attributes ++ ">" ++ printAll children
      ++ (if isClosed then "</" ++ tag.name ++ ">" else "")

/-- Write some pieces, one after the other. -/
def printAll : List Piece → String
  | [] => ""
  | piece :: rest => piece.print ++ printAll rest

end

/-- Make markup small. -/
def minify (markup : String) : String :=
  printAll (Spacing.layout.apply (respaceAll false (pieces markup)))

end Minify
end Bindery
