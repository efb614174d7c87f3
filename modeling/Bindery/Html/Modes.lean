import Bindery.Html.Body

/-!
# Tokens in every part of a document

Tables, lists of choices and templates take only some of the content of a body. What does not
belong into a table is put before it; what ends a part of a table is read again in the part around
it. Elements that are not of a document have rules of their own, which come first.

A rule gives the new state and, if the token is to be read again in the new mode, the token.
-/

namespace Bindery
namespace Html
namespace Builder

/-- What a rule gives. -/
abbrev Outcome := Builder × Option Token

/-- The token has been dealt with. -/
def done (b : Builder) : Outcome := (b, none)

/-- The token is to be read again in a mode. -/
def again (b : Builder) (mode : Mode) (token : Token) : Outcome := ({ b with mode }, some token)

/-- Read a token as in a body, with content put before the table. -/
def foster (b : Builder) (token : Token) : Builder :=
  { { b with fostering := true }.inBody token with fostering := false }

/-- Close elements up to one that passes a test. -/
def popTo (b : Builder) (test : OpenElement → Bool) : Builder := b.popWhile fun e => !test e

/-- The elements that hold the groups of rows of a table. -/
def isTableContext (e : OpenElement) : Bool := e.isAmong ["html", "table", "template"]

/-- The elements that hold the rows of a table. -/
def isRowsContext (e : OpenElement) : Bool :=
  e.isAmong ["tbody", "tfoot", "thead", "template", "html"]

/-- The elements that hold the cells of a row. -/
def isRowContext (e : OpenElement) : Bool := e.isAmong ["tr", "template", "html"]

/-- The end tags of the parts of a table that mean nothing where they do not close one. -/
def partNames : List String :=
  ["body", "caption", "col", "colgroup", "html", "tbody", "td", "tfoot", "th", "thead", "tr"]

/-- The start tags of the parts of a table around its rows. -/
def groupNames : List String := ["caption", "col", "colgroup", "tbody", "tfoot", "thead"]

/-- Whether an input is not shown. -/
def isHidden (tag : StartTag) : Bool :=
  tag.attributes.any fun (name, value) => name == "type" && value.map Char.toLower == "hidden"

/-- A token inside a table and outside its parts. -/
def inTable (b : Builder) (token : Token) : Outcome :=
  match token with
  | .null | .text _ =>
    if b.current (·.isAmong ["table", "tbody", "tfoot", "thead", "tr"]) then
      { b with resumed := b.mode, tableText := [] }.again .inTableText token
    else (b.foster token).done
  | .comment s => (b.addComment s).done
  | .start tag =>
    let name := tag.name
    if name == "caption" then
      done { ((b.popTo isTableContext).addMarker.insert tag) with mode := .inCaption }
    else if name == "colgroup" then
      done { (b.popTo isTableContext).insert tag with mode := .inColumns }
    else if name == "col" then
      ((b.popTo isTableContext).insert { name := "colgroup" }).again .inColumns token
    else if ["tbody", "tfoot", "thead"].contains name then
      done { (b.popTo isTableContext).insert tag with mode := .inTableBody }
    else if ["td", "th", "tr"].contains name then
      ((b.popTo isTableContext).insert { name := "tbody" }).again .inTableBody token
    else if name == "table" then
      if b.hasInTableScope "table" then ((b.popNamed "table").resetMode, some token) else b.done
    else if ["style", "script", "template"].contains name then (b.startInHead tag).done
    else if name == "input" then
      (if isHidden tag then b.insertVoid tag else b.foster token).done
    else if name == "form" then
      if b.isOpen "template" || b.form.isSome then b.done
      else
        let (e, b) := b.addElement (elementOf tag)
        done { b with form := some e.id }
    else (b.foster token).done
  | .stop name =>
    if name == "table" then
      (if b.hasInTableScope "table" then (b.popNamed "table").resetMode else b).done
    else if partNames.contains name then b.done
    else if name == "template" then b.endTemplate.done
    else (b.foster token).done

/-- Put the text that was read inside a table where it belongs: blanks stay, other text goes before
the table. -/
def flushTableText (b : Builder) : Builder :=
  let run := b.tableText
  let b := { b with tableText := [], mode := b.resumed }
  if run.isEmpty then b
  else if run.all Lexer.isSpace then b.addText run
  else b.foster (.text run)

/-- A token after some text inside a table. -/
def inTableText (b : Builder) (token : Token) : Outcome :=
  match token with
  | .null => b.done
  | .text run => done { b with tableText := b.tableText ++ run }
  | token => (b.flushTableText, some token)

/-- A token inside the caption of a table. -/
def inCaption (b : Builder) (token : Token) : Outcome :=
  let close (b : Builder) : Builder := (b.closeImplied.popNamed "caption").clearToMarker
  let isOpen := b.hasInTableScope "caption"
  match token with
  | .start tag =>
    if (groupNames ++ ["td", "th", "tr"]).contains tag.name then
      if isOpen then (close b).again .inTable token else b.done
    else (b.inBody token).done
  | .stop name =>
    if name == "caption" then
      (if isOpen then { close b with mode := .inTable } else b).done
    else if name == "table" then
      if isOpen then (close b).again .inTable token else b.done
    else if partNames.contains name then b.done
    else (b.inBody token).done
  | token => (b.inBody token).done

/-- A token inside the columns of a table. -/
def inColumns (b : Builder) (token : Token) : Outcome :=
  let isGroup := b.current (·.is "colgroup")
  let leave (b : Builder) (token : Token) : Outcome :=
    if isGroup then b.pop.again .inTable token else b.done
  match token with
  | .text run =>
    let rest := run.dropWhile Lexer.isSpace
    if isGroup then
      let b := b.addText (run.takeWhile Lexer.isSpace)
      if rest.isEmpty then b.done else leave b (.text rest)
    else (b.addText (run.filter Lexer.isSpace)).done
  | .comment s => (b.addComment s).done
  | .start tag =>
    if tag.name == "col" then (b.insertVoid tag).done
    else if tag.name == "html" || tag.name == "template" then (b.startInBody tag).done
    else leave b token
  | .stop name =>
    if name == "colgroup" then (if isGroup then { b.pop with mode := .inTable } else b).done
    else if name == "col" then b.done
    else if name == "template" then b.endTemplate.done
    else leave b token
  | .null => leave b token

/-- A token inside a group of rows. -/
def inTableBody (b : Builder) (token : Token) : Outcome :=
  let leave : Outcome :=
    if b.inScope endsTableScope (·.isAmong ["table", "tbody", "tfoot"]) then
      (b.popTo isRowsContext).pop.again .inTable token
    else b.done
  match token with
  | .start tag =>
    if tag.name == "tr" then done { (b.popTo isRowsContext).insert tag with mode := .inRow }
    else if tag.name == "th" || tag.name == "td" then
      ((b.popTo isRowsContext).insert { name := "tr" }).again .inRow token
    else if groupNames.contains tag.name then leave
    else b.inTable token
  | .stop name =>
    if ["tbody", "tfoot", "thead"].contains name then
      (if b.hasInTableScope name then { (b.popTo isRowsContext).pop with mode := .inTable }
      else b).done
    else if name == "table" then leave
    else if partNames.contains name then b.done
    else b.inTable token
  | token => b.inTable token

/-- A token inside a row. -/
def inRow (b : Builder) (token : Token) : Outcome :=
  let isOpen := b.hasInTableScope "tr"
  let close (b : Builder) : Builder := (b.popTo isRowContext).pop
  let leave : Outcome := if isOpen then (close b).again .inTableBody token else b.done
  match token with
  | .start tag =>
    if tag.name == "th" || tag.name == "td" then
      done { ((b.popTo isRowContext).insert tag).addMarker with mode := .inCell }
    else if tag.name == "tr" || groupNames.contains tag.name then leave
    else b.inTable token
  | .stop name =>
    if name == "tr" then (if isOpen then { close b with mode := .inTableBody } else b).done
    else if name == "table" then leave
    else if ["tbody", "tfoot", "thead"].contains name then
      if b.hasInTableScope name then leave else b.done
    else if partNames.contains name then b.done
    else b.inTable token
  | token => b.inTable token

/-- A token inside a cell. -/
def inCell (b : Builder) (token : Token) : Outcome :=
  let isCell (e : OpenElement) : Bool := e.isAmong ["td", "th"]
  let leave : Outcome :=
    ((b.closeImplied.popThrough isCell).clearToMarker).again .inRow token
  match token with
  | .start tag =>
    if (groupNames ++ ["td", "th", "tr"]).contains tag.name then
      if b.inScope endsTableScope isCell then leave else b.done
    else (b.inBody token).done
  | .stop name =>
    if name == "td" || name == "th" then
      (if b.hasInTableScope name then
        { (b.closeImplied.popNamed name).clearToMarker with mode := .inRow }
      else b).done
    else if ["body", "caption", "col", "colgroup", "html"].contains name then b.done
    else if ["table", "tbody", "tfoot", "thead", "tr"].contains name then
      if b.hasInTableScope name then leave else b.done
    else (b.inBody token).done
  | token => (b.inBody token).done

/-- A token inside a list of choices. -/
def inSelect (b : Builder) (token : Token) : Outcome :=
  let popIf (b : Builder) (name : String) : Builder := if b.current (·.is name) then b.pop else b
  let isOpen := b.inScope endsSelectScope (·.is "select")
  let close (b : Builder) : Builder := (b.popNamed "select").resetMode
  match token with
  | .null => b.done
  | .text run => (b.addText run).done
  | .comment s => (b.addComment s).done
  | .start tag =>
    match tag.name with
    | "html" => (b.startInBody tag).done
    | "option" => ((popIf b "option").insert tag).done
    | "optgroup" => ((popIf (popIf b "option") "optgroup").insert tag).done
    | "hr" => ((popIf (popIf b "option") "optgroup").insertVoid tag).done
    | "select" => (if isOpen then close b else b).done
    | "input" | "keygen" | "textarea" => if isOpen then (close b, some token) else b.done
    | "script" | "template" => (b.startInHead tag).done
    | _ => b.done
  | .stop name =>
    match name with
    | "optgroup" =>
      let inGroup := (b.stack[1]?).any (·.is "optgroup")
      (popIf (if inGroup then popIf b "option" else b) "optgroup").done
    | "option" => (popIf b "option").done
    | "select" => (if isOpen then close b else b).done
    | "template" => b.endTemplate.done
    | _ => b.done

/-- A token inside a list of choices in a table. -/
def inSelectInTable (b : Builder) (token : Token) : Outcome :=
  let names := ["caption", "table", "tbody", "tfoot", "thead", "tr", "td", "th"]
  let leave : Outcome := ((b.popNamed "select").resetMode, some token)
  match token with
  | .start tag => if names.contains tag.name then leave else b.inSelect token
  | .stop name =>
    if names.contains name then
      if b.hasInTableScope name then leave else b.done
    else b.inSelect token
  | token => b.inSelect token

/-- A token inside a template, before it is known what the template is for. -/
def inTemplate (b : Builder) (token : Token) : Outcome :=
  match token with
  | .null => b.done
  | .start tag =>
    if headNames.contains tag.name then (b.startInHead tag).done
    else
      let mode : Mode :=
        if ["caption", "colgroup", "tbody", "tfoot", "thead"].contains tag.name then .inTable
        else if tag.name == "col" then .inColumns
        else if tag.name == "tr" then .inTableBody
        else if tag.name == "td" || tag.name == "th" then .inRow
        else .inBody
      { b with templates := mode :: b.templates.drop 1 }.again mode token
  | .stop name => (if name == "template" then b.endTemplate else b).done
  | token => (b.inBody token).done

/-- A token inside an element whose text is read in a way of its own. -/
def inRawText (b : Builder) (token : Token) : Outcome :=
  match token with
  | .text run => (b.addText run).done
  | .stop _ => done { b.pop with mode := b.resumed, reading := .markup }
  | _ => b.done

/-- A token in the mode of the state. -/
def byMode (b : Builder) (token : Token) : Outcome :=
  match b.mode with
  | .inBody => (b.inBody token).done
  | .inRawText => b.inRawText token
  | .inTable => b.inTable token
  | .inTableText => b.inTableText token
  | .inCaption => b.inCaption token
  | .inColumns => b.inColumns token
  | .inTableBody => b.inTableBody token
  | .inRow => b.inRow token
  | .inCell => b.inCell token
  | .inSelect => b.inSelect token
  | .inSelectInTable => b.inSelectInTable token
  | .inTemplate => b.inTemplate token

/-! ## Elements that are not of a document -/

/-- Whether the innermost element is not of a document; the outermost one is. -/
def inForeign (b : Builder) : Bool := b.current (·.vocabulary != .html)

/-- Whether a token is read by the rules of elements that are not of a document. -/
def isForeign (b : Builder) (token : Token) : Bool :=
  match b.stack.head? with
  | none => false
  | some e =>
    let isText := match token with
      | .text _ | .null => true
      | _ => false
    let startName := match token with
      | .start tag => some tag.name
      | _ => none
    if e.vocabulary == .html then false
    else if e.holdsFormulaText &&
        (isText || startName.any fun n => n != "mglyph" && n != "malignmark") then false
    else if e.holdsDocument && (isText || startName.isSome) then false
    else !(e.vocabulary == .math && e.name == "annotation-xml" && startName == some "svg")

/-- The start tags that end all elements that are not of a document. -/
def breakoutNames : List String :=
  ["b", "big", "blockquote", "body", "br", "center", "code", "dd", "div", "dl", "dt", "em",
    "embed", "h1", "h2", "h3", "h4", "h5", "h6", "head", "hr", "i", "img", "li", "listing",
    "menu", "meta", "nobr", "ol", "p", "pre", "ruby", "s", "small", "span", "strong", "strike",
    "sub", "sup", "table", "tt", "u", "ul", "var"]

/-- Whether a start tag ends all elements that are not of a document. -/
def breaksOut (tag : StartTag) : Bool :=
  breakoutNames.contains tag.name ||
    (tag.name == "font" &&
      tag.attributes.any fun (name, _) => ["color", "face", "size"].contains name)

/-- Close the elements that are not of a document. -/
def leaveForeign (b : Builder) : Builder :=
  b.popTo fun e => e.vocabulary == .html || e.holdsFormulaText || e.holdsDocument

/-- The end tag of an element that is not of a document, looked for from the innermost element
outwards as far as the first element of a document. -/
def endForeign (b : Builder) (name : String) (first : Bool) : List OpenElement → Outcome
  | [] | [_] => b.done
  | e :: rest =>
    if !first && e.vocabulary == .html then b.byMode (.stop name)
    else if e.name.map Char.toLower == name then done { b with stack := rest }
    else b.endForeign name false rest

/-- A token inside an element that is not of a document. -/
def inForeignContent (b : Builder) (token : Token) : Outcome :=
  match token with
  | .null => (b.addText [Lexer.replacement]).done
  | .text run => (b.addText run).done
  | .comment s => (b.addComment s).done
  | .start tag =>
    if breaksOut tag then b.leaveForeign.byMode token
    else
      match b.stack.head? with
      | some e =>
        let tag :=
          if e.vocabulary == .svg then { tag with name := spelling drawingNames tag.name } else tag
        (b.insertForeign e.vocabulary tag).done
      | none => b.done
  | .stop name =>
    if name == "br" || name == "p" then b.leaveForeign.byMode token
    else b.endForeign name true b.stack

/-! ## Whole documents -/

/-- Read a token as often as the rules ask for. -/
def settle : (fuel : Nat) → Builder → Token → Builder
  | 0, b, _ => b
  | fuel + 1, b, token =>
    match if b.isForeign token then b.inForeignContent token else b.byMode token with
    | (b, none) => b
    | (b, some token) => settle fuel b token

/-- Read a token. A line feed right after some start tags is dropped. Each repetition closes an
element or goes from one part of a table to the one around it. -/
def feed (b : Builder) (token : Token) : Builder :=
  let token : Token := match token with
    | .text ('\n' :: rest) => if b.skipLineFeed then .text rest else token
    | token => token
  let b := { b with skipLineFeed := false }
  match token with
  | .text [] => b
  | token => settle (8 * (b.stack.length + 1)) b token

/-- Read a text to its end, token by token. -/
def read : (fuel : Nat) → Builder → List Char → Builder
  | 0, b, _ => b
  | fuel + 1, b, s =>
    match nextTokens b.reading b.inForeign s with
    | none => b
    | some (tokens, rest) => read fuel (tokens.foldl feed b) rest

/-- Read a whole text. -/
def ofText (s : List Char) : Builder :=
  let s := Lexer.normalize s
  let b := read (s.length + 1) empty s
  if b.mode == .inTableText then b.flushTableText else b

end Builder
end Html
end Bindery
