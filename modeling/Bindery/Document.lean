import Bindery.Config
import Bindery.Expr.Parser
import Bindery.FrontMatter
import Bindery.Link
import Bindery.Markdown.Compile
import Bindery.Toml.Reader

/-!
# Documents

A document is front matter and a body. The front matter gives its attributes; the body is compiled
to one expression. From the attributes follow the url of the page, whether it is written at all,
and the documents that it names as template and table of contents.
-/

namespace Bindery

/-- Why a document cannot be compiled. -/
inductive DocumentError where
  | unclosedFrontMatter
  | frontMatter
  | wrongAttribute (name expected : String)
  | outsideContent (request : String)
  | outsideOutput (url : String)
  | template (cause : Template.PlaceholderError)
  | expression (cause : Expr.ParseError)

namespace DocumentError

/-- The text of the error, without its cause. -/
def message : DocumentError → String
  | unclosedFrontMatter => "Front matter is missing its closing \x60+++\x60 line"
  | frontMatter => "Front matter parsing error"
  | wrongAttribute name expected => "Attribute \x60" ++ name ++ "\x60 must be " ++ expected
  | outsideContent request => "\x60" ++ request ++ "\x60 points outside the content directory"
  | outsideOutput url => "Url \x60" ++ url ++ "\x60 points outside the output directory"
  | template _ => "Expression placeholders did not survive rendering"
  | expression _ => "Invalid expression"

/-- The texts of the error and of its cause. -/
def chain : DocumentError → List String
  | template cause => [message (template cause), cause.message]
  | expression cause => [message (expression cause), cause.message]
  | e => [e.message]

end DocumentError

/-- How documents are compiled. Template and table of contents are given from the root. -/
structure DocumentOptions where
  markdown : Bool := true
  template : Option String := none
  toc : Option String := none
  emit : Option Bool := none
  settings : Markdown.Settings := {}

/-- How the documents of a site are compiled. -/
def DocumentOptions.ofConfig (c : Config) : DocumentOptions where
  template := c.build.template
  toc := c.build.toc
  settings := c.markdown

/-- A compiled document. -/
structure Document where
  id : String
  url : String
  emit : Bool
  attributes : List (String × Value)
  source : String
  code : Expr
  template : Option String
  toc : Option String
  isTemplate : Bool

namespace Document

/-- Whether an attribute counts as set. -/
def isTruthy : Value → Bool
  | .null => false
  | .bool b => b
  | .number (.int i) => i != 0
  | .number (.float x) => x.significand != 0
  | .string s => !s.isEmpty
  | .array _ | .object _ => true

/-- The attributes that front matter gives. -/
def attributesOf (front : Option (List Char)) : Except DocumentError (List (String × Value)) :=
  match front with
  | none => .ok []
  | some front =>
    match Toml.read? (String.ofList front) with
    | some entries => .ok (Toml.entryValues entries)
    | none => .error .frontMatter

/-- The code of a body. -/
def codeOf (options : DocumentOptions) (attributes : List (String × Value)) (body : String) :
    Except DocumentError String :=
  let isOff := match Value.lookup "markdown" attributes with
    | some (.bool false) => true
    | _ => false
  if options.markdown && !isOff then
    (Markdown.compile options.settings Markdown.noHighlighter body).mapError .template
  else .ok (Template.compilePlain body)

/-- The url of a document that does not give one: its id, with another extension. -/
def defaultUrl (id : String) : String :=
  let segments := Link.segments id
  let folder := "/".intercalate segments.dropLast
  let file := (segments.getLast?.getD "").toList
  let name := match file.reverse.dropWhile (· ≠ '.') with
    | [] => file
    | _ :: name => name.reverse
  let page := String.ofList name ++ ".html"
  if folder.isEmpty then page else folder ++ "/" ++ page

/-- The url of a document. -/
def urlOf (id : String) (attributes : List (String × Value)) : Except DocumentError String :=
  match Value.lookup "url" attributes with
  | none => .ok (defaultUrl id)
  | some (.string url) =>
    if url.isEmpty then .ok ""
    else
      match Link.normalize url with
      | some url => .ok url
      | none => .error (.outsideOutput url)
  | some _ => .error (.wrongAttribute "url" "a string")

/-- The document that an attribute names. Without the attribute it is the configured one, but not
for a template and not for the document itself. -/
def reference (id : String) (attributes : List (String × Value)) (name : String)
    (configured : Option String) (isTemplate : Bool) : Except DocumentError (Option String) :=
  match Value.lookup name attributes with
  | some (.string request) =>
    if request.isEmpty then .ok none
    else
      match Link.resolve id request with
      | some target => .ok (some target)
      | none => .error (.outsideContent request)
  | some (.bool false) | some .null => .ok none
  | some _ => .error (.wrongAttribute name "a path")
  | none =>
    match configured with
    | none => .ok none
    | some request =>
      if isTemplate then .ok none
      else
        let path := String.ofList (request.toList.dropWhile (· = '/'))
        match Link.resolve id ("/" ++ path) with
        | some target => .ok (if target = id then none else some target)
        | none => .error (.outsideContent request)

/-- Compile a document. -/
def compile (options : DocumentOptions) (id source : String) : Except DocumentError Document := do
  let (front, body) ← match FrontMatter.split? source.toList with
    | some parts => .ok parts
    | none => .error .unclosedFrontMatter
  let attributes ← attributesOf front
  let source ← codeOf options attributes (String.ofList body)
  let code ← (Expr.parse source).mapError .expression
  let url ← urlOf id attributes
  let emit := ((Value.lookup "emit" attributes).map isTruthy).or options.emit |>.getD !url.isEmpty
  let isTemplate := (Value.lookup "is_template" attributes).any isTruthy
  let template ← reference id attributes "template" options.template isTemplate
  let toc ← reference id attributes "toc" options.toc isTemplate
  return { id, url, emit, attributes, source, code, template, toc, isTemplate }

/-- The documents that a document names, its template first. -/
def dependencies (d : Document) : List String := d.template.toList ++ d.toc.toList

end Document
end Bindery
