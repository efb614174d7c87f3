import Bindery.Markdown.Event
import Bindery.Value

/-!
# Configuration

What is built, where it goes, and which grammar documents are written in.
-/

namespace Bindery

/-- What is built and where it goes. -/
structure BuildSettings where
  root : Option String := none
  content : String := "content"
  output : String := "public"
  publicPath : String := "/"
  minify : Bool := false
  clean : Bool := false
  cachePages : Bool := true
  generateOutline : Bool := false
  removeTitleElement : Bool := false
  template : Option String := none
  toc : Option String := none
deriving DecidableEq, Repr, Inhabited

/-- The configuration of a site. -/
structure Config where
  build : BuildSettings := {}
  markdown : Markdown.Settings := {}
deriving DecidableEq, Repr, Inhabited

namespace BuildSettings

/-- The url under which a page is published. -/
def publicUrl (s : BuildSettings) (url : String) : String := s.publicPath ++ url

/-- The settings as pages see them. -/
def toValue (s : BuildSettings) : Value :=
  .object [
    ("root", Value.ofString? s.root),
    ("content", .string s.content),
    ("output", .string s.output),
    ("public_path", .string s.publicPath),
    ("minify", .bool s.minify),
    ("clean", .bool s.clean),
    ("cache_pages", .bool s.cachePages),
    ("generate_outline", .bool s.generateOutline),
    ("remove_title_element", .bool s.removeTitleElement),
    ("template", Value.ofString? s.template),
    ("toc", Value.ofString? s.toc)]

end BuildSettings

/-- The settings of the grammar as a value. -/
def Markdown.Settings.toValue (s : Markdown.Settings) : Value :=
  .object [
    ("html", .bool s.html),
    ("tables", .bool s.tables),
    ("footnotes", .bool s.footnotes),
    ("strikethrough", .bool s.strikethrough),
    ("tasklists", .bool s.tasklists),
    ("heading_attributes", .bool s.headingAttributes),
    ("smart_punctuation", .bool s.smartPunctuation)]

/-- The configuration as a value. -/
def Config.toValue (c : Config) : Value :=
  .object [("build", c.build.toValue), ("markdown", c.markdown.toValue)]

/-- Why there is no usable configuration. -/
inductive ConfigError where
  | unreadable (path : String)
  | malformed
  | notFolder (content : String)
  | outputIsContent
  | publicPathEnd
deriving DecidableEq, Repr

namespace ConfigError

/-- The wording of a fault in a setting. -/
def faultMessage (detail : String) : String := "Config validation error: " ++ detail

/-- The wording of the error. -/
def message : ConfigError → String
  | unreadable path => "IO error when reading \x60" ++ path ++ "\x60"
  | malformed => "Config file parsing error"
  | notFolder content =>
    faultMessage ("[build.content] \x60" ++ content ++ "\x60 is not a directory")
  | outputIsContent => faultMessage "[build.output] must differ from [build.content]"
  | publicPathEnd => faultMessage "[build.public_path] must end with \x60/\x60"

end ConfigError
end Bindery
