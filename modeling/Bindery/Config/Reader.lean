import Bindery.Config
import Bindery.Toml.Reader

/-!
# Reading a configuration

A configuration is a settings text with two sections. A section is a table of fields, or an array
that gives the first fields in order. A field that is unknown or of another kind is an error; a
field that is not given has its default.
-/

namespace Bindery
namespace Config

/-- The text that a settings value holds. -/
def text? : Toml → Option String
  | .string s => some s
  | _ => none

/-- The truth value that a settings value holds. -/
def flag? : Toml → Option Bool
  | .boolean b => some b
  | _ => none

/-- A field of a section: its name, and how it is set. -/
structure Field (σ : Type) where
  name : String
  set : Toml → σ → Option σ

/-- A field that holds a text. -/
def textField {σ : Type} (name : String) (put : String → σ → σ) : Field σ :=
  ⟨name, fun v s => (text? v).map (put · s)⟩

/-- A field that holds a truth value. -/
def flagField {σ : Type} (name : String) (put : Bool → σ → σ) : Field σ :=
  ⟨name, fun v s => (flag? v).map (put · s)⟩

/-- The fields of the build section. -/
def buildFields : List (Field BuildSettings) := [
  textField "root" fun v s => { s with root := some v },
  textField "content" fun v s => { s with content := v },
  textField "output" fun v s => { s with output := v },
  textField "public_path" fun v s => { s with publicPath := v },
  flagField "minify" fun v s => { s with minify := v },
  flagField "clean" fun v s => { s with clean := v },
  flagField "cache_pages" fun v s => { s with cachePages := v },
  flagField "generate_outline" fun v s => { s with generateOutline := v },
  flagField "remove_title_element" fun v s => { s with removeTitleElement := v },
  textField "template" fun v s => { s with template := some v },
  textField "toc" fun v s => { s with toc := some v }]

/-- The fields of the grammar section. -/
def markdownFields : List (Field Markdown.Settings) := [
  flagField "html" fun v s => { s with html := v },
  flagField "tables" fun v s => { s with tables := v },
  flagField "footnotes" fun v s => { s with footnotes := v },
  flagField "strikethrough" fun v s => { s with strikethrough := v },
  flagField "tasklists" fun v s => { s with tasklists := v },
  flagField "heading_attributes" fun v s => { s with headingAttributes := v },
  flagField "smart_punctuation" fun v s => { s with smartPunctuation := v }]

/-- Set fields by name. -/
def setByName {σ : Type} (fields : List (Field σ)) : List (String × Toml) → σ → Option σ
  | [], s => some s
  | (key, value) :: rest, s => do
    let field ← fields.find? (·.name = key)
    setByName fields rest (← field.set value s)

/-- Set fields in order; values behind the last field are ignored. -/
def setInOrder {σ : Type} : List (Field σ) → List Toml → σ → Option σ
  | field :: fields, value :: values, s => do
    setInOrder fields values (← field.set value s)
  | _, _, s => some s

/-- Read a section over its defaults. -/
def readSection? {σ : Type} (fields : List (Field σ)) (defaults : σ) : Toml → Option σ
  | .table entries => setByName fields entries defaults
  | .array items => setInOrder fields items defaults
  | _ => none

/-- Read the sections of a configuration. -/
def readSections? : List (String × Toml) → Config → Option Config
  | [], config => some config
  | (key, value) :: rest, config => do
    match key with
    | "build" =>
      let build ← readSection? buildFields {} value
      readSections? rest { config with build }
    | "markdown" =>
      let markdown ← readSection? markdownFields {} value
      readSections? rest { config with markdown }
    | _ => none

/-- Read a configuration. -/
def parse (text : String) : Except ConfigError Config :=
  match (Toml.read? text).bind (readSections? · {}) with
  | some config => .ok config
  | none => .error .malformed

end Config
end Bindery
