import Bindery.Html.Document
import Bindery.Page

/-!
# Pages in messages

Texts that show a page or its content to whoever looks into a build.
-/

namespace Bindery

mutual

/-- A value with the kind of each of its parts. -/
def Value.shown : Value → String
  | .null => "Null"
  | .bool b => "Bool(" ++ (if b then "true" else "false") ++ ")"
  | .number n => "Number(" ++ n.toText ++ ")"
  | .string s => "String(" ++ Text.shown s ++ ")"
  | .array items => "Array [" ++ ", ".intercalate (shownItems items) ++ "]"
  | .object fields => "Object \x7b" ++ ", ".intercalate (shownFields fields) ++ "\x7d"

/-- Some values with the kinds of their parts. -/
def shownItems : List Value → List String
  | [] => []
  | item :: rest => item.shown :: shownItems rest

/-- Some fields with the kinds of their parts. -/
def shownFields : List (String × Value) → List String
  | [] => []
  | (key, value) :: rest => (Text.shown key ++ ": " ++ value.shown) :: shownFields rest

end

/-- A reference that may be missing. -/
def shownReference : Option String → String
  | some id => "Some(" ++ Text.shown id ++ ")"
  | none => "None"

/-- A page without its render function. -/
def Page.shown (page : Page) : String :=
  let parts := [
    "module: " ++ Text.shown page.module,
    "url: " ++ Text.shown page.url,
    "filename: " ++ Text.shown page.filename,
    "attributes: \x7b" ++ ", ".intercalate (shownFields page.attributes) ++ "\x7d",
    "template: " ++ shownReference page.template,
    "toc: " ++ shownReference page.toc,
    "emit: " ++ (if page.emit then "true" else "false"),
    ".."]
  "Page \x7b " ++ ", ".intercalate parts ++ " \x7d"

/-- The content of a parsed document. -/
def Html.Document.shown (d : Html.Document) : String := "Dom(" ++ Text.shown d.toHtml ++ ")"

end Bindery
