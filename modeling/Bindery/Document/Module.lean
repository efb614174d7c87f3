import Bindery.Document
import Bindery.Value.Json

/-!
# Documents as script modules

A script that loads a page reads it as a module with a fixed list of exports.
-/

namespace Bindery
namespace Document

/-- A named document, as a script asks for it. -/
def requireText : Option String → String
  | some id => "require.resolve(" ++ Json.quote id ++ ")"
  | none => "undefined"

/-- The script module of a document. -/
def moduleText (d : Document) : String :=
  let url := Json.quote d.url
  let export_ (name value : String) : String := "exports." ++ name ++ " = " ++ value ++ ";\n"
  "\n".intercalate [
    export_ "toString" ("() => __public_path__ + " ++ url),
    export_ "url" url,
    export_ "emit" (if d.emit then "true" else "false"),
    export_ "filename" (Json.quote d.id),
    export_ "attributes" (Json.pretty 0 (.object d.attributes)),
    export_ "html" ("(context) => " ++ d.source),
    export_ "template" (requireText d.template),
    export_ "toc" (requireText d.toc),
    export_ "require" "__require__"]

end Document
end Bindery
