import Bindery.Markdown.Document
import Bindery.Markdown.Render
import Bindery.Markdown.Split

/-!
# Compiling documents

A document becomes one code expression: it is read as markdown, its expressions are taken out, the
rest is rendered as HTML, and the expressions are put back into the HTML.
-/

namespace Bindery
namespace Markdown

/-- The token tree of a document. -/
def tokenize (settings : Settings) (source : String) : List Token :=
  Token.ofEvents (events settings source)

/-- The code of a document. -/
def compile (settings : Settings) (highlight : Highlighter) (source : String) :
    Except Template.PlaceholderError String :=
  let (tokens, env) := splitAll {} (tokenize settings source)
  let (rendered, env) := render settings highlight env (promoteAll tokens)
  env.reassemble rendered

end Markdown
end Bindery
