import Bindery.Link
import Bindery.Markdown.Token
import Bindery.Template.Environment

/-!
# Splitting expressions out of documents

After a document is read, the expressions in its text become tokens of their own. Those in code
blocks, link targets and titles become placeholders, and a relative link becomes an expression
that asks for the url of what it names and falls back to the link as written. A paragraph that
consists of a single expression is then replaced by that expression.
-/

namespace Bindery
namespace Markdown

/-- The expression of a relative link: the url of the path it requests, with its fragment, or the
link as written if the path does not resolve. -/
def assetExpression? (link : String) : Option String :=
  if Link.isRequest link then
    let request := (Link.toRequest link).toList
    let path := request.takeWhile (· ≠ '#')
    let call := "asset(" ++ Json.quote (String.ofList path) ++ ")"
    let target := match request.drop path.length with
      | _ :: hash => call ++ " + \"#\" + " ++ Json.quote (String.ofList hash)
      | [] => call
    some ("fallback(" ++ target ++ ", " ++ Json.quote link ++ ")")
  else none

/-- A link target with its expressions taken out. A target that already holds a placeholder is left
alone. -/
def splitTarget (env : Template.Environment) (dest : String) : String × Template.Environment :=
  if Template.hasExpressions dest then env.preprocess dest
  else if Template.holdsPlaceholder dest then (dest, env)
  else
    match assetExpression? dest with
    | some source => env.replace source
    | none => (dest, env)

/-- The target and title of a link with their expressions taken out. -/
def splitLink (env : Template.Environment) (target : Target) : Target × Template.Environment :=
  let (dest, env) := splitTarget env target.dest
  let (title, env) := env.preprocess target.title
  ({ target with dest, title }, env)

/-- A construct with the expressions of its attributes taken out. -/
def splitTag (env : Template.Environment) : Tag → Tag × Template.Environment
  | .link target =>
    let (target, env) := splitLink env target
    (.link target, env)
  | .image target =>
    let (target, env) := splitLink env target
    (.image target, env)
  | tag => (tag, env)

/-- A text cut at its expressions; `kind` makes the tokens of its literal parts. -/
def splitText (kind : String → Token) (text : String) : List Token :=
  if Template.hasExpressions text then
    (Template.scan text).map fun fragment =>
      match fragment with
      | .raw text => kind text
      | .expr source => .expression source
  else [kind text]

mutual

/-- A token with its expressions taken out. -/
def Token.split (env : Template.Environment) : Token → List Token × Template.Environment
  | .text text => (splitText .text text, env)
  | .html text => (splitText .html text, env)
  | .inlineHtml text => (splitText .inlineHtml text, env)
  | .element tag children =>
    let (tag, env) := splitTag env tag
    let (children, env) := splitAll env children
    ([.element tag children], env)
  | .codeBlock kind content templated =>
    let (body, env) := env.preprocess content
    ([.codeBlock kind body (templated || Template.hasExpressions content)], env)
  | token => ([token], env)

/-- Tokens with their expressions taken out. -/
def splitAll (env : Template.Environment) : List Token → List Token × Template.Environment
  | [] => ([], env)
  | token :: rest =>
    let (first, env) := token.split env
    let (others, env) := splitAll env rest
    (first ++ others, env)

end

mutual

/-- A token with every paragraph that is a single expression replaced by the expression. -/
def Token.promote : Token → Token
  | .element .paragraph [.expression source] => .expression source
  | .element tag children => .element tag (promoteAll children)
  | token => token

/-- Tokens with every paragraph that is a single expression replaced by the expression. -/
def promoteAll : List Token → List Token
  | [] => []
  | token :: rest => token.promote :: promoteAll rest

end

end Markdown
end Bindery
