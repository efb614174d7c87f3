import Bindery.Markdown.Event

/-!
# The token tree

The events of a document fold into a tree of tokens. A code block is a single token with its text
in one piece, and lines of raw HTML that follow each other are one token, so that an expression
that spans several of them is seen whole.
-/

namespace Bindery
namespace Markdown

/-- A node of the document tree. Only the splitting of text makes an `expression`. -/
inductive Token where
  | element (tag : Tag) (children : List Token)
  | text (text : String)
  | html (text : String)
  | inlineHtml (text : String)
  /-- A code block; a `templated` one holds placeholders and is not highlighted. -/
  | codeBlock (kind : CodeKind) (content : String) (templated : Bool)
  | expression (source : String)
  | leaf (leaf : Leaf)
deriving Repr, Inhabited, BEq

namespace Token

mutual

/-- The number of tokens of a tree. -/
def count : Token → Nat
  | .element _ children => 1 + countAll children
  | _ => 1

/-- The number of tokens of several trees. -/
def countAll : List Token → Nat
  | [] => 0
  | token :: rest => count token + countAll rest

end

/-- An open construct and the tokens inside it, last first. -/
structure Open where
  tag : Tag
  children : List Token
deriving Repr

/-- The state of folding: the finished tokens outside of open constructs, last first, the open
constructs, innermost first, and the code block that is open. -/
structure Builder where
  tokens : List Token := []
  opened : List Open := []
  code : Option (CodeKind × String) := none
deriving Repr

namespace Builder

/-- Put a token into the innermost construct. -/
def add (b : Builder) (token : Token) : Builder :=
  match b.opened with
  | [] => { b with tokens := token :: b.tokens }
  | inner :: outer =>
    { b with opened := { inner with children := token :: inner.children } :: outer }

/-- Put raw HTML into the innermost construct, after raw HTML as part of it. -/
def addHtml (b : Builder) (html : String) : Builder :=
  match b.opened with
  | [] =>
    match b.tokens with
    | .html before :: rest => { b with tokens := .html (before ++ html) :: rest }
    | tokens => { b with tokens := .html html :: tokens }
  | inner :: outer =>
    let children := match inner.children with
      | .html before :: rest => .html (before ++ html) :: rest
      | children => .html html :: children
    { b with opened := { inner with children } :: outer }

/-- Close the innermost construct. -/
def close (b : Builder) : Builder :=
  match b.opened with
  | [] => b
  | inner :: outer => { b with opened := outer }.add (.element inner.tag inner.children.reverse)

/-- Read an event outside of code. -/
def plainStep (b : Builder) : Event → Builder
  | .start tag => { b with opened := ⟨tag, []⟩ :: b.opened }
  | .stop _ => b.close
  | .startCode kind => { b with code := some (kind, "") }
  | .stopCode => b.close
  | .text t => b.add (.text t)
  | .html t => b.addHtml t
  | .inlineHtml t => b.add (.inlineHtml t)
  | .leaf l => b.add (.leaf l)

/-- Read an event. An event that belongs to no code passes by an open code block. -/
def step (b : Builder) (event : Event) : Builder :=
  match b.code, event with
  | some (kind, content), .text t => { b with code := some (kind, content ++ t) }
  | some (kind, content), .stopCode => { b with code := none }.add (.codeBlock kind content false)
  | _, event => b.plainStep event

/-- Close everything that is open. -/
def finish (b : Builder) : List Token :=
  let closed := b.opened.foldl (fun b _ => b.close) b
  closed.tokens.reverse

end Builder

/-- The tokens of a sequence of events. Constructs that are never closed end with the sequence, and
a code block that is never closed is dropped. -/
def ofEvents (events : List Event) : List Token := (events.foldl Builder.step {}).finish

end Token

end Markdown
end Bindery
