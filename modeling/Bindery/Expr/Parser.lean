import Bindery.Expr.Token

/-!
# Parsing expressions

A sum is a non-empty sequence of terms separated by plus signs; a term is a literal, a name, a
parenthesized sum or a list, followed by any number of `.name`, `[sum]` and `(arguments)`. Lists
and arguments are separated by commas, and a last comma may follow.

The parser reads tokens from left to right with a stack of open brackets and never looks ahead, so
the first token that no expression could have in its place is the one an error names.
-/

namespace Bindery
namespace Expr

/-- An open bracket and what was read before it. -/
inductive Opener where
  | paren
  | array (items : List Expr)
  | args (callee : Expr) (items : List Expr)
  | position (target : Expr)
deriving Repr

namespace Opener

/-- What has to follow a sum inside the bracket. -/
def expected : Opener → Expected
  | .paren => .closeParen
  | .position _ => .closeBracket
  | .array _ => .commaOrClose
  | .args _ _ => .commaOrClose

end Opener

/-- An open bracket, with the terms of the sum it stands in that came before its own term. Terms
and items are kept last first. -/
structure Frame where
  opener : Opener
  terms : List Expr
deriving Repr

/-- What the parser has just read: nothing of the next term, a term, or a term and a dot. -/
inductive Phase where
  | start
  | term (value : Expr)
  | dot (target : Expr)
deriving Repr

/-- The parser between two tokens: the open brackets, innermost first, the finished terms of the
current sum, and the phase of its next term. -/
structure ParserState where
  frames : List Frame
  terms : List Expr
  phase : Phase
deriving Repr

/-- A sum: a single term stands for itself. -/
def sum (terms : List Expr) (last : Expr) : Expr :=
  match terms with
  | [] => last
  | _ => .concat (last :: terms).reverse

namespace ParserState

/-- The parser before the first token. -/
def initial : ParserState := ⟨[], [], .start⟩

/-- What could follow a finished term, besides what goes on with it. -/
def expected (s : ParserState) : Expected :=
  match s.frames with
  | [] => .endOfExpression
  | frame :: _ => frame.opener.expected

/-- Open a bracket. -/
def openBracket (s : ParserState) (opener : Opener) : ParserState :=
  ⟨⟨opener, s.terms⟩ :: s.frames, [], .start⟩

/-- Go on with a term. -/
def withTerm (s : ParserState) (value : Expr) : ParserState := { s with phase := .term value }

/-- Close the innermost bracket: it becomes the next term of the sum around it. -/
def close (terms : List Expr) (outer : List Frame) (value : Expr) : ParserState :=
  ⟨outer, terms, .term value⟩

/-- Read one token; the expectation that failed if no expression goes on with it. -/
def step? (s : ParserState) (token : Token) : Except Expected ParserState :=
  match s.phase, token with
  | .start, .str text => .ok (s.withTerm (.str text))
  | .start, .num number => .ok (s.withTerm (.num number))
  | .start, .name text => .ok (s.withTerm (ofName text))
  | .start, .mark .openParen => .ok (s.openBracket .paren)
  | .start, .mark .openBracket => .ok (s.openBracket (.array []))
  | .start, .mark .closeParen =>
    -- a list may end before its next item
    match s.terms, s.frames with
    | [], ⟨.args callee items, terms⟩ :: outer =>
      .ok (close terms outer (.call callee items.reverse))
    | _, _ => .error .expression
  | .start, .mark .closeBracket =>
    match s.terms, s.frames with
    | [], ⟨.array items, terms⟩ :: outer =>
      .ok (close terms outer (.array items.reverse))
    | _, _ => .error .expression
  | .start, .mark _ => .error .expression
  | .dot target, .name text => .ok (s.withTerm (.member target text))
  | .dot _, _ => .error .propertyName
  | .term value, .mark .dot => .ok { s with phase := .dot value }
  | .term value, .mark .plus => .ok ⟨s.frames, value :: s.terms, .start⟩
  | .term value, .mark .openParen => .ok (s.openBracket (.args value []))
  | .term value, .mark .openBracket => .ok (s.openBracket (.position value))
  | .term value, .mark .comma =>
    match s.frames with
    | ⟨.array items, terms⟩ :: outer =>
      .ok ⟨⟨.array (sum s.terms value :: items), terms⟩ :: outer, [], .start⟩
    | ⟨.args callee items, terms⟩ :: outer =>
      .ok ⟨⟨.args callee (sum s.terms value :: items), terms⟩ :: outer, [], .start⟩
    | _ => .error s.expected
  | .term value, .mark .closeParen =>
    match s.frames with
    | ⟨.paren, terms⟩ :: outer => .ok (close terms outer (sum s.terms value))
    | ⟨.args callee items, terms⟩ :: outer =>
      .ok (close terms outer (.call callee (sum s.terms value :: items).reverse))
    | _ => .error s.expected
  | .term value, .mark .closeBracket =>
    match s.frames with
    | ⟨.array items, terms⟩ :: outer =>
      .ok (close terms outer (.array (sum s.terms value :: items).reverse))
    | ⟨.position target, terms⟩ :: outer =>
      .ok (close terms outer (.index target (sum s.terms value)))
    | _ => .error s.expected
  | .term _, _ => .error s.expected

/-- Read one token of code. -/
def step (s : ParserState) (t : Placed) : Except ParseError ParserState :=
  match s.step? t.token with
  | .ok next => .ok next
  | .error expected => .error (.unexpectedToken t.token t.offset expected)

/-- Read tokens in order, up to the first that does not fit. -/
def run (s : ParserState) : List Placed → Except ParseError ParserState
  | [] => .ok s
  | t :: rest =>
    match s.step t with
    | .ok next => next.run rest
    | .error e => .error e

/-- The expression that the tokens so far form. -/
def finish (s : ParserState) : Except ParseError Expr :=
  match s.phase, s.frames with
  | .term value, [] => .ok (sum s.terms value)
  | .term _, frame :: _ => .error (.unexpectedEnd frame.opener.expected)
  | .start, _ => .error (.unexpectedEnd .expression)
  | .dot _, _ => .error (.unexpectedEnd .propertyName)

end ParserState

/-- The expression of a list of tokens. -/
def parseTokens (tokens : List Placed) : Except ParseError Expr :=
  match ParserState.initial.run tokens with
  | .ok s => s.finish
  | .error e => .error e

/-- The expression that code stands for. Code is cut into tokens as a whole before it is
parsed. -/
def parse (code : String) : Except ParseError Expr :=
  match lex code with
  | .ok tokens => parseTokens tokens
  | .error e => .error e

end Expr
end Bindery
