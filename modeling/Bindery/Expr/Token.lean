import Bindery.Expr
import Bindery.Text.Quoted
import Bindery.Value.Json

/-!
# Tokens of expressions

`lex` cuts code into tokens, each with the byte offset at which it starts. Blanks separate tokens
and are dropped.
-/

namespace Bindery
namespace Expr

/-- The punctuation of expressions. -/
inductive Mark where
  | dot
  | comma
  | plus
  | openBracket
  | closeBracket
  | openParen
  | closeParen
deriving DecidableEq, Repr

namespace Mark

/-- The character of a mark. -/
def char : Mark → Char
  | .dot => '.'
  | .comma => ','
  | .plus => '+'
  | .openBracket => '['
  | .closeBracket => ']'
  | .openParen => '('
  | .closeParen => ')'

/-- The mark of a character. -/
def ofChar? (c : Char) : Option Mark :=
  if c = '.' then some .dot
  else if c = ',' then some .comma
  else if c = '+' then some .plus
  else if c = '[' then some .openBracket
  else if c = ']' then some .closeBracket
  else if c = '(' then some .openParen
  else if c = ')' then some .closeParen
  else none

end Mark

/-- A token. -/
inductive Token where
  | str (text : String)
  | num (number : Number)
  | name (text : String)
  | mark (mark : Mark)
deriving DecidableEq, Repr

namespace Token

/-- A token as a message names it. -/
def describe : Token → String
  | .str text => "string " ++ Text.shown text
  | .num number => "number " ++ number.toText
  | .name text => "identifier \x60" ++ text ++ "\x60"
  | .mark m => String.ofList ("\x60".toList ++ m.char :: "\x60".toList)

end Token

/-- A token with the byte offset of its first character. -/
structure Placed where
  token : Token
  offset : Nat
deriving DecidableEq, Repr

/-- What the parser could have gone on with. -/
inductive Expected where
  | expression
  | endOfExpression
  | propertyName
  | closeBracket
  | closeParen
  | commaOrClose
deriving DecidableEq, Repr

namespace Expected

/-- The wording of an expectation. -/
def describe : Expected → String
  | .expression => "expression"
  | .endOfExpression => "end of expression"
  | .propertyName => "property name"
  | .closeBracket => "\x60]\x60"
  | .closeParen => "\x60)\x60"
  | .commaOrClose => "\x60,\x60 or closing bracket"

end Expected

/-- Why code is no expression. -/
inductive ParseError where
  | unexpectedChar (c : Char) (offset : Nat)
  | unterminatedString (offset : Nat)
  | invalidEscape (offset : Nat)
  | invalidNumber (text : String)
  | unexpectedToken (found : Token) (offset : Nat) (expected : Expected)
  | unexpectedEnd (expected : Expected)
deriving DecidableEq, Repr

namespace ParseError

/-- The text of the error. -/
def message : ParseError → String
  | .unexpectedChar c offset =>
    "unexpected character " ++ Text.shownChar c ++ " at offset " ++ toString offset
  | .unterminatedString offset =>
    "unterminated string literal starting at offset " ++ toString offset
  | .invalidEscape offset => "invalid escape sequence at offset " ++ toString offset
  | .invalidNumber text => "invalid number literal " ++ Text.shown text
  | .unexpectedToken found offset expected =>
    "unexpected " ++ found.describe ++ " at offset " ++ toString offset ++ ", expected "
      ++ expected.describe
  | .unexpectedEnd expected => "unexpected end of expression, expected " ++ expected.describe

end ParseError

/-- The character that a letter after a backslash stands for; most stand for themselves. -/
def unescape (c : Char) : Char :=
  match c with
  | 'n' => '\n'
  | 't' => '\t'
  | 'r' => '\r'
  | 'b' => '\x08'
  | 'f' => '\x0c'
  | '0' => '\x00'
  | c => c

/-- The rest of a string literal after its opening quote: its characters, and what follows the
closing quote with its offset. `start` is the offset of the opening quote. A character beyond
U+FFFF is written as two escapes, and half of such a pair is refused. -/
def stringBody (quote : Char) (start : Nat) :
    (offset : Nat) → List Char → Except ParseError (List Char × Nat × List Char)
  | _, [] => .error (.unterminatedString start)
  | offset, c :: rest =>
    if c = quote then .ok ([], offset + 1, rest)
    else if c = '\\' then
      match rest with
      | [] => .error (.unterminatedString start)
      | 'u' :: h1 :: h2 :: h3 :: h4 :: rest =>
        match Json.hex4 h1 h2 h3 h4 with
        | none => .error (.invalidEscape offset)
        | some high =>
          if 0xD800 ≤ high && high < 0xDC00 then
            match rest with
            | '\\' :: 'u' :: l1 :: l2 :: l3 :: l4 :: rest =>
              match Json.hex4 l1 l2 l3 l4 with
              | none => .error (.invalidEscape offset)
              | some low =>
                if 0xDC00 ≤ low && low < 0xE000 then
                  match stringBody quote start (offset + 12) rest with
                  | .error e => .error e
                  | .ok (out, after) =>
                    let code := 0x10000 + (high - 0xD800) * 0x400 + (low - 0xDC00)
                    .ok (Char.ofNat code :: out, after)
                else .error (.invalidEscape offset)
            | _ => .error (.invalidEscape offset)
          else if 0xDC00 ≤ high && high < 0xE000 then .error (.invalidEscape offset)
          else
            match stringBody quote start (offset + 6) rest with
            | .error e => .error e
            | .ok (out, after) => .ok (Char.ofNat high :: out, after)
      | 'u' :: _ => .error (.invalidEscape offset)
      | c :: rest =>
        match stringBody quote start (offset + 1 + c.utf8Size) rest with
        | .error e => .error e
        | .ok (out, after) => .ok (unescape c :: out, after)
    else
      match stringBody quote start (offset + c.utf8Size) rest with
      | .error e => .error e
      | .ok (out, after) => .ok (c :: out, after)

/-- Whether a character can stand in a number: numbers take every digit, point and exponent mark
that follows. -/
def isNumberChar (c : Char) : Bool := c.isDigit || c = '.' || c = 'e' || c = 'E'

/-- Whether a character can start a name. -/
def isNameStart (c : Char) : Bool := Text.isAlphabetic c || c = '_' || c = '$'

/-- Whether a character can go on with a name. -/
def isNameChar (c : Char) : Bool := Text.isAlphanumeric c || c = '_' || c = '$'

/-- The number that the characters of a number literal stand for. -/
def readNumber (text : List Char) : Except ParseError Number :=
  match Number.readDecimal false text with
  | some (some x) => .ok (Number.ofBinary x)
  | _ => .error (.invalidNumber (String.ofList text))

theorem stringBody_length {quote : Char} {start offset : Nat} {s : List Char}
    {r : List Char × Nat × List Char} (h : stringBody quote start offset s = .ok r) :
    r.2.2.length < s.length := by
  fun_induction stringBody quote start offset s generalizing r <;>
    simp only [reduceCtorEq, Except.ok.injEq] at h <;> subst h <;> simp only [List.length_cons]
  case case2 => omega
  all_goals
    rename_i ih
    have := ih ‹_›
    dsimp only at this
    omega

/-- The tokens of code that starts at a byte offset. -/
def lexFrom (offset : Nat) (s : List Char) : Except ParseError (List Placed) :=
  match s with
  | [] => .ok []
  | c :: rest =>
    if Text.isBlank c then lexFrom (offset + c.utf8Size) rest
    else if c = '"' || c = '\'' then
      match _h : stringBody c offset (offset + 1) rest with
      | .error e => .error e
      | .ok (text, next, after) =>
        match lexFrom next after with
        | .error e => .error e
        | .ok tokens => .ok (⟨.str (String.ofList text), offset⟩ :: tokens)
    else if c.isDigit then
      let text := c :: rest.takeWhile isNumberChar
      match readNumber text with
      | .error e => .error e
      | .ok number =>
        match lexFrom (offset + Text.byteLength text) (rest.dropWhile isNumberChar) with
        | .error e => .error e
        | .ok tokens => .ok (⟨.num number, offset⟩ :: tokens)
    else if isNameStart c then
      let text := c :: rest.takeWhile isNameChar
      match lexFrom (offset + Text.byteLength text) (rest.dropWhile isNameChar) with
      | .error e => .error e
      | .ok tokens => .ok (⟨.name (String.ofList text), offset⟩ :: tokens)
    else
      match Mark.ofChar? c with
      | none => .error (.unexpectedChar c offset)
      | some mark =>
        match lexFrom (offset + 1) rest with
        | .error e => .error e
        | .ok tokens => .ok (⟨.mark mark, offset⟩ :: tokens)
termination_by s.length
decreasing_by
  all_goals simp only [List.length_cons]
  · omega
  · have := stringBody_length _h; dsimp only at this; omega
  · have := (List.dropWhile_suffix (l := rest) isNumberChar).length_le; omega
  · have := (List.dropWhile_suffix (l := rest) isNameChar).length_le; omega
  · omega

/-- The tokens of code. -/
def lex (code : String) : Except ParseError (List Placed) := lexFrom 0 code.toList

end Expr
end Bindery
