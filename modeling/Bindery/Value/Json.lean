import Bindery.Value
import Bindery.Text.Classes

/-!
# Values as JSON text

The JSON texts of a value, without blanks and over many lines, and the reader of JSON texts. Inside
quotes only the quote, the backslash and the controls below U+0020 are escaped.
-/

namespace Bindery
namespace Json

/-- A character inside a JSON string. -/
def escapeChar (c : Char) : List Char :=
  match c with
  | '"' => ['\\', '"']
  | '\\' => ['\\', '\\']
  | '\n' => ['\\', 'n']
  | '\r' => ['\\', 'r']
  | '\t' => ['\\', 't']
  | '\x08' => ['\\', 'b']
  | '\x0c' => ['\\', 'f']
  | c =>
    if c.toNat < 0x20 then
      ['\\', 'u', '0', '0', Text.hexDigit (c.toNat / 16), Text.hexDigit (c.toNat % 16)]
    else [c]

/-- The characters of a text as a JSON string, quotes included. -/
def quoteChars (s : List Char) : List Char := '"' :: s.flatMap escapeChar ++ ['"']

/-- A text as a JSON string. -/
def quote (s : String) : String := String.ofList (quoteChars s.toList)

mutual

/-- The compact JSON text of a value. -/
def print : Value → String
  | .null => "null"
  | .bool true => "true"
  | .bool false => "false"
  | .number n => n.toText
  | .string s => quote s
  | .array items => "[" ++ printItems items ++ "]"
  | .object fields => "\x7b" ++ printFields fields ++ "\x7d"

/-- The items of an array, separated by commas. -/
def printItems : List Value → String
  | [] => ""
  | [v] => print v
  | v :: rest => print v ++ "," ++ printItems rest

/-- The fields of an object, separated by commas. -/
def printFields : List (String × Value) → String
  | [] => ""
  | [(k, v)] => quote k ++ ":" ++ print v
  | (k, v) :: rest => quote k ++ ":" ++ print v ++ "," ++ printFields rest

end

/-- A line end and the blanks of a nesting depth. -/
def newLine (depth : Nat) : String := "\n" ++ String.ofList (List.replicate (2 * depth) ' ')

mutual

/-- The JSON text of a value with every item and field on a line of its own. -/
def pretty (depth : Nat) : Value → String
  | .array [] => "[]"
  | .object [] => "\x7b\x7d"
  | .array items =>
    "[" ++ prettyItems (depth + 1) items ++ newLine depth ++ "]"
  | .object fields =>
    "\x7b" ++ prettyFields (depth + 1) fields ++ newLine depth ++ "\x7d"
  | v => print v

/-- The items of an array on lines of their own. -/
def prettyItems (depth : Nat) : List Value → String
  | [] => ""
  | [v] => newLine depth ++ pretty depth v
  | v :: rest => newLine depth ++ pretty depth v ++ "," ++ prettyItems depth rest

/-- The fields of an object on lines of their own. -/
def prettyFields (depth : Nat) : List (String × Value) → String
  | [] => ""
  | [(k, v)] => newLine depth ++ quote k ++ ": " ++ pretty depth v
  | (k, v) :: rest =>
    newLine depth ++ quote k ++ ": " ++ pretty depth v ++ "," ++ prettyFields depth rest

end

/-- Drop leading JSON blanks. -/
def skipBlanks (s : List Char) : List Char :=
  s.dropWhile fun c => c = ' ' || c = '\n' || c = '\r' || c = '\t'

/-- The value of four hexadecimal digits. -/
def hex4 (a b c d : Char) : Option Nat := do
  let a ← Text.hexValue a
  let b ← Text.hexValue b
  let c ← Text.hexValue c
  let d ← Text.hexValue d
  return ((a * 16 + b) * 16 + c) * 16 + d

/-- The rest of a JSON string after its opening quote: its characters and what follows the
closing quote. -/
def readString : List Char → Option (List Char × List Char)
  | [] => none
  | '"' :: rest => some ([], rest)
  | '\\' :: 'u' :: a :: b :: c :: d :: rest =>
    match hex4 a b c d with
    | none => none
    | some n =>
      if 0xD800 ≤ n && n < 0xDC00 then
        match rest with
        | '\\' :: 'u' :: a :: b :: c :: d :: rest =>
          match hex4 a b c d with
          | some m =>
            if 0xDC00 ≤ m && m < 0xE000 then
              let code := 0x10000 + (n - 0xD800) * 0x400 + (m - 0xDC00)
              (readString rest).map fun (s, r) => (Char.ofNat code :: s, r)
            else none
          | none => none
        | _ => none
      else (readString rest).map fun (s, r) => (Char.ofNat n :: s, r)
  | '\\' :: c :: rest =>
    let out := match c with
      | 'n' => some '\n'
      | 'r' => some '\r'
      | 't' => some '\t'
      | 'b' => some '\x08'
      | 'f' => some '\x0c'
      | '"' => some '"'
      | '\\' => some '\\'
      | '/' => some '/'
      | _ => none
    match out with
    | some o => (readString rest).map fun (s, r) => (o :: s, r)
    | none => none
  | c :: rest => (readString rest).map fun (s, r) => (c :: s, r)

/-- Whether a character belongs to a JSON number. -/
def isNumberChar (c : Char) : Bool :=
  c.isDigit || c = '-' || c = '+' || c = '.' || c = 'e' || c = 'E'

/-- Read digits into a number as long as it fits 64 bits; the digits that are left. -/
def takeDigits (n : Nat) : List Char → Nat × List Char
  | [] => (n, [])
  | c :: rest =>
    let next := 10 * n + (c.toNat - '0'.toNat)
    if next < 0x10000000000000000 then takeDigits next rest else (n, c :: rest)

/-- A fraction: its digits as one number of 64 bits, further digits dropped, scaled by the power of
ten. Both steps are rounded, so the last digit of a long fraction may differ. -/
def readFraction (negative : Bool) (s : List Char) : Option Binary64 := do
  let (whole, rest) := Number.spanDigits s
  let (fraction, rest) := match rest with
    | '.' :: r => Number.spanDigits r
    | r => ([], r)
  let power ← Number.readExponent rest
  let (n, dropped) := takeDigits 0 whole
  let (n, unread) := takeDigits n fraction
  let digits ← Binary64.ofRatio negative n 1
  digits.scale (power + dropped.length - (fraction.length - unread.length : Nat))

/-- A JSON number: an integer if it has neither point nor exponent and fits 64 bits. -/
def readNumber (s : List Char) : Option Number :=
  let (negative, digits) := match s with
    | '-' :: r => (true, r)
    | r => (false, r)
  let n := Number.digitsValue digits
  if digits.isEmpty then none
  else if digits.all Char.isDigit &&
      (if negative then n ≤ 0x8000000000000000 && n ≠ 0 else n < 0x10000000000000000) then
    some (.int (if negative then -(n : Int) else n))
  else (readFraction negative digits).map .float

mutual

/-- A JSON value at the start of a text, and the rest. `fuel` bounds the nesting and the number of
items. -/
def readValue : (fuel : Nat) → List Char → Option (Value × List Char)
  | 0, _ => none
  | fuel + 1, s =>
    match skipBlanks s with
    | 'n' :: 'u' :: 'l' :: 'l' :: r => some (.null, r)
    | 't' :: 'r' :: 'u' :: 'e' :: r => some (.bool true, r)
    | 'f' :: 'a' :: 'l' :: 's' :: 'e' :: r => some (.bool false, r)
    | '"' :: r => (readString r).map fun (t, r) => (.string (String.ofList t), r)
    | '[' :: r =>
      match skipBlanks r with
      | ']' :: r => some (.array [], r)
      | r => (readItems fuel r []).map fun (items, r) => (.array items, r)
    | '\x7b' :: r =>
      match skipBlanks r with
      | '\x7d' :: r => some (.object [], r)
      | r => (readFields fuel r []).map fun (fields, r) => (.object fields, r)
    | r =>
      let (number, rest) := r.span isNumberChar
      (readNumber number).map fun n => (.number n, rest)

/-- The items of an array up to its closing bracket. -/
def readItems : (fuel : Nat) → List Char → List Value → Option (List Value × List Char)
  | 0, _, _ => none
  | fuel + 1, s, items =>
    match readValue fuel s with
    | none => none
    | some (v, r) =>
      match skipBlanks r with
      | ',' :: r => readItems fuel r (v :: items)
      | ']' :: r => some ((v :: items).reverse, r)
      | _ => none

/-- The fields of an object up to its closing brace; of equal keys the last value counts. -/
def readFields : (fuel : Nat) → List Char → List (String × Value) →
    Option (List (String × Value) × List Char)
  | 0, _, _ => none
  | fuel + 1, s, fields =>
    match skipBlanks s with
    | '"' :: r =>
      match readString r with
      | none => none
      | some (key, r) =>
        match skipBlanks r with
        | ':' :: r =>
          match readValue fuel r with
          | none => none
          | some (v, r) =>
            let fields := Value.insert (String.ofList key) v fields
            match skipBlanks r with
            | ',' :: r => readFields fuel r fields
            | '\x7d' :: r => some (fields, r)
            | _ => none
        | _ => none
    | _ => none

end

/-- The value of a JSON text. -/
def read? (text : String) : Option Value :=
  match readValue (text.length + 1) text.toList with
  | some (v, rest) => if (skipBlanks rest).isEmpty then some v else none
  | none => none

end Json

end Bindery
