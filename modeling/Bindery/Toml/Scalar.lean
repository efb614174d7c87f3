import Bindery.Date
import Bindery.Text.Classes
import Bindery.Toml

/-!
# Settings scalars

Texts in four kinds of quotes, whole numbers in four bases, fractions, dates and times. Each reader
takes a text that begins with the scalar and gives the scalar and the rest of the text.
-/

namespace Bindery
namespace Toml

/-- A blank within a line. -/
def isBlank (c : Char) : Bool := c = ' ' || c = '\t'

/-- Skip blanks within a line. -/
def skipBlanks (s : List Char) : List Char := s.dropWhile isBlank

/-- A character that may stand in a text or a comment. -/
def isShown (c : Char) : Bool := c = '\t' || (' ' ≤ c && c ≠ '\x7f')

/-- The rest after a line end. -/
def newline? : List Char → Option (List Char)
  | '\n' :: rest => some rest
  | '\r' :: '\n' :: rest => some rest
  | _ => none

/-! ## Texts -/

/-- The character of a code point written in hexadecimal digits. -/
def charOfHex? (digits : List Char) : Option Char := do
  let n ← digits.foldlM (fun n c => (Text.hexValue c).map (16 * n + ·)) 0
  if n.isValidChar then some (Char.ofNat n) else none

/-- An escape after its backslash. -/
def escape? : List Char → Option (Char × List Char)
  | 'b' :: rest => some ('\x08', rest)
  | 't' :: rest => some ('\t', rest)
  | 'n' :: rest => some ('\n', rest)
  | 'f' :: rest => some ('\x0c', rest)
  | 'r' :: rest => some ('\r', rest)
  | '"' :: rest => some ('"', rest)
  | '\\' :: rest => some ('\\', rest)
  | 'u' :: rest => if rest.length < 4 then none else (charOfHex? (rest.take 4)).map (·, rest.drop 4)
  | 'U' :: rest => if rest.length < 8 then none else (charOfHex? (rest.take 8)).map (·, rest.drop 8)
  | _ => none

/-- A text on one line with escapes, after its opening quote. -/
def basic? : (fuel : Nat) → List Char → Option (List Char × List Char)
  | 0, _ => none
  | fuel + 1, s =>
    match s with
    | '"' :: rest => some ([], rest)
    | '\\' :: rest => do
      let (c, rest) ← escape? rest
      let (body, rest) ← basic? fuel rest
      return (c :: body, rest)
    | c :: rest =>
      if isShown c then (basic? fuel rest).map fun (body, rest) => (c :: body, rest) else none
    | [] => none

/-- A text on one line without escapes, after its opening quote. -/
def literal? : List Char → Option (List Char × List Char)
  | '\'' :: rest => some ([], rest)
  | c :: rest =>
    if isShown c then (literal? rest).map fun (body, rest) => (c :: body, rest) else none
  | [] => none

/-- The rest after a line end and all blanks and line ends that follow it. -/
def skipLines : List Char → List Char
  | '\r' :: '\n' :: rest => skipLines rest
  | c :: rest => if isBlank c || c = '\n' then skipLines rest else c :: rest
  | [] => []

/-- A text on some lines, after its three opening quotes. Before the closing quotes there may be
two more quotes that belong to the text. -/
def longText? (mark : Char) : (fuel : Nat) → List Char → Option (List Char × List Char)
  | 0, _ => none
  | fuel + 1, s =>
    match newline? s with
    | some rest => (longText? mark fuel rest).map fun (body, rest) => ('\n' :: body, rest)
    | none =>
      match s with
      | [] => none
      | c :: rest =>
        if c = mark then
          let marks := (s.takeWhile (· = mark)).length
          if marks < 3 then
            (longText? mark fuel rest).map fun (body, rest) => (c :: body, rest)
          else
            let kept := min (marks - 3) 2
            some (List.replicate kept mark, s.drop (kept + 3))
        else if c = '\\' && mark = '"' then
          match newline? (skipBlanks rest) with
          | some rest => longText? mark fuel (skipLines rest)
          | none => do
            let (c, rest) ← escape? rest
            let (body, rest) ← longText? mark fuel rest
            return (c :: body, rest)
        else if isShown c then
          (longText? mark fuel rest).map fun (body, rest) => (c :: body, rest)
        else none

/-- A text on some lines; a line end right after the opening quotes does not belong to it. -/
def longTextFrom? (mark : Char) (s : List Char) : Option (List Char × List Char) :=
  longText? mark (s.length + 1) ((newline? s).getD s)

/-- A text in one of the kinds of quotes. -/
def text? : List Char → Option (List Char × List Char)
  | '"' :: '"' :: '"' :: rest => longTextFrom? '"' rest
  | '\'' :: '\'' :: '\'' :: rest => longTextFrom? '\'' rest
  | '"' :: rest => basic? (rest.length + 1) rest
  | '\'' :: rest => literal? rest
  | _ => none

/-! ## Numbers -/

/-- What follows the first digit of a number: digits in which single underscores may stand between
two digits. -/
def moreDigits? (isDigit : Char → Bool) : List Char → Option (List Char × List Char)
  | [] => some ([], [])
  | '_' :: c :: rest =>
    if isDigit c then (moreDigits? isDigit rest).map fun (ds, rest) => (c :: ds, rest) else none
  | c :: rest =>
    if isDigit c then (moreDigits? isDigit rest).map fun (ds, rest) => (c :: ds, rest)
    else if c = '_' then none
    else some ([], c :: rest)

/-- Digits in which single underscores may stand between two digits. -/
def digits? (isDigit : Char → Bool) : List Char → Option (List Char × List Char)
  | [] => none
  | c :: rest =>
    if isDigit c then (moreDigits? isDigit rest).map fun (ds, rest) => (c :: ds, rest) else none

/-- The digits of a decimal number without a leading zero. -/
def decimal? (s : List Char) : Option (List Char × List Char) :=
  match s with
  | '0' :: rest => some (['0'], rest)
  | s => digits? Char.isDigit s

/-- A sign and what follows it. -/
def sign : List Char → Bool × List Char
  | '-' :: rest => (true, rest)
  | '+' :: rest => (false, rest)
  | s => (false, s)

/-- The value of digits in a base. -/
def valueOf (base : Nat) (digits : List Char) : Nat :=
  digits.foldl (fun n c => base * n + (Text.hexValue c).getD 0) 0

/-- A whole number that fits 64 bits. -/
def bounded? (negative : Bool) (n : Nat) : Option Toml :=
  if negative then if n ≤ 0x8000000000000000 then some (.integer (-(n : Int))) else none
  else if n < 0x8000000000000000 then some (.integer n) else none

/-- A whole number. -/
def integer? (s : List Char) : Option (Toml × List Char) :=
  let inBase (base : Nat) (isDigit : Char → Bool) (s : List Char) : Option (Toml × List Char) := do
    let (ds, rest) ← digits? isDigit s
    let value ← bounded? false (valueOf base ds)
    return (value, rest)
  match s with
  | '0' :: 'x' :: rest => inBase 16 (fun c => (Text.hexValue c).isSome) rest
  | '0' :: 'o' :: rest => inBase 8 (fun c => '0' ≤ c && c ≤ '7') rest
  | '0' :: 'b' :: rest => inBase 2 (fun c => c = '0' || c = '1') rest
  | s => do
    let (negative, s) := sign s
    let (ds, rest) ← decimal? s
    let value ← bounded? negative (valueOf 10 ds)
    return (value, rest)

/-- The exponent of a fraction, with its mark. -/
def exponent? : List Char → Option (List Char × List Char)
  | c :: rest =>
    if c = 'e' || c = 'E' then do
      let (negative, rest) := sign rest
      let (ds, rest) ← digits? Char.isDigit rest
      return ('e' :: (if negative then '-' else '+') :: ds, rest)
    else none
  | [] => none

/-- A fraction, or a word for a number that is not finite. A number too large to be kept is refused
if it is positive. -/
def float? (s : List Char) : Option (Toml × List Char) :=
  let (negative, s) := sign s
  match s with
  | 'i' :: 'n' :: 'f' :: rest => some (.float none, rest)
  | 'n' :: 'a' :: 'n' :: rest => some (.float none, rest)
  | s => do
    let (whole, rest) ← decimal? s
    let (fraction, rest) ← match rest with
      | '.' :: rest => (digits? Char.isDigit rest).map fun (ds, rest) => ('.' :: ds, rest)
      | rest => some ([], rest)
    let (power, rest) := (exponent? rest).getD ([], rest)
    if fraction.isEmpty && power.isEmpty then none
    else
      match ← Number.readDecimal negative (whole ++ fraction ++ power) with
      | some x => return (.float (some x), rest)
      | none => if negative then return (.float none, rest) else none

/-! ## Dates and times -/

/-- The value of a decimal digit. -/
def digit? (c : Char) : Option Nat := if c.isDigit then some (c.toNat - '0'.toNat) else none

/-- Two digits below a bound. -/
def twoDigits? (bound : Nat) (a b : Char) : Option Nat := do
  let n := 10 * (← digit? a) + (← digit? b)
  if n < bound then some n else none

/-- A date as it is written. -/
def date? (s : List Char) : Option (List Char × List Char) :=
  (Date.parse? (String.ofList (s.take 10))).map fun _ => (s.take 10, s.drop 10)

/-- A time of the day as it is shown: a fraction of a second is cut after nine digits and loses its
final zeros. -/
def time? : List Char → Option (List Char × List Char)
  | h1 :: h2 :: ':' :: m1 :: m2 :: ':' :: s1 :: s2 :: rest => do
    let _ ← twoDigits? 24 h1 h2
    let _ ← twoDigits? 60 m1 m2
    let _ ← twoDigits? 61 s1 s2
    let whole := [h1, h2, ':', m1, m2, ':', s1, s2]
    match rest with
    | '.' :: rest =>
      let digits := rest.takeWhile Char.isDigit
      if digits.isEmpty then none
      else
        let kept := ((digits.take 9).reverse.dropWhile (· = '0')).reverse
        let fraction := if kept.isEmpty then [] else '.' :: kept
        some (whole ++ fraction, rest.dropWhile Char.isDigit)
    | rest => some (whole, rest)
  | _ => none

/-- The offset of a time as it is shown; there need not be one. -/
def offset? : List Char → Option (List Char × List Char)
  | 'Z' :: rest | 'z' :: rest => some (['Z'], rest)
  | c :: h1 :: h2 :: ':' :: m1 :: m2 :: rest =>
    if c = '+' || c = '-' then do
      let hours ← twoDigits? 24 h1 h2
      let minutes ← twoDigits? 60 m1 m2
      -- An offset of nothing is shown with a plus sign.
      let mark := if hours = 0 && minutes = 0 then '+' else c
      return ([mark, h1, h2, ':', m1, m2], rest)
    else some ([], c :: h1 :: h2 :: ':' :: m1 :: m2 :: rest)
  | s => some ([], s)

/-- A date, a time or both. -/
def dateTime? (s : List Char) : Option (Toml × List Char) :=
  let shown (cs : List Char) : Toml := .dateTime (String.ofList cs)
  match date? s with
  | none => (time? s).map fun (time, rest) => (shown time, rest)
  | some (date, rest) =>
    match rest with
    | c :: after =>
      if c = 'T' || c = 't' || c = ' ' then
        match time? after with
        | some (time, rest) =>
          match offset? rest with
          | some (offset, rest) => some (shown (date ++ 'T' :: time ++ offset), rest)
          | none => none
        | none => some (shown date, rest)
      else some (shown date, rest)
    | [] => some (shown date, [])

/-- A number, a date or a time. -/
def numeric? (s : List Char) : Option (Toml × List Char) :=
  (dateTime? s).or ((float? s).or (integer? s))

end Toml
end Bindery
