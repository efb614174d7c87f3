import Bindery.Toml.Scalar
import Bindery.Toml.Table

/-!
# Reading settings

A settings text is a sequence of lines: headings, keys with values, comments and empty lines. A
value can go on over some lines only inside brackets.
-/

namespace Bindery
namespace Toml

/-- The depth of nesting from which on a value or a key is refused. -/
def depthLimit : Nat := 80

/-- A character of a key without quotes. -/
def isKeyChar (c : Char) : Bool := c.isAlphanum || c = '_' || c = '-'

/-- A part of a key. -/
def simpleKey? (s : List Char) : Option (String × List Char) :=
  match s with
  | '"' :: rest => (basic? (rest.length + 1) rest).map fun (k, rest) => (String.ofList k, rest)
  | '\'' :: rest => (literal? rest).map fun (k, rest) => (String.ofList k, rest)
  | s =>
    let name := s.takeWhile isKeyChar
    if name.isEmpty then none else some (String.ofList name, s.dropWhile isKeyChar)

/-- At most so many parts of a key, with points between them. -/
def keyParts? : (limit : Nat) → List Char → Option (List String × List Char)
  | 0, _ => none
  | limit + 1, s => do
    let (name, rest) ← simpleKey? (skipBlanks s)
    match skipBlanks rest with
    | '.' :: rest =>
      let (names, rest) ← keyParts? limit rest
      return (name :: names, rest)
    | rest => return ([name], rest)

/-- A key, and the rest after the blanks that follow it. -/
def key? (s : List Char) : Option (List String × List Char) := keyParts? (depthLimit - 1) s

/-- Skip a comment within a line. -/
def skipComment? : List Char → Option (List Char)
  | '#' :: rest =>
    let rest := rest.dropWhile isShown
    if rest.isEmpty || (newline? rest).isSome then some rest else none
  | s => some s

/-- Skip blanks, line ends and comments between the items of an array. -/
def skipSpace? : (fuel : Nat) → List Char → Option (List Char)
  | 0, _ => none
  | fuel + 1, s => do
    let rest ← skipComment? (skipBlanks s)
    match newline? rest with
    | some rest => skipSpace? fuel rest
    | none => some rest

mutual

/-- A value; `depth` counts the brackets around it. -/
def value? : (fuel : Nat) → (depth : Nat) → List Char → Option (Toml × List Char)
  | 0, _, _ => none
  | fuel + 1, depth, s =>
    match s with
    | [] => none
    | '"' :: _ | '\'' :: _ => (text? s).map fun (t, rest) => (.string (String.ofList t), rest)
    | '[' :: rest =>
      if depthLimit ≤ depth + 1 then none
      else (items? fuel (depth + 1) rest).map fun (items, rest) => (.array items, rest)
    | '\x7b' :: rest =>
      if depthLimit ≤ depth + 1 then none
      else
        match skipBlanks rest with
        | '\x7d' :: rest => some (.table [], rest)
        | rest => (pairs? fuel (depth + 1) rest []).map fun (slots, rest) =>
            (.table (finishSlots slots), rest)
    | 't' :: 'r' :: 'u' :: 'e' :: rest => some (.boolean true, rest)
    | 'f' :: 'a' :: 'l' :: 's' :: 'e' :: rest => some (.boolean false, rest)
    | 'i' :: _ | 'n' :: _ => float? s
    | c :: _ => if c.isDigit || c = '+' || c = '-' then numeric? s else none

/-- The items of an array up to its closing bracket; a comma may follow the last one. -/
def items? : (fuel : Nat) → (depth : Nat) → List Char → Option (List Toml × List Char)
  | 0, _, _ => none
  | fuel + 1, depth, s => do
    match ← skipSpace? (s.length + 1) s with
    | ']' :: rest => return ([], rest)
    | s =>
      let (item, rest) ← value? fuel depth s
      match ← skipSpace? (rest.length + 1) rest with
      | ',' :: rest =>
        let (items, rest) ← items? fuel depth rest
        return (item :: items, rest)
      | ']' :: rest => return ([item], rest)
      | _ => none

/-- The entries of a table on one line up to its closing brace. -/
def pairs? : (fuel : Nat) → (depth : Nat) → List Char → Slots → Option (Slots × List Char)
  | 0, _, _, _ => none
  | fuel + 1, depth, s, slots => do
    let (key, value, rest) ← pair? fuel depth s
    let slots ← assign value false key true slots
    match skipBlanks rest with
    | ',' :: rest => pairs? fuel depth rest slots
    | '\x7d' :: rest => return (slots, rest)
    | _ => none

/-- A key with its value. -/
def pair? : (fuel : Nat) → (depth : Nat) → List Char → Option (List String × Toml × List Char)
  | 0, _, _ => none
  | fuel + 1, depth, s => do
    let (key, rest) ← key? s
    match rest with
    | '=' :: rest =>
      let (value, rest) ← value? fuel depth (skipBlanks rest)
      return (key, value, rest)
    | _ => none

end

/-- The settings read so far and the heading they stand under. -/
structure Sheet where
  slots : Slots := []
  heading : List String := []
deriving Inhabited

namespace Sheet

/-- Take up a heading: the last part of its key names the table. -/
def head (sheet : Sheet) (isRow : Bool) (key : List String) : Option Sheet := do
  let name ← key.getLast?
  let slots ← underHeading (if isRow then headNext name else headTable name) key.dropLast sheet.slots
  return { slots, heading := key }

/-- Set a key under the heading. -/
def set (sheet : Sheet) (key : List String) (value : Toml) : Option Sheet := do
  let slots ← underHeading (assign value false key true) sheet.heading sheet.slots
  return { sheet with slots }

end Sheet

/-- The heading of a table, or of the next table of a row, after its first bracket. -/
def heading? (s : List Char) : Option (Bool × List String × List Char) :=
  let close (isRow : Bool) : List Char → Option (List Char)
    | ']' :: rest =>
      if isRow then
        match rest with
        | ']' :: rest => some rest
        | _ => none
      else some rest
    | _ => none
  let (isRow, s) := match s with
    | '[' :: rest => (true, rest)
    | s => (false, s)
  do
    let (key, rest) ← key? s
    let rest ← close isRow rest
    return (isRow, key, rest)

/-- Read what stands on a line before its comment. -/
def line? (sheet : Sheet) (s : List Char) : Option (Sheet × List Char) :=
  match s with
  | [] => some (sheet, [])
  | '#' :: _ | '\n' :: _ | '\r' :: _ => some (sheet, s)
  | '[' :: rest => do
    let (isRow, key, rest) ← heading? rest
    return (← sheet.head isRow key, rest)
  | s => do
    let (key, value, rest) ← pair? (s.length + 2) 0 s
    return (← sheet.set key value, rest)

/-- Read settings line by line. -/
def lines? : (fuel : Nat) → Sheet → List Char → Option Sheet
  | 0, _, _ => none
  | fuel + 1, sheet, s => do
    let (sheet, rest) ← line? sheet (skipBlanks s)
    match ← skipComment? (skipBlanks rest) with
    | [] => return sheet
    | rest => lines? fuel sheet (← newline? rest)

/-- The entries of a settings text, in the order of their keys; none for a text that is no
settings. -/
def read? (text : String) : Option (List (String × Toml)) :=
  let s := match text.toList with
    | '\ufeff' :: rest => rest
    | s => s
  (lines? (s.length + 1) {} s).map fun sheet => finishSlots sheet.slots

end Toml
end Bindery
