import Bindery.Text.Classes
import Bindery.Text.Entities

/-!
# Recognizing pieces of markdown

Character references, HTML tags, autolinks, link targets, titles and labels, each at the start of
a text. A recognizer returns what follows the piece.
-/

namespace Bindery
namespace Markdown
namespace Scan

/-- Blanks inside a line. -/
def isLineBlank (c : Char) : Bool := c = ' ' || c = '\t' || c = '\x0b' || c = '\x0c'

/-- Blanks and line ends of ASCII. -/
def isAsciiBlank (c : Char) : Bool := isLineBlank c || c = '\n' || c = '\r'

/-- The part of a text that comes before a rest of it. -/
def before (s rest : List Char) : List Char := s.take (s.length - rest.length)

/-- The value of decimal digits, at most `limit` of them, and the rest. -/
def decimalDigits (limit : Nat) (s : List Char) : List Char × List Char :=
  let digits := (s.take limit).takeWhile Char.isDigit
  (digits, s.drop digits.length)

/-- The character of a numeric reference. Zero stands for the replacement character. -/
def charOfCode? (n : Nat) : Option Char :=
  if n = 0 then some '\ufffd'
  else if h : n.isValidChar then some (Char.ofNatAux n h)
  else none

/-- A character reference after its ampersand: the text it stands for and the rest. -/
def reference? (s : List Char) : Option (List Char × List Char) :=
  match s with
  | '#' :: x :: rest =>
    if x = 'x' || x = 'X' then
      let digits := (rest.take 6).takeWhile fun c => (Text.hexValue c).isSome
      let value := digits.foldl (fun n c => 16 * n + (Text.hexValue c).getD 0) 0
      match digits, rest.drop digits.length with
      | _ :: _, ';' :: after => (charOfCode? value).map fun c => ([c], after)
      | _, _ => none
    else
      let (digits, rest) := decimalDigits 7 (x :: rest)
      let value := digits.foldl (fun n c => 10 * n + (c.toNat - '0'.toNat)) 0
      match digits, rest with
      | _ :: _, ';' :: after => (charOfCode? value).map fun c => ([c], after)
      | _, _ => none
  | s =>
    let name := s.takeWhile Char.isAlphanum
    match s.drop name.length with
    | ';' :: after => (Text.entity? name).map fun text => (text.toList, after)
    | _ => none

/-- Resolve backslash escapes and character references, with `fuel` at least the length. -/
def unescapeFrom : (fuel : Nat) → List Char → List Char
  | 0, s => s
  | _ + 1, [] => []
  | fuel + 1, '\\' :: c :: rest =>
    if Text.isAsciiPunctuation c then c :: unescapeFrom fuel rest
    else '\\' :: unescapeFrom fuel (c :: rest)
  | fuel + 1, '&' :: rest =>
    match reference? rest with
    | some (text, after) => text ++ unescapeFrom fuel after
    | none => '&' :: unescapeFrom fuel rest
  | fuel + 1, c :: rest => c :: unescapeFrom fuel rest

/-- Resolve backslash escapes and character references. -/
def unescape (s : List Char) : List Char := unescapeFrom s.length s

/-- Drop blanks and, where lines may end inside the piece, line ends. -/
def skipBlanks (lines : Bool) (s : List Char) : List Char :=
  s.dropWhile fun c => isLineBlank c || (lines && (c = '\n' || c = '\r'))

/-- Whether a character can start the name of an attribute. -/
def isAttributeStart (c : Char) : Bool := c.isAlpha || c = '_' || c = ':'

/-- Whether a character can go on with the name of an attribute. -/
def isAttributeChar (c : Char) : Bool := c.isAlphanum || c = '_' || c = ':' || c = '.' || c = '-'

/-- Whether a character can stand in an attribute value without quotes. -/
def isBareValueChar (c : Char) : Bool :=
  !isAsciiBlank c && c ≠ '"' && c ≠ '\'' && c ≠ '=' && c ≠ '<' && c ≠ '>' && c ≠ '\x60'

/-- The value of an attribute; what follows it. -/
def attributeValue? (lines : Bool) (s : List Char) : Option (List Char) :=
  match s with
  | [] => none
  | c :: rest =>
    if c = '"' || c = '\'' then
      let value := rest.takeWhile (· ≠ c)
      if !lines && value.any (fun d => d = '\n' || d = '\r') then none
      else
        match rest.drop value.length with
        | _ :: after => some after
        | [] => none
    else
      let after := s.dropWhile isBareValueChar
      if isBareValueChar c then some after else none

/-- An attribute: a name, and a value if an equals sign follows; what follows it. -/
def attribute? (lines : Bool) (s : List Char) : Option (List Char) :=
  match s with
  | [] => none
  | c :: rest =>
    if isAttributeStart c then
      let after := rest.dropWhile isAttributeChar
      match skipBlanks lines after with
      | '=' :: value => attributeValue? lines (skipBlanks lines value)
      | _ => some after
    else none

/-- The attributes of an open tag, up to the slash or bracket that ends it. -/
def attributes? (lines : Bool) : (fuel : Nat) → List Char → Option (List Char)
  | 0, _ => none
  | fuel + 1, s =>
    let trimmed := skipBlanks lines s
    match trimmed with
    | '/' :: _ => some trimmed
    | '>' :: _ => some trimmed
    | [] => none
    | _ =>
      if trimmed.length = s.length then none
      else
        match attribute? lines trimmed with
        | some after => attributes? lines fuel after
        | none => none

/-- An HTML tag, open or closing, from its bracket on; what follows it. A closing tag has no
attributes. -/
def htmlTag? (lines : Bool) (s : List Char) : Option (List Char) :=
  let name? (s : List Char) : Option (List Char) :=
    match s with
    | c :: rest =>
      if c.isAlpha then some (rest.dropWhile fun c => c.isAlphanum || c = '-') else none
    | [] => none
  match s with
  | '<' :: '/' :: rest =>
    match name? rest with
    | none => none
    | some rest =>
      match skipBlanks false rest with
      | '>' :: after => some after
      | _ => none
  | '<' :: rest =>
    match name? rest with
    | none => none
    | some rest =>
      match attributes? lines (rest.length + 1) rest with
      | some ('/' :: '>' :: after) => some after
      | some ('>' :: after) => some after
      | _ => none
  | _ => none

/-- What follows the first occurrence of a marker. -/
def afterMarker? (marker : List Char) : List Char → Option (List Char)
  | [] => if marker.isEmpty then some [] else none
  | c :: rest =>
    if marker.isPrefixOf (c :: rest) then some ((c :: rest).drop marker.length)
    else afterMarker? marker rest

/-- Inline HTML from its bracket on: a tag, a comment, a processing instruction, a declaration or
a character data section; what follows it. -/
def inlineHtml? (s : List Char) : Option (List Char) :=
  match s with
  | '<' :: '!' :: '-' :: '-' :: '>' :: after => some after
  | '<' :: '!' :: '-' :: '-' :: '-' :: '>' :: after => some after
  | '<' :: '!' :: '-' :: '-' :: rest => afterMarker? ['-', '-', '>'] rest
  | '<' :: '!' :: '[' :: 'C' :: 'D' :: 'A' :: 'T' :: 'A' :: '[' :: rest =>
    afterMarker? [']', ']', '>'] rest
  | '<' :: '!' :: c :: rest => if c.isAlpha then afterMarker? ['>'] rest else none
  | '<' :: '?' :: rest => afterMarker? ['?', '>'] rest
  | s => htmlTag? true s

/-- An autolink to a uri after its opening bracket: the uri and what follows the closing one. -/
def uri? (s : List Char) : Option (List Char × List Char) :=
  match s with
  | [] => none
  | c :: rest =>
    let tail := rest.takeWhile fun c => c.isAlphanum || c = '.' || c = '-' || c = '+'
    if c.isAlpha && 1 ≤ tail.length && tail.length ≤ 31 then
      match rest.drop tail.length with
      | ':' :: body =>
        let path := body.takeWhile fun c => 0x20 < c.toNat && c ≠ '<' && c ≠ '>'
        match body.drop path.length with
        | '>' :: after => some (c :: tail ++ ':' :: path, after)
        | _ => none
      | _ => none
    else none

/-- Whether a character can stand before the at sign of an address. -/
def isLocalChar (c : Char) : Bool :=
  c.isAlphanum || ".!#$%&'*+/=?^_\x60\x7b|\x7d~-".toList.contains c

/-- The labels of a domain: each has at most sixty-three characters and neither starts nor ends
with a hyphen; what follows them. -/
def domain? : (fuel : Nat) → List Char → Option (List Char)
  | 0, _ => none
  | fuel + 1, s =>
    let label := s.takeWhile fun c => c.isAlphanum || c = '-'
    if label.isEmpty || 63 < label.length || label.head? = some '-' || label.getLast? = some '-' then
      none
    else
      match s.drop label.length with
      | '.' :: rest => domain? fuel rest
      | rest => some rest

/-- An autolink to an address after its opening bracket: the address and what follows the closing
bracket. -/
def email? (s : List Char) : Option (List Char × List Char) :=
  let name := s.takeWhile isLocalChar
  if name.isEmpty then none
  else
    match s.drop name.length with
    | '@' :: rest =>
      match domain? (rest.length + 1) rest with
      | some ('>' :: after) => some (name ++ '@' :: before rest ('>' :: after), after)
      | _ => none
    | _ => none

/-- A link target in angle brackets, after the opening one. -/
def pointyDest? : List Char → Option (List Char × List Char)
  | [] => none
  | '\\' :: c :: rest =>
    if Text.isAsciiPunctuation c then
      (pointyDest? rest).map fun (dest, after) => ('\\' :: c :: dest, after)
    else if c = '\n' || c = '\r' then none
    else (pointyDest? rest).map fun (dest, after) => ('\\' :: c :: dest, after)
  | c :: rest =>
    if c = '\n' || c = '\r' || c = '<' then none
    else if c = '>' then some ([], rest)
    else (pointyDest? rest).map fun (dest, after) => (c :: dest, after)

/-- A bare link target: up to a blank or an unmatched closing parenthesis; `depth` counts the
parentheses that are open. -/
def bareDest? (depth : Nat) : List Char → Option (List Char × List Char)
  | [] => if depth = 0 then some ([], []) else none
  | '\\' :: c :: rest =>
    if Text.isAsciiPunctuation c then
      (bareDest? depth rest).map fun (dest, after) => ('\\' :: c :: dest, after)
    else if c.toNat ≤ 0x20 then
      if depth = 0 then some (['\\'], c :: rest) else none
    else (bareDest? depth rest).map fun (dest, after) => ('\\' :: c :: dest, after)
  | c :: rest =>
    if c.toNat ≤ 0x20 then if depth = 0 then some ([], c :: rest) else none
    else if c = '(' then
      if 32 < depth then none
      else (bareDest? (depth + 1) rest).map fun (dest, after) => (c :: dest, after)
    else if c = ')' then
      if depth = 0 then some ([], c :: rest)
      else (bareDest? (depth - 1) rest).map fun (dest, after) => (c :: dest, after)
    else (bareDest? depth rest).map fun (dest, after) => (c :: dest, after)

/-- A link target as written, and what follows it. -/
def dest? (s : List Char) : Option (List Char × List Char) :=
  match s with
  | '<' :: rest => pointyDest? rest
  | s => bareDest? 0 s

/-- A link title after its opening mark, as written, up to the closing mark. -/
def titleBody? (opening closing : Char) : List Char → Option (List Char × List Char)
  | [] => none
  | '\\' :: c :: rest =>
    if Text.isAsciiPunctuation c then
      (titleBody? opening closing rest).map fun (title, after) => ('\\' :: c :: title, after)
    else if c = closing then some (['\\'], rest)
    else (titleBody? opening closing rest).map fun (title, after) => ('\\' :: c :: title, after)
  | c :: rest =>
    if c = closing then some ([], rest)
    else if c = opening then none
    else (titleBody? opening closing rest).map fun (title, after) => (c :: title, after)

/-- A link title as written, without its marks, and what follows it. -/
def title? (s : List Char) : Option (List Char × List Char) :=
  match s with
  | '"' :: rest => titleBody? '"' '"' rest
  | '\'' :: rest => titleBody? '\'' '\'' rest
  | '(' :: rest => titleBody? '(' ')' rest
  | _ => none

/-- Drop the blanks at the start of every line of a title but the first. -/
def trimLines : List Char → List Char
  | [] => []
  | '\n' :: rest => '\n' :: trimLines (rest.dropWhile isLineBlank)
  | c :: rest => c :: trimLines rest
termination_by s => s.length
decreasing_by
  · have := (List.dropWhile_suffix (l := rest) isLineBlank).length_le
    simp only [List.length_cons]; omega
  · simp

/-- A link label after its opening bracket, as written, and what follows the closing one. It has
no bracket inside, fewer than a thousand characters and no two line ends in a row. -/
def labelBody? : (budget : Nat) → List Char → Option (List Char × List Char)
  | 0, _ => none
  | _, [] => none
  | _, ']' :: rest => some ([], rest)
  | _, '[' :: _ => none
  | budget + 1, '\\' :: c :: rest =>
    (labelBody? budget rest).map fun (label, after) => ('\\' :: c :: label, after)
  | budget + 1, c :: rest => (labelBody? budget rest).map fun (label, after) => (c :: label, after)

/-- Write every run of blanks as a single space. -/
def collapseBlanks : List Char → List Char
  | [] => []
  | c :: rest =>
    if isAsciiBlank c then ' ' :: collapseBlanks (rest.dropWhile isAsciiBlank)
    else c :: collapseBlanks rest
termination_by s => s.length
decreasing_by
  · have := (List.dropWhile_suffix (l := rest) isAsciiBlank).length_le
    simp only [List.length_cons]; omega
  · simp

/-- A link label after its opening bracket, with runs of blanks collapsed, and what follows it. A
label is not blank. -/
def label? (s : List Char) : Option (List Char × List Char) :=
  match labelBody? 1000 s with
  | some (label, after) =>
    if label.all isAsciiBlank then none else some (collapseBlanks label, after)
  | none => none

/-- An optional line end among blanks, as between the parts of an inline link. -/
def separator (s : List Char) : List Char :=
  match s.dropWhile isLineBlank with
  | '\r' :: '\n' :: rest => rest.dropWhile isLineBlank
  | '\n' :: rest => rest.dropWhile isLineBlank
  | rest => rest

/-- The target and title of an inline link after its opening parenthesis, as written, and what
follows the closing one. -/
def inlineTarget? (s : List Char) : Option (List Char × List Char × List Char) :=
  match dest? (separator s) with
  | none => none
  | some (dest, rest) =>
    let rest := separator rest
    let (title, rest) := match title? rest with
      | some (title, after) => (title, separator after)
      | none => ([], rest)
    match rest with
    | ')' :: after => some (dest, title, after)
    | _ => none

end Scan
end Markdown
end Bindery
