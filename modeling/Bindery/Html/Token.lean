import Bindery.Text.Classes
import Bindery.Text.Entities

/-!
# Markup tokens

A markup text is a sequence of tags, comments and runs of text. No text is refused: what does not
form a tag or a comment is text, and what breaks off inside a tag is dropped.

Where a run of text ends depends on the element that holds it, so `nextTokens` takes that as an
argument instead of reading the whole text at once.
-/

namespace Bindery
namespace Html

/-- A start tag; of two attributes of one name the first is kept. -/
structure StartTag where
  name : String
  attributes : List (String × String) := []
  selfClosing : Bool := false
deriving DecidableEq, Repr, Inhabited

/-- A piece of a markup text. -/
inductive Token where
  | start (tag : StartTag)
  | stop (name : String)
  | text (run : List Char)
  | comment (s : List Char)
  | null
deriving Repr, Inhabited

/-- How text is read, by the element that holds it. -/
inductive Reading where
  | markup
  | escapable (name : String)
  | raw (name : String)
  | script
  | toEnd
deriving DecidableEq, Repr, Inhabited

namespace Lexer

/-- The blanks of markup. -/
def isSpace (c : Char) : Bool := c = ' ' || c = '\t' || c = '\n' || c = '\x0c' || c = '\r'

/-- The character that stands where a null character is not allowed. -/
def replacement : Char := '\ufffd'

/-- A run without null characters. -/
def withoutNull (s : List Char) : List Char :=
  s.map fun c => if c = '\x00' then replacement else c

/-- Every line end as one line feed, and no byte order mark in front. -/
def normalize (s : List Char) : List Char :=
  let rec lines : List Char → List Char
    | '\r' :: '\n' :: rest => '\n' :: lines rest
    | '\r' :: rest => '\n' :: lines rest
    | c :: rest => c :: lines rest
    | [] => []
  match s with
  | '\ufeff' :: rest => lines rest
  | s => lines s

/-! ## Character references -/

/-- The characters of the codes 128 to 159 in the character set of old documents. -/
def westernCodes : Array Nat := #[
  0x20ac, 0x81, 0x201a, 0x192, 0x201e, 0x2026, 0x2020, 0x2021, 0x2c6, 0x2030, 0x160, 0x2039,
  0x152, 0x8d, 0x17d, 0x8f, 0x90, 0x2018, 0x2019, 0x201c, 0x201d, 0x2022, 0x2013, 0x2014, 0x2dc,
  0x2122, 0x161, 0x203a, 0x153, 0x9d, 0x17e, 0x178]

/-- The character of a numeric reference. -/
def charOfCode (n : Nat) : Char :=
  if 0x80 ≤ n && n ≤ 0x9f then Char.ofNat (westernCodes[n - 0x80]?.getD n)
  else if n = 0 || 0x10ffff < n || (0xd800 ≤ n && n ≤ 0xdfff) then replacement
  else Char.ofNat n

/-- The value of digits in a base. -/
def codeOf (base : Nat) (digits : List Char) : Nat :=
  digits.foldl (fun n c => n * base + (Text.hexValue c).getD 0) 0

/-- A numeric reference, after its number sign, with what follows it. -/
def numericReference? (s : List Char) : Option (List Char × List Char) :=
  let finish (base : Nat) (digits rest : List Char) : Option (List Char × List Char) :=
    if digits.isEmpty then none
    else some ([charOfCode (codeOf base digits)],
      match rest with
      | ';' :: rest => rest
      | rest => rest)
  match s with
  | 'x' :: rest | 'X' :: rest =>
    let isHex (c : Char) := (Text.hexValue c).isSome
    finish 16 (rest.takeWhile isHex) (rest.dropWhile isHex)
  | s => finish 10 (s.takeWhile Char.isDigit) (s.dropWhile Char.isDigit)

/-- The longest name at the front of a run that needs no semicolon. -/
def bareName? (run : List Char) : (length : Nat) → Option (List Char)
  | 0 => none
  | length + 1 =>
    let name := run.take (length + 1)
    if Text.bareEntities.contains (String.ofList name) then some name else bareName? run length

/-- A named reference, with what follows it. Inside an attribute a name without a semicolon is
no reference if it goes on. -/
def namedReference? (inAttribute : Bool) (s : List Char) : Option (List Char × List Char) :=
  let run := s.takeWhile Char.isAlphanum
  let bare : Option (List Char × List Char) := do
    let name ← bareName? run (min run.length 6)
    let rest := s.drop name.length
    let goesOn := match rest with
      | c :: _ => c = '=' || c.isAlphanum
      | [] => false
    if inAttribute && goesOn then none
    else
      let value ← Text.entity? name
      some (value.toList, rest)
  match s.dropWhile Char.isAlphanum with
  | ';' :: rest =>
    match Text.entity? run with
    | some value => some (value.toList, rest)
    | none => bare
  | _ => bare

/-- A character reference, after its ampersand. -/
def reference? (inAttribute : Bool) : List Char → Option (List Char × List Char)
  | '#' :: rest => numericReference? rest
  | s => namedReference? inAttribute s

/-- Replace the character references of a run. -/
def decode (inAttribute : Bool) (s : List Char) : List Char :=
  let rec go : (fuel : Nat) → List Char → List Char
    | 0, _ => []
    | _ + 1, [] => []
    | fuel + 1, '&' :: rest =>
      match reference? inAttribute rest with
      | some (value, rest) => value ++ go fuel rest
      | none => '&' :: go fuel rest
    | fuel + 1, c :: rest => c :: go fuel rest
  go s.length s

/-! ## Tags -/

/-- A name in small letters. -/
def lowerName (s : List Char) : String := String.ofList ((withoutNull s).map Char.toLower)

/-- Whether a character ends a tag name. -/
def endsName (c : Char) : Bool := isSpace c || c = '/' || c = '>'

/-- An attribute value as it is kept. -/
def attributeValue (s : List Char) : String := String.ofList (decode true (withoutNull s))

/-- An attribute value, after its equals sign, with what follows it. -/
def value? (s : List Char) : Option (String × List Char) :=
  let quoted (mark : Char) (s : List Char) : Option (String × List Char) :=
    match s.dropWhile (· ≠ mark) with
    | [] => none
    | _ :: rest => some (attributeValue (s.takeWhile (· ≠ mark)), rest)
  let isBare (c : Char) := !(isSpace c || c = '>')
  match s.dropWhile isSpace with
  | '"' :: rest => quoted '"' rest
  | '\'' :: rest => quoted '\'' rest
  | s => some (attributeValue (s.takeWhile isBare), s.dropWhile isBare)

/-- The attributes of a tag up to its end, whether it closes itself, and what follows it. -/
def attributes? : (fuel : Nat) → List Char → List (String × String) →
    Option (List (String × String) × Bool × List Char)
  | 0, _, _ => none
  | fuel + 1, s, found =>
    let add (name value : String) : List (String × String) :=
      if found.any (·.1 == name) then found else found ++ [(name, value)]
    match s.dropWhile isSpace with
    | [] => none
    | '>' :: rest => some (found, false, rest)
    | '/' :: '>' :: rest => some (found, true, rest)
    | '/' :: rest => attributes? fuel rest found
    | c :: rest =>
      -- An equals sign may begin a name but not go on with it.
      let goesOn (c : Char) := !(endsName c || c = '=')
      let name := lowerName (c :: rest.takeWhile goesOn)
      let rest := rest.dropWhile goesOn
      match rest.dropWhile isSpace with
      | '=' :: rest =>
        match value? rest with
        | some (value, rest) => attributes? fuel rest (add name value)
        | none => none
      | rest => attributes? fuel rest (add name "")

/-- A tag from its name on, with what follows it. -/
def tag? (s : List Char) : Option (StartTag × List Char) := do
  let isName (c : Char) := !endsName c
  let rest := s.dropWhile isName
  let (attributes, selfClosing, rest) ← attributes? (rest.length + 1) rest []
  some (⟨lowerName (s.takeWhile isName), attributes, selfClosing⟩, rest)

/-! ## Comments -/

/-- How much of the end of a comment has been read. -/
inductive CommentEnd where
  | atStart
  | atStartDash
  | no
  | dash
  | dashes
  | bang
deriving DecidableEq, Repr

/-- The inside of a comment, after its opening, with what follows it. -/
def comment : CommentEnd → List Char → List Char × List Char
  | _, [] => ([], [])
  | place, c :: rest =>
    -- The character inside the comment, after some that turned out not to end it.
    let inside (held : List Char) : List Char × List Char :=
      if c = '-' then
        let (body, rest) := comment .dash rest
        (held ++ body, rest)
      else
        let (body, rest) := comment .no rest
        (held ++ (if c = '\x00' then replacement else c) :: body, rest)
    match place with
    | .atStart =>
      if c = '-' then comment .atStartDash rest else if c = '>' then ([], rest) else inside []
    | .atStartDash =>
      if c = '-' then comment .dashes rest else if c = '>' then ([], rest) else inside ['-']
    | .no => inside []
    | .dash => if c = '-' then comment .dashes rest else inside ['-']
    | .dashes =>
      if c = '>' then ([], rest)
      else if c = '!' then comment .bang rest
      else if c = '-' then
        let (body, rest) := comment .dashes rest
        ('-' :: body, rest)
      else inside ['-', '-']
    | .bang =>
      if c = '>' then ([], rest)
      else if c = '-' then
        let (body, rest) := comment .dash rest
        (['-', '-', '!'] ++ body, rest)
      else inside ['-', '-', '!']

/-- Text up to a closing mark, which is dropped. -/
def upTo (isEnd : List Char → Bool) (width : Nat) : List Char → List Char × List Char
  | [] => ([], [])
  | c :: rest =>
    if isEnd (c :: rest) then ([], (c :: rest).drop width)
    else
      let (body, rest) := upTo isEnd width rest
      (c :: body, rest)

/-- A declaration that is none, up to its end, as a comment. -/
def bogusComment (s : List Char) : List Token × List Char :=
  let (body, rest) := upTo (fun s => s.head? = some '>') 1 s
  ([.comment (withoutNull body)], rest)

/-! ## Text -/

/-- Whether markup begins after a less-than sign. -/
def beginsMarkup : List Char → Bool
  | '/' :: rest => !rest.isEmpty
  | c :: _ => c.isAlpha || c = '!' || c = '?'
  | [] => false

/-- Whether the end tag of an element begins here. -/
def beginsEndTag (name : String) (s : List Char) : Bool :=
  match s with
  | '<' :: '/' :: rest =>
    let width := name.length
    lowerName (rest.take width) == name && (rest.drop width).head?.any endsName
  | _ => false

/-- Split before the first place that passes a test. -/
def splitBefore (test : List Char → Bool) : List Char → List Char × List Char
  | [] => ([], [])
  | c :: rest =>
    if test (c :: rest) then ([], c :: rest)
    else
      let (before, after) := splitBefore test rest
      (c :: before, after)

/-- How deep a script is inside a comment. -/
inductive ScriptDepth where
  | plain
  | escaped
  | doubled
deriving DecidableEq, Repr

/-- Whether the word `script` begins here and ends as a tag name does. -/
def beginsScriptWord (s : List Char) : Bool :=
  lowerName (s.take 6) == "script" && (s.drop 6).head?.any endsName

/-- The text of a script, up to the end tag that ends it; `dashes` counts the dashes just read. -/
def scriptText (depth : ScriptDepth) (dashes : Nat) : List Char → List Char × List Char
  | [] => ([], [])
  | c :: rest =>
    let goOn (depth : ScriptDepth) (dashes : Nat) : List Char × List Char :=
      let (before, after) := scriptText depth dashes rest
      (c :: before, after)
    match depth with
    | .plain =>
      if beginsEndTag "script" (c :: rest) then ([], c :: rest)
      else if c = '-' && 0 < dashes then
        -- The dashes of a comment's opening: after the second one the text is escaped.
        if dashes = 1 then goOn .escaped 2 else goOn .plain (dashes - 1)
      else if c = '<' && rest.take 3 = ['!', '-', '-'] then goOn .plain 3
      else if c = '!' && dashes = 3 then goOn .plain 2
      else goOn .plain 0
    | .escaped =>
      if beginsEndTag "script" (c :: rest) then ([], c :: rest)
      else if c = '-' then goOn .escaped (dashes + 1)
      else if c = '>' && 2 ≤ dashes then goOn .plain 0
      else if c = '<' && beginsScriptWord rest then goOn .doubled 0
      else goOn .escaped 0
    | .doubled =>
      if c = '-' then goOn .doubled (dashes + 1)
      else if c = '>' && 2 ≤ dashes then goOn .plain 0
      else if c = '<' && rest.head? = some '/' && beginsScriptWord (rest.drop 1) then
        goOn .escaped 0
      else goOn .doubled 0

end Lexer

open Lexer

/-- The tokens after a less-than sign that begins markup, and what follows them. -/
def markupTokens (foreign : Bool) (s : List Char) : List Token × List Char :=
  match s with
  | '/' :: '>' :: rest => ([], rest)
  | '/' :: c :: rest =>
    if c.isAlpha then
      match tag? (c :: rest) with
      | some (tag, rest) => ([.stop tag.name], rest)
      | none => ([], [])
    else bogusComment (c :: rest)
  | '!' :: '-' :: '-' :: rest =>
    let (body, rest) := comment .atStart rest
    ([.comment body], rest)
  | '!' :: rest =>
    if lowerName (rest.take 7) == "doctype" then ([], (bogusComment rest).2)
    else if foreign && rest.take 7 == "[CDATA[".toList then
      let (body, rest) := upTo (fun s => s.take 3 == [']', ']', '>']) 3 (rest.drop 7)
      ([.text (withoutNull body)], rest)
    else bogusComment rest
  | '?' :: _ => bogusComment s
  | s =>
    match tag? s with
    | some (tag, rest) => ([.start tag], rest)
    | none => ([], [])

/-- The next tokens of a markup text and the rest of it; `none` at its end. -/
def nextTokens (reading : Reading) (foreign : Bool) (s : List Char) :
    Option (List Token × List Char) :=
  let run (before after : List Char) : Option (List Token × List Char) :=
    if before.isEmpty then
      match after with
      | [] => none
      | _ :: rest => some (markupTokens foreign rest)
    else some ([.text before], after)
  match reading with
  | .markup =>
    match s with
    | '\x00' :: rest => some ([.null], rest)
    | s =>
      let stops : List Char → Bool
        | '<' :: rest => beginsMarkup rest
        | c :: _ => c = '\x00'
        | [] => false
      let (before, after) := splitBefore stops s
      run (decode false before) after
  | .escapable name =>
    let (before, after) := splitBefore (beginsEndTag name) s
    run (decode false (withoutNull before)) after
  | .raw name =>
    let (before, after) := splitBefore (beginsEndTag name) s
    run (withoutNull before) after
  | .script =>
    let (before, after) := scriptText .plain 0 s
    run (withoutNull before) after
  | .toEnd => run (withoutNull s) []

end Html
end Bindery
