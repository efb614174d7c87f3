import Bindery.Markdown.Cursor
import Bindery.Markdown.Event

/-!
# Blocks and the marks they start with

The block structure of a document, with inline text left unread, and the recognizers of the marks
that start blocks. A recognizer looks at a line from its first character that is no space.
-/

namespace Bindery
namespace Markdown

/-- A block. -/
inductive Block where
  /-- A paragraph; `task` is the mark of a task that its text starts with. -/
  | paragraph (task : Option Bool) (text : List Char)
  /-- A heading; `closed` tells whether it ended with a closing run of number signs. -/
  | heading (level : Nat) (attributes : HeadingAttributes) (task : Option Bool) (closed : Bool)
      (text : List Char)
  | code (kind : CodeKind) (text : List Char)
  /-- Raw HTML by lines, each with the number of spaces it is indented by. -/
  | html (lines : List (Nat × List Char))
  | rule
  /-- A table; the first row is its head. -/
  | table (alignments : List Alignment) (rows : List (List (List Char)))
  /-- The mark of a task that has no text. -/
  | task (checked : Bool)
  | quote (children : List Block)
  | list (tight : Bool) (start : Option Nat) (items : List Block)
  | item (children : List Block)
  | footnote (label : List Char) (children : List Block)
deriving Repr

namespace Mark

/-- Whether a line is a rule: three or more of one mark, with blanks between them. -/
def isRule (s : List Char) : Bool :=
  match s with
  | [] => false
  | c :: _ =>
    (c = '*' || c = '-' || c = '_') && s.all (fun d => d = c || d = ' ' || d = '\t')
      && 3 ≤ s.count c

/-- The level of a heading that starts with number signs. -/
def headingLevel? (s : List Char) : Option Nat :=
  let level := (s.takeWhile (· = '#')).length
  if 1 ≤ level && level ≤ 6 && (s.drop level).head?.all Scan.isAsciiBlank then some level else none

/-- The level of a heading that a line underlines. -/
def underline? (s : List Char) : Option Nat :=
  match s with
  | [] => none
  | c :: _ =>
    if (c = '=' || c = '-') && (s.dropWhile (· = c)).all Scan.isLineBlank then
      some (if c = '=' then 1 else 2)
    else none

/-- The mark and length of an opening code fence. A fence of backticks has none after it. -/
def fence? (s : List Char) : Option (Char × Nat) :=
  match s with
  | [] => none
  | c :: _ =>
    let count := (s.takeWhile (· = c)).length
    if (c = '\x60' || c = '~') && 3 ≤ count && !(c = '\x60' && (s.drop count).contains '\x60') then
      some (c, count)
    else none

/-- Whether a line closes a code fence. -/
def closesFence (c : Char) (count : Nat) (s : List Char) : Bool :=
  count ≤ (s.takeWhile (· = c)).length && (s.dropWhile (· = c)).all (· = ' ')

/-- A list marker: its mark, the number it starts with, and what follows it. -/
def listMark? (s : List Char) : Option (Char × Nat × List Char) :=
  match s with
  | [] => none
  | c :: rest =>
    if c = '-' || c = '+' || c = '*' then some (c, 0, rest)
    else
      let digits := s.takeWhile Char.isDigit
      if digits.isEmpty || 9 < digits.length then none
      else
        match s.drop digits.length with
        | '.' :: after => some ('.', digits.foldl (fun n c => 10 * n + (c.toNat - 48)) 0, after)
        | ')' :: after => some (')', digits.foldl (fun n c => 10 * n + (c.toNat - 48)) 0, after)
        | _ => none

/-- A list marker that is followed by a blank or the end of the line. -/
def listItem? (s : List Char) : Option (Char × Nat × List Char) :=
  match listMark? s with
  | some (c, start, after) =>
    if after.head?.all (fun c => c = ' ' || c = '\t') then some (c, start, after) else none
  | none => none

/-- Raw HTML that ends with a marker: what ends it. -/
def htmlEnd? (s : List Char) : Option (List Char) :=
  let named := ["pre", "style", "script", "textarea"].find? fun name =>
    let n := name.length
    String.ofList ((s.drop 1).take n |>.map Char.toLower) = name && s.head? = some '<'
      && (s.drop (n + 1)).head?.all fun c => Scan.isAsciiBlank c || c = '>'
  match named with
  | some name => some ("</" ++ name ++ ">").toList
  | none =>
    match s with
    | '<' :: '!' :: '-' :: '-' :: _ => some ['-', '-', '>']
    | '<' :: '?' :: _ => some ['?', '>']
    | '<' :: '!' :: '[' :: 'C' :: 'D' :: 'A' :: 'T' :: 'A' :: '[' :: _ => some [']', ']', '>']
    | '<' :: '!' :: c :: _ => if c.isAlpha then some ['>'] else none
    | _ => none

/-- The elements whose tags start a block of raw HTML. -/
def blockElements : List String := [
  "address", "article", "aside", "base", "basefont", "blockquote", "body", "caption", "center",
  "col", "colgroup", "dd", "details", "dialog", "dir", "div", "dl", "dt", "fieldset",
  "figcaption", "figure", "footer", "form", "frame", "frameset", "h1", "h2", "h3", "h4", "h5",
  "h6", "head", "header", "hr", "html", "iframe", "legend", "li", "link", "main", "menu",
  "menuitem", "nav", "noframes", "ol", "optgroup", "option", "p", "param", "search", "section",
  "summary", "table", "tbody", "td", "tfoot", "th", "thead", "title", "tr", "track", "ul"]

/-- Whether a line starts with the tag of a block element. -/
def isBlockTag (s : List Char) : Bool :=
  match s with
  | '<' :: rest =>
    let rest := if rest.head? = some '/' then rest.drop 1 else rest
    let name := rest.takeWhile Char.isAlphanum
    let after := rest.drop name.length
    blockElements.contains (String.ofList (name.map Char.toLower))
      && (after.head?.all (fun c => c = ' ' || c = '\t' || c = '>') || ['/', '>'].isPrefixOf after)
  | _ => false

/-- Whether a line is a single complete tag of any element. -/
def isLoneTag (s : List Char) : Bool :=
  match Scan.htmlTag? false s with
  | some after => after.all Scan.isLineBlank
  | none => false

/-- The label of a footnote definition and what follows its colon. -/
def footnote? (s : List Char) : Option (List Char × List Char) :=
  match s with
  | '[' :: '^' :: body =>
    match Scan.label? body with
    | some (label, ':' :: after) => some (label, after)
    | _ => none
  | _ => none

/-- The alignments of the columns that a delimiter row sets. `column` is the alignment read so far
in the current column, `fresh` whether it is still empty, `dashes` whether it has a hyphen, and
`pipes` whether a pipe came up. -/
def delimiters? (column : Alignment) (fresh dashes pipes : Bool) :
    List Char → Option (List Alignment)
  | [] =>
    if fresh then if pipes then some [] else none
    else if pipes && dashes then some [column] else none
  | c :: rest =>
    if c = ' ' || c = '\t' then delimiters? column fresh dashes pipes rest
    else if c = ':' then
      let column := match fresh, column with
        | true, .none => .left
        | false, .left => .center
        | false, .none => .right
        | _, column => column
      delimiters? column false dashes pipes rest
    else if c = '-' then delimiters? column false true pipes rest
    else if c = '|' then
      if dashes then (delimiters? .none true false true rest).map (column :: ·) else none
    else none

/-- The alignments that a delimiter row sets; none if the line is no delimiter row. -/
def delimiterRow? (s : List Char) : Option (List Alignment) :=
  match s with
  | '|' :: rest => delimiters? .none true false true rest
  | s => delimiters? .none true false false s

/-- The number of pipes of a line that no backslash stands before. -/
def pipes : (escaped : Bool) → List Char → Nat
  | _, [] => 0
  | escaped, c :: rest =>
    (if c = '|' && !escaped then 1 else 0) + pipes (c = '\\') rest

/-- The number of columns of a table head: a pipe at either end starts no column. -/
def headColumns (s : List Char) : Nat :=
  let count := pipes false s
  let trimmed := s.dropWhile Scan.isLineBlank
  let count := if trimmed.head? = some '|' then count - 1 else count
  let tail := s.reverse.dropWhile Scan.isLineBlank
  let closed := tail.head? = some '|' && tail.tail.head? ≠ some '\\'
  if closed then count else count + 1

/-- Whether a line can be the head of a table: it has a pipe and does not end with a lone
backslash. -/
def canHeadTable (s : List Char) : Bool :=
  0 < pipes false s && (s.reverse.takeWhile (· = '\\')).length % 2 = 0

/-- The text of a cell up to the next pipe that no backslash stands before, and the rest. The
backslash before a pipe is dropped. -/
def cell : List Char → List Char × List Char
  | [] => ([], [])
  | '\\' :: '|' :: rest => let (text, after) := cell rest; ('|' :: text, after)
  | '|' :: rest => ([], '|' :: rest)
  | c :: rest => let (text, after) := cell rest; (c :: text, after)

/-- The cells of a row. -/
def cells : (fuel : Nat) → List Char → List (List Char)
  | 0, _ => []
  | fuel + 1, s =>
    let s := if s.head? = some '|' then s.drop 1 else s
    let s := s.dropWhile Scan.isLineBlank
    if s.isEmpty then []
    else
      let (text, rest) := cell s
      text :: cells fuel rest

/-- The cells of a row with a given number of columns: surplus cells are dropped and missing ones
are empty. -/
def row (columns : Nat) (cells : List (List Char)) : List (List Char) :=
  cells.take columns ++ List.replicate (columns - cells.length) []

/-- The attributes inside the braces at the end of a heading. Words of one ASCII character are
dropped. -/
def readAttributes (inside : List Char) : HeadingAttributes :=
  let words := (String.ofList inside).split (fun c => Scan.isAsciiBlank c && c ≠ '\x0b') |>.toList
    |>.map (fun w => w.toString.toList)
  words.foldl (fun attributes word =>
    match word with
    | [] => attributes
    | [c] =>
      if c.val < 0x80 then attributes
      else { attributes with attrs := attributes.attrs ++ [(String.ofList word, none)] }
    | '#' :: id => { attributes with id := some (String.ofList id) }
    | '.' :: name => { attributes with classes := attributes.classes ++ [String.ofList name] }
    | word =>
      let key := word.takeWhile (· ≠ '=')
      let value := match word.drop key.length with
        | _ :: value => some (String.ofList value)
        | [] => none
      { attributes with attrs := attributes.attrs ++ [(String.ofList key, value)] }) {}

/-- Cut the block of attributes off the end of a heading. -/
def cutAttributes (s : List Char) : List Char × HeadingAttributes :=
  match s.reverse.dropWhile (fun c => c = ' ' || c = '\t' || c = '\n') with
  | '\x7d' :: rest =>
    let isBarred (c : Char) : Bool := ['\x7b', '\x7d', '<', '>', '\\', '\n', '\r'].contains c
    match rest.dropWhile (!isBarred ·) with
    | '\x7b' :: text => (text.reverse, readAttributes (rest.takeWhile (!isBarred ·)).reverse)
    | _ => (s, {})
  | _ => (s, {})

/-- Cut the closing run of number signs off a heading; whether there was one. -/
def cutClosing (s : List Char) : List Char × Bool :=
  let trimmed := s.reverse.dropWhile (· = ' ')
  match trimmed.dropWhile (· = '#') with
  | [] => ([], !trimmed.isEmpty)
  | ' ' :: rest =>
    if trimmed.head? = some '#' then ((rest.dropWhile (· = ' ')).reverse, true)
    else (trimmed.reverse, false)
  | _ => (trimmed.reverse, false)

/-- A title that stands alone up to the end of its line, as written, and what follows it. -/
def titleLine? (s : List Char) : Option (List Char × List Char) :=
  match Scan.title? s with
  | some (title, after) =>
    let after := after.dropWhile Scan.isLineBlank
    if after.head?.all (· = '\n') then some (title, after) else none
  | none => none

/-- A link definition at the start of a line and of the lines that could go on with a paragraph, each
with whether it has the marks of all open containers: its label, target and title, and the number of
lines it takes. Only the label may go on with a line that lacks such marks. A target may only be
empty between angle brackets. A title that does not end its line belongs to the text that follows if
it began on a line of its own, and else there is no definition. -/
def definition? (line : List Char) (lines : List (Bool × List Char)) :
    Option (List Char × List Char × List Char × Nat) :=
  let join (lines : List (List Char)) : List Char := List.intercalate ['\n'] lines
  let text := join (line :: lines.map (·.2))
  match text with
  | '[' :: body =>
    match Scan.label? body with
    | some (label, ':' :: after) =>
      let labelLines := (Scan.before text after).count '\n'
      let inside := ((lines.drop labelLines).takeWhile (·.1)).map (·.2)
      let after := join (after.takeWhile (· ≠ '\n') :: inside)
      let taken (rest : List Char) : Nat := labelLines + (Scan.before after rest).count '\n' + 1
      let target := Scan.separator after
      match Scan.dest? target with
      | some (dest, rest) =>
        let gap := rest.dropWhile Scan.isLineBlank
        let plain := (label, Scan.unescape dest, [], taken gap)
        let (start, fresh) := match gap with
          | '\n' :: next => (next.dropWhile Scan.isLineBlank, true)
          | gap => (gap, false)
        if rest.length = target.length then none
        else if gap.isEmpty then some plain
        else if !fresh && gap.length = rest.length then none
        else
          match titleLine? start with
          | some (title, after) =>
            some (label, Scan.unescape dest, Scan.unescape (Scan.trimLines title), taken after)
          | none => if fresh then some plain else none
      | none => none
    | _ => none
  | _ => none

end Mark

end Markdown
end Bindery
