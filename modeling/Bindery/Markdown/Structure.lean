import Bindery.Markdown.Block
import Bindery.Markdown.Inline

/-!
# Block structure

The lines of a document are read one after the other. The state holds the constructs that are
open: containers (quotes, lists, items and footnotes), each with the blocks finished inside it,
and at most one leaf block that goes on from line to line. A line first passes the containers it
goes on with; what does not go on is closed, except that a paragraph also goes on with a line that
lacks the marks of its containers, as long as that line starts nothing new.
-/

namespace Bindery
namespace Markdown
namespace Structure

/-- An open container. -/
inductive Container where
  | quote
  | list (tight : Bool) (mark : Char) (start : Nat)
  /-- An item whose lines are indented; a `fresh` one began with a blank line. -/
  | item (indent : Nat) (fresh : Bool)
  | footnote (label : List Char)
deriving Repr

/-- An open container and the blocks inside it, last first. -/
structure Frame where
  container : Container
  children : List Block := []
deriving Repr

/-- An open leaf block. Lines and pieces of text are kept last first. -/
inductive OpenLeaf where
  | paragraph (task : Option Bool) (lines : List (List Char))
  | fenced (indent : Nat) (mark : Char) (count : Nat) (info : String) (text : List (List Char))
  /-- Indented code; the flag of a line tells whether it is blank. -/
  | indented (lines : List (Bool × List Char))
  /-- Raw HTML that ends with a marker, or with a blank line. -/
  | html (marker : Option (List Char)) (lines : List (Nat × List Char))
  | table (alignments : List Alignment) (rows : List (List (List Char)))
deriving Repr

/-- The state between two lines. -/
structure State where
  /-- The blocks finished outside of all open containers, last first. -/
  blocks : List Block := []
  /-- The open containers, innermost first. -/
  frames : List Frame := []
  leaf : Option OpenLeaf := none
  /-- Whether a blank line came since the last block began. -/
  lastBlank : Bool := false
  /-- The mark of a task whose paragraph has not begun. -/
  task : Option Bool := none
  /-- Link definitions, last first. -/
  links : List (List Char × String × String) := []
  /-- Labels of footnotes. -/
  footnotes : List (List Char) := []
deriving Repr

/-- An indentation that no line has: a blank item is closed to all further text. -/
def sealedIndent : Nat := 1000000

/-- The containers, given outermost first, that a line goes on with: how many, and the place after
their marks. -/
def continued (cursor : Cursor) : List Container → Nat × Cursor
  | [] => (0, cursor)
  | container :: rest =>
    let next : Option Cursor := match container with
      | .quote => cursor.quoteMark?
      | .list _ _ _ => some cursor
      | .item indent _ =>
        let (missing, after) := cursor.takeSpaces indent
        if 0 < missing && !after.atEnd then none else some after
      | .footnote _ =>
        let (missing, after) := cursor.takeSpaces 4
        if 0 < missing && !after.atEnd then none else some after
    match next with
    | none => (0, cursor)
    | some after =>
      let (count, last) := continued after rest
      (count + 1, last)

/-- The block of a finished container. -/
def Frame.close (frame : Frame) : Block :=
  let children := frame.children.reverse
  match frame.container with
  | .quote => .quote children
  | .list tight mark start =>
    .list tight (if mark = '.' || mark = ')' then some start else none) children
  | .item _ _ => .item children
  | .footnote label => .footnote label children

/-- Drop trailing lines that are blank. -/
def dropBlank (lines : List (Bool × List Char)) : List (Bool × List Char) := lines.dropWhile (·.1)

/-- The block of a finished leaf. -/
def OpenLeaf.close : OpenLeaf → Block
  | .paragraph task lines => .paragraph task (List.intercalate ['\n'] lines.reverse)
  | .fenced _ _ _ info text => .code (.fenced info) text.reverse.flatten
  | .indented lines => .code .indented ((dropBlank lines).reverse.flatMap (·.2))
  | .html _ lines => .html lines.reverse
  | .table alignments rows => .table alignments rows.reverse

namespace State

/-- Whether the innermost open container is a list. -/
def inList (s : State) : Bool :=
  match s.frames with
  | ⟨.list _ _ _, _⟩ :: _ => true
  | _ => false

/-- Put a finished block into the innermost container. -/
def add (s : State) (block : Block) : State :=
  match s.frames with
  | [] => { s with blocks := block :: s.blocks }
  | frame :: outer =>
    { s with frames := { frame with children := block :: frame.children } :: outer }

/-- Close the leaf. -/
def closeLeaf (s : State) : State :=
  match s.leaf with
  | none => s
  | some leaf => { s with leaf := none }.add leaf.close

/-- Close the innermost container. -/
def pop (s : State) : State :=
  match s.frames with
  | [] => s
  | frame :: outer => { s with frames := outer }.add frame.close

/-- Close the `n` innermost containers. -/
def popN : (n : Nat) → State → State
  | 0, s => s
  | n + 1, s => popN n s.pop

/-- Open a container. -/
def push (s : State) (container : Container) : State :=
  { s with frames := ⟨container, []⟩ :: s.frames }

/-- The list around the innermost container is loose if a blank line came before. -/
def loosen (s : State) : State :=
  if s.lastBlank then
    let frames := match s.frames with
      | inner :: ⟨.list _ mark start, children⟩ :: outer =>
        inner :: ⟨.list false mark start, children⟩ :: outer
      | frames => frames
    { s with frames, lastBlank := false }
  else s

/-- Close a list whose last item is closed, since what follows is no item of it. -/
def finishList (s : State) : State := (if s.inList then s.pop else s).loosen

/-- No item is blank any more once something stands in it. -/
def settle (s : State) : State :=
  { s with frames := s.frames.map fun frame =>
      match frame.container with
      | .item indent true => { frame with container := .item indent false }
      | _ => frame }

/-- Go on with the open list if the mark is the same, else open a new one. -/
def continueList (s : State) (mark : Char) (start : Nat) : State :=
  let fresh (s : State) : State :=
    { s.push (.list true mark start) with lastBlank := false }
  match s.frames with
  | ⟨.list tight old oldStart, children⟩ :: outer =>
    if old = mark then
      let frame : Frame := ⟨.list (tight && !s.lastBlank) old oldStart, children⟩
      { s with frames := frame :: outer, lastBlank := false }
    else fresh s.finishList
  | [] => fresh s
  | _ => fresh s.finishList

/-- The containers, outermost first. -/
def spine (s : State) : List Container := s.frames.reverse.map (·.container)

end State

/-- Whether a line ends a paragraph by what it starts, looked at from its first character that is no
space. `current` tells whether it has the marks of all open containers, and `next` is the line
after it. An empty item or one with a number other than one does not end a paragraph of its own
container. -/
def interrupts (settings : Settings) (current inTable : Bool) (next : Option Line)
    (s : List Char) : Bool :=
  let item := match Mark.listItem? s with
    | none => false
    | some (mark, start, after) =>
      let emptyItem := after.all Scan.isLineBlank
        && next.all fun line => line.chars.all Scan.isLineBlank
      !current || inTable || ((mark = '-' || mark = '+' || mark = '*' || start = 1) && !emptyItem)
  s.isEmpty || Mark.isRule s || (Mark.headingLevel? s).isSome || (Mark.fence? s).isSome
    || s.head? = some '>' || item || (Mark.htmlEnd? s).isSome || Mark.isBlockTag s
    || (settings.footnotes && (Mark.footnote? s).isSome)

/-- The lines after the first that could go on with a paragraph, without the marks of the open
containers, each with whether it has all of those marks. -/
def candidates (settings : Settings) (spine : List Container) :
    List Line → List (Bool × List Char)
  | [] => []
  | line :: rest =>
    let (count, cursor) := continued ⟨line.chars, 0, 0⟩ spine
    let current := count = spine.length
    let (missing, indented) := cursor.takeSpaces 4
    if cursor.isBlank then []
    else if 0 < missing && (interrupts settings current false rest.head? indented.chars
        || (current && (Mark.underline? indented.chars).isSome)) then []
    else (current, cursor.chars) :: candidates settings spine rest

/-- A mark of a task after a list marker, and the place after it. It is followed by a blank. -/
def task? (ended : Bool) (cursor : Cursor) : Option (Bool × Cursor) :=
  match (cursor.takeSpaces 3).2.chars with
  | '[' :: c :: ']' :: after =>
    let follows := match after with
      | [] => ended
      | d :: _ => Scan.isLineBlank d
    let checked := c = 'x' || c = 'X'
    if follows && (checked || Scan.isLineBlank c) then
      some (checked, (cursor.takeSpaces 3).2.drop 3)
    else none
  | _ => none

/-- How a line goes on after the containers that start in it. -/
inductive Opened where
  /-- The line ends with an empty item. -/
  | ended (state : State)
  | at (state : State) (cursor : Cursor)

/-- Open the containers that start at a place in a line. Each takes a character, so a `fuel` above
the length of the line is enough. -/
def openContainers (settings : Settings) (ended : Bool) :
    (fuel : Nat) → State → Cursor → Opened
  | 0, s, cursor => .at s cursor
  | fuel + 1, s, cursor =>
    let (missing, inner) := cursor.takeSpaces 4
    if missing = 0 then .at s cursor
    else
      let footnote := if settings.footnotes then Mark.footnote? inner.chars else none
      match footnote with
      | some (label, after) =>
        let s := s.finishList.settle
        let s := { s.push (.footnote label) with footnotes := Text.fold label :: s.footnotes }
        openContainers settings ended fuel s ⟨after.dropWhile Scan.isLineBlank, 0, 0⟩
      | none =>
        match if Mark.isRule inner.chars then none else Mark.listItem? inner.chars with
        | some (mark, start, after) =>
          let width := inner.chars.length - after.length
          let marked := inner.drop width
          let indent := 4 - missing + width
          let s := (s.continueList mark start).settle
          if marked.isBlank then .ended (s.push (.item (indent + 1) true))
          else
            let (_, spaced) := marked.takeSpaces 1
            let (short, deep) := spaced.takeSpaces 4
            let (extra, text) := if short = 0 then (0, spaced) else (4 - short, deep)
            let item (fresh : Bool) : State := s.push (.item (indent + 1 + extra) fresh)
            match if settings.tasklists then task? ended text else none with
            | some (checked, after) =>
              if after.isBlank then .ended ((item true).add (.task checked))
              else openContainers settings ended fuel { item false with task := some checked } after
            | none => openContainers settings ended fuel (item false) text
        | none =>
          match cursor.quoteMark? with
          | some after => openContainers settings ended fuel (s.finishList.settle.push .quote) after
          | none => .at s cursor

/-- Read a blank line outside of leaf blocks. -/
def blankLine (s : State) : State :=
  match s.frames with
  | ⟨.quote, _⟩ :: _ => s
  | ⟨.item _ true, children⟩ :: outer =>
    { s with frames := ⟨.item sealedIndent true, children⟩ :: outer, lastBlank := true }
  | _ => { s with lastBlank := true }

/-- Begin a leaf block at a place in a line that is not blank; how many of the lines that follow
belong to a link definition. -/
def beginLeaf (settings : Settings) (s : State) (cursor : Cursor) (line : Line)
    (rest : List Line) : State × Nat :=
  let s := s.finishList.settle
  let (missing, inner) := cursor.takeSpaces 4
  let text := inner.chars
  let indent := 4 - missing
  let htmlLine : Nat × List Char := (max cursor.spare indent, text ++ line.terminator)
  let openLeaf (leaf : OpenLeaf) : State := { s with leaf := some leaf }
  if missing = 0 then (openLeaf (.indented [(false, inner.text ++ line.terminator)]), 0)
  else
    match Mark.htmlEnd? text with
    | some marker =>
      if (Scan.afterMarker? marker text).isSome then (s.add (.html [htmlLine]), 0)
      else (openLeaf (.html (some marker) [htmlLine]), 0)
    | none =>
      if Mark.isBlockTag text || Mark.isLoneTag text then
        (openLeaf (.html none [htmlLine]), 0)
      else if Mark.isRule text then (s.add .rule, 0)
      else
        match Mark.headingLevel? text with
        | some level =>
          let body := (text.drop level).dropWhile Scan.isLineBlank
          let (body, attributes) :=
            if settings.headingAttributes then Mark.cutAttributes body else (body, {})
          let (body, closed) := Mark.cutClosing body
          (s.add (.heading level attributes none closed body), 0)
        | none =>
          match Mark.fence? text with
          | some (mark, count) =>
            let info := (text.drop count).dropWhile Scan.isLineBlank
            let info := (info.reverse.dropWhile Scan.isAsciiBlank).reverse
            let info := String.ofList (Scan.unescape info)
            (openLeaf (.fenced indent mark count info []), 0)
          | none =>
            match if text.head? = some '[' then
                Mark.definition? text (candidates settings s.spine rest) else none with
            | some (label, dest, title, lines) =>
              let link := (Text.fold label, String.ofList dest, String.ofList title)
              ({ s with links := link :: s.links }, lines - 1)
            | none =>
              ({ s with leaf := some (.paragraph s.task [text]), task := none }, 0)

/-- Read a line from its start, with no leaf block open. -/
def beginLine (settings : Settings) (s : State) (line : Line) (rest : List Line) : State × Nat :=
  let (count, cursor) := continued ⟨line.chars, 0, 0⟩ s.spine
  let s := State.popN (s.frames.length - count) s
  match openContainers settings line.ended (line.chars.length + 1) s cursor with
  | .ended s => (s, 0)
  | .at s cursor =>
    if cursor.isBlank then (blankLine s, 0) else beginLeaf settings s cursor line rest

/-- Read a line with a leaf block open: the state if the leaf takes the line, and else none. -/
def continueLeaf (settings : Settings) (s : State) (line : Line) (next : Option Line) :
    OpenLeaf → Option State
  | .paragraph task lines =>
    let (count, cursor) := continued ⟨line.chars, 0, 0⟩ s.spine
    let current := count = s.frames.length
    let (missing, inner) := cursor.takeSpaces 4
    let heading (level : Nat) : State :=
      let text := List.intercalate ['\n'] lines.reverse
      let (text, attributes) :=
        if settings.headingAttributes then Mark.cutAttributes text else (text, {})
      { s with leaf := none }.add (.heading level attributes task false text)
    let table := match lines with
      | [head] =>
        if settings.tables && current && 0 < missing && Mark.canHeadTable head then
          match Mark.delimiterRow? inner.chars with
          | some alignments =>
            if alignments.length = Mark.headColumns head && !alignments.isEmpty then
              some (OpenLeaf.table alignments
                [Mark.row alignments.length (Mark.cells (head.length + 1) head)])
            else none
          | none => none
        else none
      | _ => none
    match table with
    | some leaf => some { s with leaf := some leaf }
    | none =>
      let underline := if 0 < missing && current then Mark.underline? inner.chars else none
      match underline with
      | some level => some (heading level)
      | none =>
        if 0 < missing && interrupts settings current false next inner.chars then none
        else if (cursor.chars.dropWhile fun c => c = ' ' || c = '\t').isEmpty then none
        else some { s with leaf := some (.paragraph task (cursor.chars :: lines)) }
  | .fenced indent mark count info text =>
    let (passed, cursor) := continued ⟨line.chars, 0, 0⟩ s.spine
    if passed < s.frames.length then none
    else
      let (_, inner) := cursor.takeSpaces indent
      let (missing, closing) := inner.takeSpaces (4 - indent)
      if 0 < missing && Mark.closesFence mark count closing.chars then some s.closeLeaf
      else
        let piece := inner.text ++ line.terminator
        some { s with leaf := some (.fenced indent mark count info (piece :: text)) }
  | .indented lines =>
    let (passed, cursor) := continued ⟨line.chars, 0, 0⟩ s.spine
    let (missing, inner) := cursor.takeSpaces 4
    if passed < s.frames.length || (0 < missing && !inner.atEnd) then none
    else
      let blank := inner.isBlank
      let piece := (blank, inner.text ++ line.terminator)
      some { s with leaf := some (.indented (piece :: lines)), lastBlank := blank }
  | .html marker lines =>
    let (passed, cursor) := continued ⟨line.chars, 0, 0⟩ s.spine
    if passed < s.frames.length || (marker.isNone && cursor.isBlank) then none
    else
      let leaf := OpenLeaf.html marker ((cursor.spare, cursor.chars ++ line.terminator) :: lines)
      let s := { s with leaf := some leaf }
      let done := match marker with
        | some marker => (Scan.afterMarker? marker cursor.chars).isSome
        | none => false
      some (if done then s.closeLeaf else s)
  | .table alignments rows =>
    let (passed, cursor) := continued ⟨line.chars, 0, 0⟩ s.spine
    let text := cursor.chars.dropWhile fun c => c = ' ' || c = '\t'
    let cells := Mark.cells (text.length + 1) text
    if passed < s.frames.length || interrupts settings true true next text || cells.isEmpty then
      none
    else some { s with leaf := some (.table alignments (Mark.row alignments.length cells :: rows)) }

/-- Read one line; how many of the lines that follow were taken with it. -/
def readLine (settings : Settings) (s : State) (line : Line) (rest : List Line) : State × Nat :=
  match s.leaf with
  | none => beginLine settings s line rest
  | some leaf =>
    match continueLeaf settings s line rest.head? leaf with
    | some s => (s, 0)
    | none => beginLine settings s.closeLeaf line rest

/-- Read lines in order. -/
def readLines (settings : Settings) (s : State) : List Line → State
  | [] => s
  | line :: rest =>
    let (s, taken) := readLine settings s line rest
    readLines settings s (rest.drop taken)
termination_by lines => lines.length
decreasing_by simp only [List.length_cons, List.length_drop]; omega

end Structure

/-- The blocks of a document and what its text can refer to. -/
structure Outlined where
  blocks : List Block
  references : References

/-- The block structure of a document. -/
def structureOf (settings : Settings) (source : String) : Outlined :=
  let s := Structure.readLines settings {} (Line.split source)
  let s := Structure.State.popN s.frames.length s.closeLeaf
  ⟨s.blocks.reverse, ⟨s.links.reverse, s.footnotes⟩⟩

end Markdown
end Bindery
