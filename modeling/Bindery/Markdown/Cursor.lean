import Bindery.Markdown.Scan

/-!
# Reading a line from the left

A cursor stands in a line and counts columns, so that a tab is worth the spaces up to the next
multiple of four. Part of a tab can be taken; the rest of it is kept as spare spaces.
-/

namespace Bindery
namespace Markdown

/-- A line of a document, without its line end; `ended` tells whether it had one. -/
structure Line where
  chars : List Char
  ended : Bool
deriving Repr

namespace Line

/-- Cut a text into lines, given the start of the current line in reverse. A line ends with a line
feed, a carriage return or both. -/
def splitFrom (current : List Char) : List Char → List Line
  | [] => if current.isEmpty then [] else [⟨current.reverse, false⟩]
  | '\n' :: rest => ⟨current.reverse, true⟩ :: splitFrom [] rest
  | '\r' :: '\n' :: rest => ⟨current.reverse, true⟩ :: splitFrom [] rest
  | '\r' :: rest => ⟨current.reverse, true⟩ :: splitFrom [] rest
  | c :: rest => splitFrom (c :: current) rest

/-- The lines of a text. -/
def split (text : String) : List Line := splitFrom [] text.toList

/-- The line end of a line. -/
def terminator (line : Line) : List Char := if line.ended then ['\n'] else []

end Line

/-- A place in a line. -/
structure Cursor where
  /-- The characters to the right. -/
  chars : List Char
  /-- The columns since the last tab. -/
  column : Nat := 0
  /-- The spaces left of a tab that was taken in part. -/
  spare : Nat := 0
deriving Repr

namespace Cursor

/-- Whether the line ends here. -/
def atEnd (c : Cursor) : Bool := c.chars.isEmpty

/-- Whether only blanks follow. -/
def isBlank (c : Cursor) : Bool := c.chars.all Scan.isLineBlank

/-- Take one column of space. -/
def space? (c : Cursor) : Option Cursor :=
  if 0 < c.spare then some { c with spare := c.spare - 1 }
  else
    match c.chars with
    | ' ' :: rest => some ⟨rest, c.column + 1, 0⟩
    | '\t' :: rest => some ⟨rest, 0, 3 - c.column % 4⟩
    | _ => none

/-- Take up to `n` columns of space; how many were missing. -/
def takeSpaces : (n : Nat) → Cursor → Nat × Cursor
  | 0, c => (0, c)
  | n + 1, c =>
    match c.space? with
    | some c => takeSpaces n c
    | none => (n + 1, c)

/-- Take a given character. -/
def char? (c : Cursor) (x : Char) : Option Cursor :=
  match c.chars with
  | y :: rest => if x = y then some ⟨rest, c.column + 1, 0⟩ else none
  | [] => none

/-- Drop `n` characters. -/
def drop (c : Cursor) (n : Nat) : Cursor := ⟨c.chars.drop n, c.column + n, 0⟩

/-- The rest of the line with its spare spaces written out. -/
def text (c : Cursor) : List Char := List.replicate c.spare ' ' ++ c.chars

/-- Take a quote marker: up to three spaces, the mark, and a space if there is one. -/
def quoteMark? (c : Cursor) : Option Cursor :=
  (c.takeSpaces 3).2.char? '>' |>.map fun c => (c.takeSpaces 1).2

end Cursor

end Markdown
end Bindery
