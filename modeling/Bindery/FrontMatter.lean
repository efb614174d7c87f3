import Bindery.Text.Blank

/-!
# Front matter

A document may begin with settings: a line `+++`, the settings, and a line of `+++` that closes
them. The opening line is exactly that; the closing line may end in blanks.
-/

namespace Bindery
namespace FrontMatter

/-- The mark that opens and closes front matter. -/
def mark : List Char := ['+', '+', '+']

/-- What follows an opening line. -/
def afterOpening? : List Char → Option (List Char)
  | '+' :: '+' :: '+' :: '\n' :: rest => some rest
  | '+' :: '+' :: '+' :: '\r' :: '\n' :: rest => some rest
  | _ => none

/-- Whether a line closes front matter. -/
def closes (line : List Char) : Bool := Text.trimBack line == mark

/-- Split at the first closing line: what stands before it and what follows it. `line` holds the
line that has been begun, the last character first. -/
def cut? (line : List Char) : List Char → Option (List Char × List Char)
  | [] => if closes line.reverse then some ([], []) else none
  | '\n' :: rest =>
    if closes line.reverse then some ([], rest)
    else (cut? [] rest).map fun (front, body) => (line.reverse ++ '\n' :: front, body)
  | c :: rest => cut? (c :: line) rest

/-- Split a document into front matter, if it has any, and body; none if the front matter is not
closed. -/
def split? (source : List Char) : Option (Option (List Char) × List Char) :=
  match afterOpening? source with
  | none => some (none, source)
  | some rest => (cut? [] rest).map fun (front, body) => (some front, body)

end FrontMatter
end Bindery
