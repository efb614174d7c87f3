import Bindery.Text.Classes

/-!
# Blanks behind and between words

Trimming at the back, and the form of a text in which words are parted by single spaces.
-/

namespace Bindery.Text

/-- Drop the blanks at the back. -/
def trimBack : List Char → List Char
  | [] => []
  | c :: rest =>
    match trimBack rest with
    | [] => if isBlank c then [] else [c]
    | kept => c :: kept

/-- Whether a text is empty or all blank. -/
def isBlankText (s : String) : Bool := s.toList.all isBlank

/-- The words of a text, with the word that has been begun. -/
def wordsFrom (begun : List Char) : List Char → List (List Char)
  | [] => if begun.isEmpty then [] else [begun.reverse]
  | c :: rest =>
    if isBlank c then
      if begun.isEmpty then wordsFrom [] rest else begun.reverse :: wordsFrom [] rest
    else wordsFrom (c :: begun) rest

/-- The words of a text. -/
def words (s : List Char) : List (List Char) := wordsFrom [] s

/-- The words of a text, parted by single spaces. -/
def collapse (s : String) : String :=
  " ".intercalate ((words s.toList).map String.ofList)

end Bindery.Text
