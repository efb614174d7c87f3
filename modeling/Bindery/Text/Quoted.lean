import Bindery.Text.Classes

/-!
# Quoted text in messages

A message shows a text between double quotes and a character between single quotes. What would
not show as a mark of its own is written as an escape.
-/

namespace Bindery.Text

/-- A character inside quotes; `mark` is the kind of quote around it, which is escaped. -/
def escapeShown (mark c : Char) : List Char :=
  match c with
  | '\n' => ['\\', 'n']
  | '\r' => ['\\', 'r']
  | '\t' => ['\\', 't']
  | '\\' => ['\\', '\\']
  | '\x00' => ['\\', '0']
  | c =>
    if c = mark then ['\\', c]
    else if isPrintable c && !isExtending c then [c]
    else ['\\', 'u', '\x7b'] ++ Nat.toDigits 16 c.toNat ++ ['\x7d']

/-- A text as a message shows it. -/
def shown (s : String) : String :=
  String.ofList ('"' :: s.toList.flatMap (escapeShown '"') ++ ['"'])

/-- A single character as a message shows it. -/
def shownChar (c : Char) : String :=
  String.ofList ('\'' :: escapeShown '\'' c ++ ['\''])

end Bindery.Text
