/-!
# Escaping markup

Text that goes into markup has its special characters replaced by entities. Which ones are
special depends on the place the text goes to.
-/

namespace Bindery.Text

/-- Replace characters by texts. -/
def escapeWith (entity : Char → Option String) (s : String) : String :=
  String.ofList (s.toList.flatMap fun c => (entity c).elim [c] String.toList)

/-- The entities of text that may go anywhere, between either kind of quote. -/
def anywhereEntity (c : Char) : Option String :=
  match c with
  | '<' => some "&lt;"
  | '>' => some "&gt;"
  | '&' => some "&amp;"
  | '\'' => some "&apos;"
  | '"' => some "&quot;"
  | _ => none

/-- Escape text for any place in markup. -/
def escapeAnywhere (s : String) : String := escapeWith anywhereEntity s

end Bindery.Text
