import Bindery.Markdown.Event
import Bindery.Markdown.Scan
import Bindery.Text.Casing

/-!
# Inline constructs

The text of a paragraph, heading or cell is read once from left to right into a flat list of
nodes. Code spans, raw HTML, autolinks and links are recognized on the way; runs of emphasis
delimiters and quotes are left as they are and resolved afterwards (`Markdown/Emphasis`), one level
at a time, since the inside of a link is a level of its own.

Line ends in the text are kept as they are, together with the blanks at the start of the lines
after them, because code spans and raw HTML see them.
-/

namespace Bindery
namespace Markdown

/-- What inline text can refer to: the targets of link labels, the labels of footnotes, and the
settings of the grammar. -/
structure References where
  /-- Targets and titles by folded label; the first of a label counts. -/
  links : List (List Char × String × String) := []
  /-- The folded labels of the footnotes that are defined. -/
  footnotes : List (List Char) := []

namespace References

/-- The target and title of a label. -/
def link? (refs : References) (label : List Char) : Option (String × String) :=
  (refs.links.find? (·.1 = Text.fold label)).map (·.2)

end References

/-- A piece of inline text. -/
inductive Node where
  | char (c : Char)
  /-- A run of emphasis delimiters that may open or close. -/
  | delimiters (c : Char) (count : Nat) (opens closes : Bool)
  /-- A straight quote that may open or close. -/
  | quote (c : Char) (opens closes : Bool)
  | html (text : List Char)
  | leaf (leaf : Leaf)
  /-- A line end after a backslash. -/
  | escapedBreak
  | link (image : Bool) (target : Target) (children : List Node)
deriving Repr

/-- An open bracket that may turn out to start a link or an image. -/
structure Bracket where
  image : Bool
  /-- A bracket around a link is no link itself. -/
  enabled : Bool
  /-- The nodes before the bracket, last first. -/
  before : List Node
  /-- The text after the bracket. -/
  source : List Char

namespace Inline

/-- Whether a run of delimiters can open: it is followed by text and either stands before it or
touches no word on its left side. A single tilde and an underscore open only outside words. -/
def canOpen (c : Char) (count : Nat) (prev next : Option Char) : Bool :=
  match next with
  | none => false
  | some next =>
    if Text.isBlank next then false
    else
      match prev with
      | none => true
      | some prev =>
        (c = '*' && !Text.isPunctuation next)
          || (c = '~' && 1 < count)
          || (c = '~' && prev = '~' && !Text.isPunctuation next)
          || Text.isBlank prev
          || (Text.isPunctuation prev && (c ≠ '\'' || (prev ≠ ']' && prev ≠ ')')))

/-- Whether a run of delimiters can close. -/
def canClose (c : Char) (count : Nat) (prev next : Option Char) : Bool :=
  match prev with
  | none => false
  | some prev =>
    if Text.isBlank prev then false
    else
      match next with
      | none => true
      | some next =>
        ((c = '*' || (c = '~' && 1 < count)) && !Text.isPunctuation prev)
          || (c = '~' && prev = '~')
          || Text.isBlank next || Text.isPunctuation next

/-- The content of a code span after its opening run of `count` backticks, up to the next run of
that length, and what follows it. `run` counts the backticks just read. -/
def codeSpan? (count : Nat) : (run : Nat) → List Char → Option (List Char × List Char)
  | run, [] => if run = count then some ([], []) else none
  | run, c :: rest =>
    if c = '\x60' then (codeSpan? count (run + 1) rest).map fun (code, after) => (c :: code, after)
    else if run = count then some ([], c :: rest)
    else (codeSpan? count 0 rest).map fun (code, after) => (c :: code, after)

/-- The text of a code span: line ends count as spaces, and one space is dropped at either end if
there is one at both and the text is not all spaces. -/
def codeText (code : List Char) : List Char :=
  let text := code.map fun c => if c = '\n' then ' ' else c
  if text.head? = some ' ' && text.getLast? = some ' ' && !text.all (· = ' ') then
    text.tail.dropLast
  else text

/-- Put an open bracket back as ordinary text, before the nodes that follow it. -/
def reopen (bracket : Bracket) (out : List Node) : List Node :=
  let mark := if bracket.image then [.char '[', .char '!'] else [.char '[']
  out ++ mark ++ bracket.before

/-- Put all open brackets back as ordinary text. -/
def reopenAll (brackets : List Bracket) (out : List Node) : List Node :=
  brackets.foldl (fun out bracket => reopen bracket out) out

/-- After a link, the brackets around it are no links. -/
def disableLinks (brackets : List Bracket) : List Bracket :=
  brackets.map fun b => if b.image then b else { b with enabled := false }

/-- Text put before the nodes read so far, which are kept last first. -/
def pushText (text : List Char) (out : List Node) : List Node :=
  text.reverse.map Node.char ++ out

/-- How a closing bracket turned out. -/
inductive Closing where
  /-- The bracket closes a link or an image; what follows it. -/
  | link (target : Target) (after : List Char)
  /-- The bracket closes a reference to a footnote. -/
  | footnote (label : String)
  /-- The bracket is ordinary text. -/
  | text

/-- The label between an open bracket and the closing bracket before `rest`, if it is one. -/
def ownLabel? (bracket : Bracket) (rest : List Char) : Option (List Char) :=
  match Scan.label? bracket.source with
  | some (label, after) => if after.length = rest.length then some label else none
  | none => none

/-- The label of a footnote between an open bracket and the closing bracket before `rest`. -/
def footnoteLabel? (settings : Settings) (source rest : List Char) : Option (List Char) :=
  match source with
  | '^' :: c :: body =>
    if settings.footnotes && c ≠ ']' then
      match Scan.label? (c :: body) with
      | some (label, after) =>
        if after.length = rest.length && !(Scan.before (c :: body) after).contains '\n' then
          some label
        else none
      | none => none
    else none
  | _ => none

/-- The link of a label, if the label has a target. -/
def reference (refs : References) (kind : LinkKind) (label after : List Char) : Closing :=
  match refs.link? label with
  | some (dest, title) => .link ⟨kind, dest, title, String.ofList label⟩ after
  | none => .text

/-- The reference that a bracket alone makes: to a footnote, or to a link of its own label. -/
def ownReference (settings : Settings) (refs : References) (kind : LinkKind) (bracket : Bracket)
    (rest after : List Char) : Closing :=
  match footnoteLabel? settings bracket.source rest with
  | some label =>
    if refs.footnotes.contains (Text.fold label) then .footnote (String.ofList label) else .text
  | none =>
    match ownLabel? bracket rest with
    | some label => reference refs kind label after
    | none => .text

/-- Decide what the closing bracket before `rest` closes. -/
def closing (settings : Settings) (refs : References) (bracket : Bracket) (rest : List Char) :
    Closing :=
  let inline := match rest with
    | '(' :: body => Scan.inlineTarget? body
    | _ => none
  match inline with
  | some (dest, title, after) =>
    let text (s : List Char) := String.ofList (Scan.unescape s)
    .link ⟨.inline, text dest, text (Scan.trimLines title), ""⟩ after
  | none =>
    match rest with
    | '[' :: ']' :: after => ownReference settings refs .collapsed bracket rest after
    | '[' :: body =>
      let footnote := settings.footnotes && body.head? = some '^'
        && (body.drop 1).head? ≠ some ']'
      match Scan.label? body with
      | some (label, after) =>
        if footnote then ownReference settings refs .shortcut bracket rest rest
        else reference refs .reference label after
      | none => ownReference settings refs .shortcut bracket rest rest
    | _ => ownReference settings refs .shortcut bracket rest rest

/-- The dashes that a run of hyphens stands for: two make an en dash and three an em dash, and
longer runs use as few kinds as possible. -/
def dashes (count : Nat) : List Char :=
  let (ems, ens) :=
    match count % 6 with
    | 0 | 3 => (count / 3, 0)
    | 2 | 4 => (0, count / 2)
    | 1 => (count / 3 - 1, 2)
    | _ => (count / 3, 1)
  List.replicate ems '—' ++ List.replicate ens '–'

/-- Read inline text. `prev` is the character before `s`, `out` holds the nodes since the innermost
open bracket, last first. Each step takes at least one character, so a `fuel` above the length of
the text is enough. -/
def read (settings : Settings) (refs : References) : (fuel : Nat) → (prev : Option Char) →
    List Char → (out : List Node) → List Bracket → List Node
  | 0, _, s, out, brackets => (reopenAll brackets (pushText s out)).reverse
  | _ + 1, _, [], out, brackets => (reopenAll brackets out).reverse
  | fuel + 1, prev, c :: rest, out, brackets =>
    let go (prev : Char) (s : List Char) (out : List Node) := read settings refs fuel prev s out
      brackets
    let literal (_ : Unit) := go c rest (.char c :: out)
    let newLine (s : List Char) (node : Node) :=
      go '\n' (s.dropWhile fun c => c = ' ' || c = '\t') (node :: out)
    match c with
    | '\n' => newLine rest (.leaf .softBreak)
    | '\\' =>
      match rest with
      | '\n' :: after => newLine after .escapedBreak
      | d :: after => if Text.isAsciiPunctuation d then go d after (.char d :: out) else literal ()
      | [] => literal ()
    | '\x60' =>
      let run := c :: rest.takeWhile (· = '\x60')
      let body := rest.dropWhile (· = '\x60')
      match codeSpan? run.length 0 body with
      | some (code, after) =>
        let code := code.take (code.length - run.length)
        go '\x60' after (.leaf (.code (String.ofList (codeText code))) :: out)
      | none => go '\x60' body (pushText run out)
    | '<' =>
      if rest.head? = some '\\' then literal ()
      else
        let autolink (kind : LinkKind) (text after : List Char) :=
          let dest := String.ofList text
          go '>' after (.link false ⟨kind, dest, "", ""⟩ (text.map Node.char) :: out)
        match Scan.uri? rest with
        | some (uri, after) => autolink .autolink uri after
        | none =>
          match Scan.email? rest with
          | some (address, after) => autolink .email address after
          | none =>
            match Scan.inlineHtml? (c :: rest) with
            | some after => go '>' after (.html (Scan.before (c :: rest) after) :: out)
            | none => literal ()
    | '!' =>
      match rest with
      | '[' :: after => read settings refs fuel '[' after [] (⟨true, true, out, after⟩ :: brackets)
      | _ => literal ()
    | '[' => read settings refs fuel c rest [] (⟨false, true, out, rest⟩ :: brackets)
    | ']' =>
      match brackets with
      | [] => literal ()
      | bracket :: outer =>
        let plain (_ : Unit) :=
          read settings refs fuel c rest (.char c :: reopen bracket out) outer
        if !bracket.enabled then plain ()
        else
          match closing settings refs bracket rest with
          | .text => plain ()
          | .link target after =>
            let node := .link bracket.image target out.reverse
            let prev := (Scan.before rest after).getLast?.getD ']'
            read settings refs fuel prev after (node :: bracket.before)
              (if bracket.image then outer else disableLinks outer)
          | .footnote label =>
            let mark := if bracket.image then [.char '!'] else []
            read settings refs fuel c rest
              (reopenAll outer (.leaf (.footnoteReference label) :: mark ++ bracket.before)) []
    | '&' =>
      match Scan.reference? rest with
      | some (text, after) => go ';' after (pushText text out)
      | none => literal ()
    | _ =>
      if Scan.isLineBlank c then
        let run := c :: rest.takeWhile Scan.isLineBlank
        match rest.dropWhile Scan.isLineBlank with
        | [] => (reopenAll brackets out).reverse
        | '\n' :: after =>
          newLine after (.leaf (if 2 ≤ run.length then .hardBreak else .softBreak))
        | after => go (run.getLast?.getD c) after (pushText run out)
      else if c = '*' || c = '_' || (c = '~' && settings.strikethrough) then
        let run := c :: rest.takeWhile (· = c)
        let after := rest.dropWhile (· = c)
        let opens := canOpen c run.length prev after.head?
        let closes := canClose c run.length prev after.head?
        if (opens || closes) && (c ≠ '~' || run.length ≤ 2) then
          go c after (.delimiters c run.length opens closes :: out)
        else go c after (pushText run out)
      else if settings.smartPunctuation then
        if c = '.' && ['.', '.'].isPrefixOf rest then go '.' (rest.drop 2) (.char '…' :: out)
        else if c = '-' && rest.head? = some '-' then
          let run := c :: rest.takeWhile (· = c)
          go '-' (rest.dropWhile (· = c)) (pushText (dashes run.length) out)
        else if c = '\'' || c = '"' then
          go c rest (.quote c (canOpen c 1 prev rest.head?) (canClose c 1 prev rest.head?) :: out)
        else literal ()
      else literal ()

/-- The nodes of inline text. -/
def nodes (settings : Settings) (refs : References) (text : List Char) : List Node :=
  read settings refs (text.length + 1) none text [] []

end Inline
end Markdown
end Bindery
