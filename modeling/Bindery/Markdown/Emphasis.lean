import Bindery.Markdown.Inline

/-!
# Emphasis and quotes

One level of inline nodes is resolved in two passes. The first turns straight quotes into curly
ones. The second matches runs of emphasis delimiters: a run that can close looks for the nearest
run before it that can open with the same delimiter, and the two give up as many delimiters as
both have, two for strong emphasis and one for plain emphasis, from the inside out.
-/

namespace Bindery
namespace Markdown

/-- Inline content with its emphasis resolved. -/
inductive Span where
  | char (c : Char)
  | html (text : List Char)
  | leaf (leaf : Leaf)
  | nest (tag : Tag) (children : List Span)
deriving Repr

/-- A node of one level whose inside is already resolved. -/
inductive LevelItem where
  | done (span : Span)
  | delimiters (c : Char) (count : Nat) (opens closes : Bool)
  | quote (c : Char) (opens closes : Bool)
  | escapedBreak
deriving Repr

namespace Emphasis

/-- A run of delimiters that may still be closed. -/
structure Opener where
  c : Char
  /-- The delimiters it has left. -/
  count : Nat
  /-- The delimiters it began with. -/
  run : Nat
  /-- Whether it could close as well. -/
  both : Bool
  /-- The spans before it, last first. -/
  before : List Span

/-- The state of matching: the spans since the innermost opener, last first, the openers, innermost
first, and how many of the outermost openers no run of tildes looks at any more. -/
structure Matching where
  out : List Span := []
  openers : List Opener := []
  tildeBound : Nat := 0

/-- Delimiters as text before other spans, last first. -/
def pushRun (c : Char) (count : Nat) (out : List Span) : List Span :=
  List.replicate count (Span.char c) ++ out

/-- Put the `n` innermost openers back as text. -/
def collapse : (n : Nat) → List Opener → List Span → List Opener × List Span
  | 0, openers, out => (openers, out)
  | _, [], out => ([], out)
  | n + 1, opener :: outer, out =>
    collapse n outer (out ++ pushRun opener.c opener.count opener.before)

/-- Whether a closing run fits an opener. Runs of tildes must have the same length. If either of
two runs could both open and close, their lengths must not add up to a multiple of three, unless
both are multiples of three. -/
def fits (c : Char) (run : Nat) (both : Bool) (opener : Opener) : Bool :=
  opener.c = c && (c ≠ '~' || run = opener.run)
    && ((!both && !opener.both) || (run + opener.run) % 3 ≠ 0 || run % 3 = 0)

/-- The place of the innermost opener that a closing run fits. -/
def find? (c : Char) (run : Nat) (both : Bool) (m : Matching) : Option Nat :=
  let reachable := if c = '~' then m.openers.length - m.tildeBound else m.openers.length
  (m.openers.take reachable).findIdx? (fits c run both)

/-- Wrap spans in the emphasis that `n` delimiters give, two at a time from the inside out. -/
def wrap (c : Char) : (n : Nat) → List Span → List Span
  | 0, inside => inside
  | 1, inside => [.nest (if c = '~' then .strikethrough else .emphasis) inside]
  | n + 2, inside => wrap c n [.nest (if c = '~' then .strikethrough else .strong) inside]

/-- Close openers with a run of `count` delimiters that had `run` at first, as long as one fits;
what is left of the run, with the new state. -/
def close (c : Char) (run : Nat) (both : Bool) : (fuel count : Nat) → Matching → Nat × Matching
  | 0, count, m => (count, m)
  | fuel + 1, count, m =>
    if count = 0 then (0, m)
    else
      match find? c run both m with
      | none => (count, if c = '~' then { m with tildeBound := m.openers.length } else m)
      | some i =>
        match collapse i m.openers m.out with
        | (opener :: outer, inside) =>
          let n := min count opener.count
          let wrapped := wrap c n inside.reverse
          let bound := min m.tildeBound outer.length
          if n < opener.count then
            let opener := { opener with count := opener.count - n }
            close c run both fuel (count - n) ⟨wrapped, opener :: outer, bound⟩
          else close c run both fuel (count - n) ⟨wrapped ++ opener.before, outer, bound⟩
        | ([], _) => (count, m)

/-- Read one item of a level. -/
def step (m : Matching) (last : Bool) : LevelItem → Matching
  | .done span => { m with out := span :: m.out }
  | .quote c _ _ => { m with out := .char c :: m.out }
  | .escapedBreak =>
    -- a backslash at the very end stands for itself
    { m with out := (if last then .char '\\' else .leaf .hardBreak) :: m.out }
  | .delimiters c run opens closes =>
    let both := opens && closes
    let (count, m) := if closes then close c run both (run + 1) run m else (run, m)
    if count = 0 then m
    else if opens then
      { m with out := [], openers := ⟨c, count, run, both, m.out⟩ :: m.openers }
    else { m with out := pushRun c count m.out }

/-- Match the delimiters of a level. -/
def matchItems (m : Matching) : List LevelItem → List Span
  | [] => (collapse m.openers.length m.openers m.out).2.reverse
  | item :: rest => matchItems (step m rest.isEmpty item) rest

/-- Whether a single quote that is open at the start of `items` is closed later on. -/
def closesSingle : List LevelItem → Bool
  | [] => false
  | .quote '\'' opens closes :: rest => closes || (!opens && closesSingle rest)
  | _ :: rest => closesSingle rest

/-- Turn straight quotes into curly ones. A single quote is an apostrophe unless a later one closes
it, and a double quote closes the one that is open. -/
def curl (double single : Bool) : List LevelItem → List LevelItem
  | [] => []
  | .quote c opens closes :: rest =>
    if c = '\'' then
      if single && closes then .done (.char '’') :: curl double false rest
      else if opens then
        .done (.char (if closesSingle rest then '‘' else '’')) :: curl double true rest
      else .done (.char '’') :: curl double single rest
    else if closes && double then .done (.char '”') :: curl false single rest
    else .done (.char '“') :: curl (double || opens) single rest
  | item :: rest => item :: curl double single rest

/-- Resolve the quotes and the emphasis of a level. -/
def resolveLevel (items : List LevelItem) : List Span := matchItems {} (curl false false items)

mutual

/-- A node with its inside resolved. -/
def item : Node → LevelItem
  | .char c => .done (.char c)
  | .delimiters c count opens closes => .delimiters c count opens closes
  | .quote c opens closes => .quote c opens closes
  | .html text => .done (.html text)
  | .leaf leaf => .done (.leaf leaf)
  | .escapedBreak => .escapedBreak
  | .link image target children =>
    .done (.nest (if image then .image target else .link target) (resolveLevel (items children)))

/-- The items of a level. -/
def items : List Node → List LevelItem
  | [] => []
  | node :: rest => item node :: items rest

end

end Emphasis

mutual

/-- The events of inline content. -/
def Span.events : Span → List Event
  | .char c => [.text (String.singleton c)]
  | .html text => [.inlineHtml (String.ofList text)]
  | .leaf leaf => [.leaf leaf]
  | .nest tag children => .start tag :: eventsOf children ++ [.stop tag]

/-- The events of a sequence of spans. -/
def eventsOf : List Span → List Event
  | [] => []
  | span :: rest => span.events ++ eventsOf rest

end

/-- Join texts that follow each other. -/
def joinText : List Event → List Event
  | [] => []
  | .text a :: rest =>
    match joinText rest with
    | .text b :: rest => .text (a ++ b) :: rest
    | rest => .text a :: rest
  | event :: rest => event :: joinText rest

/-- The events of inline text. -/
def inlineEvents (settings : Settings) (refs : References) (text : List Char) : List Event :=
  joinText (eventsOf (Emphasis.resolveLevel (Emphasis.items (Inline.nodes settings refs text))))

end Markdown
end Bindery
