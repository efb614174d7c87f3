import Bindery.Markdown.Structure
import Bindery.Markdown.Emphasis

/-!
# Reading documents

The events of a document: its blocks in order, with the inline text of each block read.
-/

namespace Bindery
namespace Markdown

/-- The events of a paragraph; inside a tight list it has no construct of its own. -/
def paragraphEvents (settings : Settings) (refs : References) (tight : Bool)
    (task : Option Bool) (text : List Char) : List Event :=
  let inside := (task.toList.map fun checked => .leaf (.taskListMarker checked))
    ++ inlineEvents settings refs text
  if tight then inside else .start .paragraph :: inside ++ [.stop .paragraph]

/-- The events of a heading. After a closing run of number signs an empty text follows unless text
comes before it. -/
def headingEvents (settings : Settings) (refs : References) (level : Nat)
    (attributes : HeadingAttributes) (task : Option Bool) (closed : Bool) (text : List Char) :
    List Event :=
  let tag := Tag.heading level attributes
  let inside := inlineEvents settings refs text
  let tail : List Event := match inside.getLast? with
    | none => []
    | some (.text _) => []
    | some _ => if closed then [.text ""] else []
  .start tag :: (task.toList.map fun checked => .leaf (.taskListMarker checked)) ++ inside ++ tail
    ++ [.stop tag]

/-- The events of a table row. -/
def rowEvents (settings : Settings) (refs : References) (tag : Tag) (cells : List (List Char)) :
    List Event :=
  .start tag
    :: cells.flatMap (fun cell =>
      .start .tableCell :: inlineEvents settings refs cell ++ [.stop .tableCell])
    ++ [.stop tag]

/-- The events of a table. -/
def tableEvents (settings : Settings) (refs : References) (alignments : List Alignment)
    (rows : List (List (List Char))) : List Event :=
  let tag := Tag.table alignments
  let inside := match rows with
    | [] => []
    | head :: body => rowEvents settings refs .tableHead head
        ++ body.flatMap (rowEvents settings refs .tableRow)
  .start tag :: inside ++ [.stop tag]

/-- The events of a line of raw HTML; its indentation counts as text. -/
def htmlLineEvents (line : Nat × List Char) : List Event :=
  (if line.1 = 0 then [] else [.text (String.ofList (List.replicate line.1 ' '))])
    ++ [.html (String.ofList line.2)]

mutual

/-- The events of a block; `tight` tells whether it stands in an item of a tight list. -/
def Block.events (settings : Settings) (refs : References) (tight : Bool) : Block → List Event
  | .paragraph task text => paragraphEvents settings refs tight task text
  | .heading level attributes task closed text =>
    headingEvents settings refs level attributes task closed text
  | .code kind text =>
    .startCode kind :: (if text.isEmpty then [] else [.text (String.ofList text)]) ++ [.stopCode]
  | .html lines => .start .htmlBlock :: lines.flatMap htmlLineEvents ++ [.stop .htmlBlock]
  | .rule => [.leaf .rule]
  | .table alignments rows => tableEvents settings refs alignments rows
  | .task checked => [.leaf (.taskListMarker checked)]
  | .quote children =>
    .start .blockQuote :: blockEvents settings refs false children ++ [.stop .blockQuote]
  | .list tight start items =>
    .start (.list start) :: blockEvents settings refs tight items ++ [.stop (.list start)]
  | .item children => .start .item :: blockEvents settings refs tight children ++ [.stop .item]
  | .footnote label children =>
    let tag := Tag.footnoteDefinition (String.ofList label)
    .start tag :: blockEvents settings refs false children ++ [.stop tag]

/-- The events of blocks in order. -/
def blockEvents (settings : Settings) (refs : References) (tight : Bool) :
    List Block → List Event
  | [] => []
  | block :: rest => block.events settings refs tight ++ blockEvents settings refs tight rest

end

/-- The events of a document. -/
def events (settings : Settings) (source : String) : List Event :=
  let outlined := structureOf settings source
  joinText (blockEvents settings outlined.references false outlined.blocks)

end Markdown
end Bindery
