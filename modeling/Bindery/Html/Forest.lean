import Bindery.Html.Node

/-!
# Growing trees

While a markup text is read, nodes are made, moved and taken out again, so the nodes stand in a
table and know each other by their places in it. A place never changes: nodes are only added, in
the order in which they are made, and a node that was taken out keeps its place and its children.

`Forest.node` is the tree that hangs from a place.
-/

namespace Bindery
namespace Html

/-- What a node is, apart from its place in the tree. -/
inductive Label where
  | element (head : Element)
  | text (s : String)
  | comment (s : String)
deriving Repr, Inhabited

/-- A node of the table. -/
structure Cell where
  label : Label
  parent : Option Nat := none
  children : List Nat := []
deriving Repr, Inhabited

/-- A table of nodes. -/
structure Forest where
  cells : Array Cell := #[]
deriving Repr, Inhabited

namespace Forest

/-- Make a node that hangs nowhere. -/
def create (f : Forest) (label : Label) : Nat × Forest :=
  (f.cells.size, ⟨f.cells.push { label }⟩)

/-- Change a node. -/
def change (f : Forest) (id : Nat) (g : Cell → Cell) : Forest := ⟨f.cells.modify id g⟩

/-- The element at a place. -/
def element? (f : Forest) (id : Nat) : Option Element :=
  match f.cells[id]? with
  | some { label := .element head, .. } => some head
  | _ => none

/-- The node above a place. -/
def parent? (f : Forest) (id : Nat) : Option Nat := f.cells[id]?.bind Cell.parent

/-- The nodes right below a place. -/
def children (f : Forest) (id : Nat) : List Nat := (f.cells[id]?.map Cell.children).getD []

/-- Take a node out of the tree it hangs in, with all below it. -/
def detach (f : Forest) (id : Nat) : Forest :=
  match f.parent? id with
  | none => f
  | some parent =>
    (f.change parent fun cell => { cell with children := cell.children.filter (· != id) }).change
      id fun cell => { cell with parent := none }

/-- Hang a node below another, after its other children. -/
def append (f : Forest) (parent id : Nat) : Forest :=
  ((f.detach id).change parent fun cell => { cell with children := cell.children ++ [id] }).change
    id fun cell => { cell with parent := some parent }

/-- Hang a node right before another one that has a parent. -/
def insertBefore (f : Forest) (sibling id : Nat) : Forest :=
  let f := f.detach id
  match f.parent? sibling with
  | none => f
  | some parent =>
    (f.change parent fun cell =>
      { cell with
        children := cell.children.flatMap fun c => if c == sibling then [id, c] else [c] }).change
      id fun cell => { cell with parent := some parent }

/-- Add to a text node; `none` if the place holds no text. -/
def extendText? (f : Forest) (id : Nat) (s : String) : Option Forest :=
  match f.cells[id]? with
  | some { label := .text old, .. } =>
    some (f.change id fun cell => { cell with label := .text (old ++ s) })
  | _ => none

/-- Add text below a node; it joins a text that is already last. -/
def appendText (f : Forest) (parent : Nat) (s : String) : Forest :=
  match (f.children parent).getLast?.bind fun last => f.extendText? last s with
  | some f => f
  | none =>
    let (id, f) := f.create (.text s)
    f.append parent id

/-- Add text right before a node; it joins a text that already stands there. -/
def insertTextBefore (f : Forest) (sibling : Nat) (s : String) : Forest :=
  let siblings := ((f.parent? sibling).map f.children).getD []
  match (siblings.takeWhile (· != sibling)).getLast?.bind fun last => f.extendText? last s with
  | some f => f
  | none =>
    let (id, f) := f.create (.text s)
    f.insertBefore sibling id

/-- Hang all children of a node below another one. -/
def moveChildren (f : Forest) (source target : Nat) : Forest :=
  (f.children source).foldl (fun f id => f.append target id) f

/-- Add the attributes that an element does not have yet. -/
def addAttributes (f : Forest) (id : Nat) (attributes : List Attribute) : Forest :=
  f.change id fun cell =>
    match cell.label with
    | .element head =>
      let isNew (a : Attribute) : Bool :=
        !head.attributes.any fun b => b.space == a.space && b.name == a.name
      { cell with label := .element { head with
        attributes := (head.attributes ++ attributes.filter isNew).mergeSort Attribute.le } }
    | _ => cell

/-- The tree below a place, down to a depth. -/
def nodeTo (f : Forest) : (depth : Nat) → Nat → Node
  | 0, _ => .fragment []
  | depth + 1, id =>
    match f.cells[id]? with
    | none => .fragment []
    | some cell =>
      match cell.label with
      | .element head => .element head (cell.children.map (f.nodeTo depth))
      | .text s => .text s
      | .comment s => .comment s

/-- The tree that hangs from a place; it cannot be deeper than there are nodes. -/
def node (f : Forest) (id : Nat) : Node := f.nodeTo f.cells.size id

end Forest
end Html
end Bindery
