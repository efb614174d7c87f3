import Bindery.Html.Printer

/-!
# Outlines

A table of contents is a page of nested lists of links. Its outline is a tree of entries, one for
each list item, with the nodes that stand around them. An item's title is what stands before its
first nested list; after that only lists may follow.

A part of the page that holds neither lists nor links is kept as the markup it was written in.
-/

namespace Bindery
namespace Outline

mutual

/-- A node of an outline. -/
inductive Item where
  | text (s : String)
  | list (body : Body)
  | element (name : String) (attributes : List (String × String)) (body : Body)
  | entry (e : Entry)

/-- What an element or a list holds: markup as it is, or nodes. -/
inductive Body where
  | html (s : String)
  | items (items : List Item)

/-- A list item with a title; the entries of the lists nested in it are its children. -/
inductive Entry where
  | mk (titleText : String) (url : Option String) (title : List Item) (children : List Entry)

end

instance : Inhabited Item := ⟨.text ""⟩

instance : Inhabited Entry := ⟨.mk "" none [] []⟩

namespace Entry

/-- The text of the title, its words parted by single spaces. -/
def titleText : Entry → String
  | mk titleText _ _ _ => titleText

/-- The target of the first link of the title. -/
def url : Entry → Option String
  | mk _ url _ _ => url

/-- The nodes of the title. -/
def title : Entry → List Item
  | mk _ _ title _ => title

/-- The entries of the nested lists. -/
def children : Entry → List Entry
  | mk _ _ _ children => children

end Entry

/-- Something stands after a nested list that is not a list itself. -/
structure AfterListError where
  tag : String
  title : String
  html : String
deriving DecidableEq, Repr, Inhabited

/-- The wording of the error. -/
def AfterListError.message (e : AfterListError) : String :=
  "Found unexpected \"" ++ e.tag ++ "\" tag after list in \"" ++ e.title ++ "\": " ++ e.html

/-! ## Entries of a node -/

mutual

/-- The entries of a node that are not inside other entries. -/
def Item.entries : Item → List Entry
  | .text _ => []
  | .list body => body.entries
  | .element _ _ body => body.entries
  | .entry e => [e]

/-- The entries in the body of an element. -/
def Body.entries : Body → List Entry
  | .html _ => []
  | .items items => entriesOf items

/-- The entries of some nodes. -/
def entriesOf : List Item → List Entry
  | [] => []
  | item :: rest => item.entries ++ entriesOf rest

end

/-! ## Extraction -/

/-- What a node of the page comes to. -/
structure Extract where
  item : Item
  source : Html.Node
  holdsList : Bool
  isSimple : Bool
deriving Inhabited

namespace Extract

/-- The body of the element that the parts were read from. With `shortcut` off it is never kept as
markup. -/
def body (shortcut : Bool) (node : Html.Node) (parts : List Extract) : Body :=
  if shortcut && parts.all Extract.isSimple then .html node.inner
  else .items (parts.map Extract.item)

/-- The name of an element, as errors show it. -/
def tag (e : Extract) : String :=
  match e.source with
  | .element head _ => head.name
  | _ => "#text"

/-- The entries of the lists after a title. -/
def nested (title : String) : List Extract → Except AfterListError (List Entry)
  | [] => .ok []
  | part :: rest => do
    let entries ← match part.item with
      | .list (.items items) => .ok (items.filterMap fun
        | .entry e => some e
        | _ => none)
      | .list (.html _) => .ok []
      | _ => .error ⟨part.tag, title, part.source.outer⟩
    return entries ++ (← nested title rest)

/-- The entry of a list item with some content. -/
def entry (parts : List Extract) : Except AfterListError Entry := do
  let title := parts.takeWhile fun part => !part.holdsList
  let lists := parts.dropWhile fun part => !part.holdsList
  let sources := title.map Extract.source
  let titleText := Text.collapse (Html.Node.contentAll sources)
  let link := Html.Node.firstOf? (·.name == "a") sources
  let children ← nested titleText lists
  return .mk titleText (link.bind (·.attribute? "href")) (title.map Extract.item) children

/-- What an element comes to, from what its children come to. -/
def ofElement (shortcut : Bool) (node : Html.Node) (head : Html.Element) (parts : List Extract) :
    Except AfterListError (List Extract) := do
  let isSimple := parts.all Extract.isSimple
  let holdsList := parts.any Extract.holdsList
  match head.name with
  | "p" => return parts
  | "ul" | "ol" => return [⟨.list (body shortcut node parts), node, true, false⟩]
  | "li" =>
    if parts.isEmpty then return []
    else return [⟨.entry (← entry parts), node, holdsList, false⟩]
  | name =>
    let attributes := head.attributes.map fun a => (a.name, a.value)
    -- A link keeps its structure around it.
    return [⟨.element name attributes (body shortcut node parts), node, holdsList,
      isSimple && name != "a"⟩]

mutual

/-- What a node of the page comes to: nothing, one node, or some where a paragraph or a nameless
container gives its children. -/
def ofNode (shortcut : Bool) : Html.Node → Except AfterListError (List Extract)
  | .text s =>
    if Text.isBlankText s then .ok [] else .ok [⟨.text s, .text s, false, true⟩]
  | .comment _ => .ok []
  | .fragment children => ofNodes shortcut children
  | .element head children => do
    ofElement shortcut (.element head children) head (← ofNodes shortcut children)

/-- What some nodes of the page come to. -/
def ofNodes (shortcut : Bool) : List Html.Node → Except AfterListError (List Extract)
  | [] => .ok []
  | node :: rest => do
    let parts ← ofNode shortcut node
    return parts ++ (← ofNodes shortcut rest)

end

end Extract

/-- The outline of a page, if it has any content. -/
def extract (page : Html.Node) : Except AfterListError (Option Item) := do
  return (← Extract.ofNode true page).head?.map Extract.item

/-- The outline of a page in which no markup is kept as it was written. -/
def extractStructured (page : Html.Node) : Except AfterListError (Option Item) := do
  return (← Extract.ofNode false page).head?.map Extract.item

/-! ## Breadcrumbs -/

/-- A step on the way to an entry. -/
structure Crumb where
  title : String
  url : Option String
deriving DecidableEq, Repr, Inhabited

/-- For each link target, in order, the ways to the entries that have it. -/
abbrev Breadcrumbs := List (String × List (List Crumb))

/-- Add a way to a link target. -/
def addTrail (url : String) (trail : List Crumb) : Breadcrumbs → Breadcrumbs
  | [] => [(url, [trail])]
  | (key, trails) :: rest =>
    if key = url then (key, trails ++ [trail]) :: rest
    else if url < key then (url, [trail]) :: (key, trails) :: rest
    else (key, trails) :: addTrail url trail rest

mutual

/-- Add the ways to an entry and to all below it. -/
def addEntry (path : List Crumb) (found : Breadcrumbs) : Entry → Breadcrumbs
  | .mk titleText url _ children =>
    let path := path ++ [⟨titleText, url⟩]
    addEntries path (match url with
      | some url => addTrail url path found
      | none => found) children

/-- Add the ways to some entries and to all below them. -/
def addEntries (path : List Crumb) (found : Breadcrumbs) : List Entry → Breadcrumbs
  | [] => found
  | e :: rest => addEntries path (addEntry path found e) rest

end

/-- The ways to all entries of an outline. -/
def breadcrumbs (outline : Item) : Breadcrumbs := addEntries [] [] outline.entries

end Outline
end Bindery
