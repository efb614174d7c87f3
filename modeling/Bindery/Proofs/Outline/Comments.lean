import Bindery.Proofs.Outline.Simulation

/-!
# Comments in a page

A comment may stand anywhere in a page. Wherever comments are put in among the children of nodes,
the outline has the same nodes with the same texts, titles and link targets, or there is an error
for the same element under the same title. Only markup that is kept as it was written has the
comments in it (`extract_commented`).
-/

namespace Bindery

namespace Html

/-- The second text is the first with some comments put in. -/
inductive CommentedText (texts : List String) : String → String → Prop where
  | same (s : String) : CommentedText texts s s
  | comment {text : String} (h : text ∈ texts) : CommentedText texts "" ("<!--" ++ text ++ "-->")
  | append {s t s' t' : String} (h : CommentedText texts s t) (h' : CommentedText texts s' t') :
      CommentedText texts (s ++ s') (t ++ t')

namespace Node

mutual

/-- The second node is the first with comments of the given texts put in among the children of
nodes, in any places. -/
inductive Commented (texts : List String) : Node → Node → Prop where
  | text (s : String) : Commented texts (.text s) (.text s)
  | comment (s : String) : Commented texts (.comment s) (.comment s)
  | element (head : Element) {children others : List Node}
      (h : CommentedAll texts children others) :
      Commented texts (.element head children) (.element head others)
  | fragment {children others : List Node} (h : CommentedAll texts children others) :
      Commented texts (.fragment children) (.fragment others)

/-- The second nodes are the first with comments put in among them and among the children of
nodes. -/
inductive CommentedAll (texts : List String) : List Node → List Node → Prop where
  | nil : CommentedAll texts [] []
  | cons {node other : Node} {rest others : List Node} (h : Commented texts node other)
      (hrest : CommentedAll texts rest others) : CommentedAll texts (node :: rest) (other :: others)
  | insert {text : String} (htext : text ∈ texts) {nodes others : List Node}
      (h : CommentedAll texts nodes others) : CommentedAll texts nodes (.comment text :: others)

end

variable {texts : List String}

mutual

/-- Comments in a node are comments in its markup. -/
lemma Commented.print {node other : Node} (h : Commented texts node other) (raw : Bool) :
    CommentedText texts (node.print raw) (other.print raw) := by
  cases h with
  | text s => exact .same _
  | comment s => exact .same _
  | fragment h =>
    rw [Node.print, Node.print]
    exact h.printAll false
  | element head h =>
    rw [Node.print, Node.print]
    split
    · exact .same _
    · exact ((CommentedText.same _).append (h.printAll _)).append (.same _)

/-- Comments among nodes are comments in their markup. -/
lemma CommentedAll.printAll {nodes others : List Node} (h : CommentedAll texts nodes others)
    (raw : Bool) : CommentedText texts (printAll raw nodes) (printAll raw others) := by
  cases h with
  | nil => exact .same _
  | cons h hrest =>
    rw [Node.printAll, Node.printAll]
    exact (h.print raw).append (hrest.printAll raw)
  | insert htext h =>
    rw [← String.empty_append (s := Node.printAll raw nodes), Node.printAll.eq_def raw (_ :: _)]
    exact (CommentedText.comment htext).append (h.printAll raw)

end

/-- Comments in a node are comments in the markup inside of it. -/
lemma Commented.inner {node other : Node} (h : Commented texts node other) :
    CommentedText texts node.inner other.inner := by
  cases h with
  | text s => exact .same _
  | comment s => exact .same _
  | element head h => exact h.printAll false
  | fragment h => exact h.printAll false

/-- Comments in a node are comments in the markup with its tags. -/
lemma Commented.outer {node other : Node} (h : Commented texts node other) :
    CommentedText texts node.outer other.outer := by
  cases h with
  | text s => exact .same _
  | comment s => exact .same _
  | fragment h => exact .same _
  | element head h => exact (Commented.element head h).print false

mutual

/-- Comments add nothing to the text of a node. -/
lemma Commented.content_eq {node other : Node} (h : Commented texts node other) :
    node.content = other.content := by
  cases h with
  | text s => rfl
  | comment s => rfl
  | element head h => exact h.contentAll_eq
  | fragment h => exact h.contentAll_eq

/-- Comments add nothing to the text of nodes. -/
lemma CommentedAll.contentAll_eq {nodes others : List Node} (h : CommentedAll texts nodes others) :
    contentAll nodes = contentAll others := by
  cases h with
  | nil => rfl
  | cons h hrest => rw [contentAll, contentAll, h.content_eq, hrest.contentAll_eq]
  | insert htext h =>
    rw [h.contentAll_eq]
    exact String.empty_append.symm

end

mutual

/-- The first element of a kind is found around comments. -/
lemma Commented.first?_eq {node other : Node} (h : Commented texts node other)
    (test : Element → Bool) : node.first? test = other.first? test := by
  cases h with
  | text s => rfl
  | comment s => rfl
  | element head h => rw [first?, first?, h.firstOf?_eq test]
  | fragment h => exact h.firstOf?_eq test

lemma CommentedAll.firstOf?_eq {nodes others : List Node} (h : CommentedAll texts nodes others)
    (test : Element → Bool) : firstOf? test nodes = firstOf? test others := by
  cases h with
  | nil => rfl
  | cons h hrest => rw [firstOf?, firstOf?, h.first?_eq test, hrest.firstOf?_eq test]
  | insert htext h => exact h.firstOf?_eq test

end

end Node
end Html

namespace Outline

open Html (CommentedText)
open Html.Node (Commented CommentedAll)

/-! ## Outlines with comments in their markup -/

mutual

/-- Two nodes of outlines are the same up to comments in the markup that is kept in them. -/
inductive ItemCommented (texts : List String) : Item → Item → Prop where
  | text (s : String) : ItemCommented texts (.text s) (.text s)
  | list {body other : Body} (h : BodyCommented texts body other) :
      ItemCommented texts (.list body) (.list other)
  | element (name : String) (attributes : List (String × String)) {body other : Body}
      (h : BodyCommented texts body other) :
      ItemCommented texts (.element name attributes body) (.element name attributes other)
  | entry {e other : Entry} (h : EntryCommented texts e other) :
      ItemCommented texts (.entry e) (.entry other)

/-- What an element holds is markup on both sides, with some comments put in, or nodes on both. -/
inductive BodyCommented (texts : List String) : Body → Body → Prop where
  | html {s t : String} (h : CommentedText texts s t) : BodyCommented texts (.html s) (.html t)
  | items {items others : List Item} (h : List.Forall₂ (ItemCommented texts) items others) :
      BodyCommented texts (.items items) (.items others)

/-- Two entries are the same up to comments in the nodes of their titles. -/
inductive EntryCommented (texts : List String) : Entry → Entry → Prop where
  | mk (titleText : String) (url : Option String) {title otherTitle : List Item}
      {children otherChildren : List Entry}
      (htitle : List.Forall₂ (ItemCommented texts) title otherTitle)
      (hchildren : List.Forall₂ (EntryCommented texts) children otherChildren) :
      EntryCommented texts (.mk titleText url title children)
        (.mk titleText url otherTitle otherChildren)

end

/-- Two errors are the same up to comments in the element that they show. -/
structure ErrorCommented (texts : List String) (e other : AfterListError) : Prop where
  tag : e.tag = other.tag
  title : e.title = other.title
  html : CommentedText texts e.html other.html

namespace ItemCommented

variable {texts : List String} {item other : Item}

/-- Comments make no list. -/
lemma isList_iff (h : ItemCommented texts item other) :
    (∃ body, item = .list body) ↔ ∃ body, other = .list body := by
  cases h with
  | list h => exact iff_of_true ⟨_, rfl⟩ ⟨_, rfl⟩
  | text s | element name attributes h | entry h => exact iff_of_false nofun nofun

/-- An entry stays an entry, with comments in its title. -/
lemma entry? (h : ItemCommented texts item other) :
    Option.Rel (EntryCommented texts) item.entry? other.entry? := by
  cases h with
  | text s | list h | element name attributes h => exact .none
  | entry h => exact .some h

/-- The entries that an item lists are the same up to comments. -/
lemma listed (h : ItemCommented texts item other) :
    List.Forall₂ (EntryCommented texts) item.listed other.listed := by
  cases h with
  | text s | element name attributes h | entry h => exact .nil
  | list h =>
    cases h with
    | html h => exact .nil
    | items h => exact List.rel_filterMap (fun _ _ h => h.entry?) h

end ItemCommented

namespace Extract

/-! ## Parts of pages with comments -/

/-- A part is the same up to comments in the node that it was read from. -/
structure PartCommented (texts : List String) (part other : Extract) : Prop where
  item : ItemCommented texts part.item other.item
  source : Commented texts part.source other.source
  holdsList : part.holdsList = other.holdsList
  isSimple : part.isSimple = other.isSimple

section

variable {texts : List String} {parts others : List Extract}

lemma forall₂_commented_map (h : List.Forall₂ (PartCommented texts) parts others) :
    List.Forall₂ (ItemCommented texts) (parts.map Extract.item) (others.map Extract.item) :=
  forall₂_map_item (fun _ _ hpart => hpart.item) h

/-- The tag of a part does not see comments. -/
lemma PartCommented.tag_eq {part other : Extract} (h : PartCommented texts part other) :
    part.tag = other.tag := by
  have hsource := h.source
  rw [tag, tag]
  generalize part.source = node at hsource ⊢
  generalize other.source = otherNode at hsource ⊢
  cases hsource with
  | text s | comment s | element head h | fragment h => rfl

/-- Comments in the markup of parts are kept by everything that is made of them. -/
lemma simulation_partCommented (texts : List String) :
    Simulation (PartCommented texts) (EntryCommented texts) (ErrorCommented texts) where
  holdsList h := h.holdsList
  isSimple h := h.isSimple
  isList_iff h := h.item.isList_iff
  listed h := h.item.listed
  content h := h.source.content_eq
  first? h test := h.source.first?_eq test
  entry htitle hchildren titleText url :=
    .mk titleText url (forall₂_commented_map htitle) hchildren
  error h _ := ⟨h.tag_eq, rfl, h.source.outer⟩

/-- Comments are kept in markup, and they are no reason to keep it or not. -/
lemma bodyCommented_body (h : List.Forall₂ (PartCommented texts) parts others) (shortcut : Bool)
    {node other : Html.Node} (hnode : Commented texts node other) :
    BodyCommented texts (body shortcut node parts) (body shortcut other others) := by
  rw [body, body, (simulation_partCommented texts).all_isSimple_eq h]
  split
  · exact .html hnode.inner
  · exact .items (forall₂_commented_map h)

end

/-- A comment comes to no part. -/
lemma ofNodes_comment_cons (shortcut : Bool) (text : String) (nodes : List Html.Node) :
    ofNodes shortcut (.comment text :: nodes) = ofNodes shortcut nodes := by
  rw [ofNodes, ofNode]
  cases ofNodes shortcut nodes <;> rfl

mutual

/-- A node comes to the same with comments in it, up to these, also where it fails. -/
lemma corresponds_of_commented {texts : List String} {shortcut : Bool} {node other : Html.Node}
    (h : Commented texts node other) :
    Corresponds (ErrorCommented texts) (List.Forall₂ (PartCommented texts))
      (ofNode shortcut node) (ofNode shortcut other) := by
  cases h with
  | text s =>
    rw [ofNode]
    split
    · exact .ok .nil
    · exact .ok (.cons ⟨.text s, .text s, rfl, rfl⟩ .nil)
  | comment s => exact .ok .nil
  | fragment h =>
    rw [ofNode, ofNode]
    exact corresponds_of_commentedAll h
  | element head h =>
    rw [ofNode, ofNode]
    refine (corresponds_of_commentedAll h).bind fun parts others _ _ hparts => ?_
    have hnode := Commented.element head h
    have hbody := bodyCommented_body hparts shortcut hnode
    exact (simulation_partCommented texts).ofElement hparts head ⟨.list hbody, hnode, rfl, rfl⟩
      (fun _ _ _ _ => ⟨.element _ _ hbody, hnode, rfl, rfl⟩)
      (fun _ _ _ he => ⟨.entry he, hnode, rfl, rfl⟩)

/-- Nodes come to the same with comments among them, up to these. -/
lemma corresponds_of_commentedAll {texts : List String} {shortcut : Bool}
    {nodes others : List Html.Node} (h : CommentedAll texts nodes others) :
    Corresponds (ErrorCommented texts) (List.Forall₂ (PartCommented texts))
      (ofNodes shortcut nodes) (ofNodes shortcut others) := by
  cases h with
  | nil => exact .ok .nil
  | cons h hrest =>
    rw [ofNodes, ofNodes]
    refine (corresponds_of_commented h).bind fun first otherFirst _ _ hfirst => ?_
    refine (corresponds_of_commentedAll hrest).bind fun more otherMore _ _ hmore => ?_
    exact .ok (List.rel_append hfirst hmore)
  | insert htext h =>
    rw [ofNodes_comment_cons]
    exact corresponds_of_commentedAll h

end

end Extract

/-- Comments are not seen in a page. With comments put in anywhere there is an outline as before,
the same up to comments in the markup that is kept in it, or the error as before, for an element of
the same name and under the same title. -/
theorem extract_commented {texts : List String} {page other : Html.Node}
    (h : Commented texts page other) :
    Corresponds (ErrorCommented texts) (Option.Rel (ItemCommented texts)) (extract page)
      (extract other) := by
  refine (Extract.corresponds_of_commented h).bind fun parts others _ _ hparts => ?_
  cases hparts with
  | nil => exact .ok .none
  | cons hpart hrest => exact .ok (.some hpart.item)

/-- A list with an item in which the same nodes stand in each place. -/
def listWith (nodes : List Html.Node) : Html.Node :=
  .element { name := "ul" } (nodes ++ [.element { name := "li" }
    ([.element { name := "b" } (.text "A" :: nodes)] ++ nodes ++
      [.element { name := "ul" } nodes] ++ nodes)])

/-- Only the markup of the title shows that there are comments in all places. -/
theorem extract_commented_listWith :
    extract (listWith []) = .ok (some (.list (.items [.entry
        (.mk "A" none [.element "b" [] (.html "A")] [])]))) ∧
      extract (listWith [.comment "x"]) = .ok (some (.list (.items [.entry
        (.mk "A" none [.element "b" [] (.html "A<!--x-->")] [])]))) ∧
      Corresponds (ErrorCommented ["x"]) (Option.Rel (ItemCommented ["x"])) (extract (listWith []))
        (extract (listWith [.comment "x"])) := by
  have hx : "x" ∈ ["x"] := List.mem_singleton_self _
  have hinner : CommentedAll ["x"] [] [.comment "x"] := .insert hx .nil
  have hpage : Commented ["x"] (listWith []) (listWith [.comment "x"]) :=
    .element _ (.insert hx (.cons (.element _ (.cons (.element _ (.cons (.text "A") hinner))
      (.insert hx (.cons (.element _ hinner) hinner)))) .nil))
  exact ⟨rfl, rfl, extract_commented hpage⟩

end Outline
end Bindery
