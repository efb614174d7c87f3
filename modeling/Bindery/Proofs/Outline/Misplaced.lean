import Bindery.Proofs.Outline.Titles

/-!
# What stands behind a list

In a list item nothing but lists may stand from the first list on, wherever in a child that list is.
A page has an outline exactly if this holds for all its list items. Otherwise the error is that of
the first list item for which it does not, those in a list item being in front of it, and it names
the first child that may not stand there (`extract_eq_error_iff`).

Paragraphs stand for their children. Comments and blank texts do not count, and neither does a list
item without content, which may stand anywhere (`empty_item_is_passed_over`).
-/

namespace Bindery
namespace Outline

/-- Whether a node is a list itself. -/
def isList : Html.Node → Bool
  | .element head _ => Role.ofName head.name == .list
  | .text _ | .comment _ | .fragment _ => false

/-- Whether a node is a comment or a blank text. -/
def isInvisible : Html.Node → Bool
  | .text s => Text.isBlankText s
  | .comment _ => true
  | .element _ _ | .fragment _ => false

/-- Whether a node is a list item without content. -/
def isEmptyItem : Html.Node → Bool
  | .element head children => Role.ofName head.name == .item && (flowAll children).isEmpty
  | .text _ | .comment _ | .fragment _ => false

/-- The name of an element, or what stands for it. -/
def tagOf : Html.Node → String
  | .element head _ => head.name
  | .text _ | .comment _ | .fragment _ => "#text"

/-- Some nodes from the first on that is a list or has one in it. -/
def fromFirstList (nodes : List Html.Node) : List Html.Node :=
  nodes.dropWhile fun node => !bearsList node

/-- The first child of a list item that may not stand where it does. -/
def misplaced? (children : List Html.Node) : Option Html.Node :=
  (fromFirstList (flowAll children)).find? fun node => !isList node

/-- The title of a list item. -/
def titleOf (children : List Html.Node) : String :=
  Text.collapse (Html.Node.contentAll ((flowAll children).takeWhile fun node => !bearsList node))

/-- The error of a list item. -/
def misplacedError? (children : List Html.Node) : Option AfterListError :=
  (misplaced? children).map fun node => ⟨tagOf node, titleOf children, node.outer⟩

mutual

/-- The list items of a node, each given by its children and behind those in it. -/
def listItems : Html.Node → List (List Html.Node)
  | .text _ | .comment _ => []
  | .fragment children => listItemsIn children
  | .element head children =>
    listItemsIn children ++ if Role.ofName head.name = .item then [children] else []

/-- The list items of some nodes. -/
def listItemsIn : List Html.Node → List (List Html.Node)
  | [] => []
  | node :: rest => listItems node ++ listItemsIn rest

end

/-! ## What a list item comes to -/

mutual

/-- Of the nodes that a node stands for, the invisible ones and the empty list items come to
nothing. -/
lemma isKept_of_mem_unwrapped {node child : Html.Node} (h : node ∈ unwrapped child) :
    isKept node = !(isInvisible node || isEmptyItem node) := by
  cases child with
  | text s =>
    rw [unwrapped, List.mem_singleton] at h
    rw [h, isKept, flow, isInvisible, isEmptyItem]
    cases Text.isBlankText s <;> rfl
  | comment s =>
    rw [unwrapped, List.mem_singleton] at h
    rw [h]
    rfl
  | fragment children =>
    rw [unwrapped] at h
    exact isKept_of_mem_unwrappedAll h
  | element head children =>
    rw [unwrapped] at h
    split at h
    · exact isKept_of_mem_unwrappedAll h
    · rename_i hparagraph
      rw [List.mem_singleton] at h
      rw [h, isKept, isInvisible, isEmptyItem]
      cases hrole : Role.ofName head.name with
      | paragraph => exact absurd hrole hparagraph
      | list =>
        rw [flow_list hrole]
        rfl
      | other =>
        rw [flow_other hrole]
        rfl
      | item =>
        by_cases hnil : flowAll children = []
        · rw [flow_item_of_nil hrole hnil, hnil]
          rfl
        · rw [flow_item_of_ne_nil hrole hnil, List.isEmpty_eq_false_iff.2 hnil]
          rfl

/-- A node without paragraphs is kept unless it is invisible or an empty item. -/
lemma isKept_of_mem_unwrappedAll {node : Html.Node} {children : List Html.Node}
    (h : node ∈ unwrappedAll children) : isKept node = !(isInvisible node || isEmptyItem node) := by
  cases children with
  | nil => exact absurd h List.not_mem_nil
  | cons child rest =>
    rw [unwrappedAll, List.mem_append] at h
    obtain h | h := h
    · exact isKept_of_mem_unwrapped h
    · exact isKept_of_mem_unwrappedAll h

end

/-- The flow of a list item is what its children stand for, without all that comes to nothing. -/
lemma flowAll_eq_filter (children : List Html.Node) :
    flowAll children
      = (unwrappedAll children).filter fun node => !(isInvisible node || isEmptyItem node) := by
  rw [← filter_unwrappedAll]
  exact List.filter_congr fun _ hnode => isKept_of_mem_unwrappedAll hnode

/-- A list as a node of an outline. -/
def Item.isList : Item → Bool
  | .list _ => true
  | .text _ | .element _ _ _ | .entry _ => false

namespace Extract

variable {shortcut : Bool} {nodes children : List Html.Node} {parts : List Extract}

/-- A part was read from a node, and it is a list if the node is one. -/
structure ReadFrom (node : Html.Node) (part : Extract) : Prop where
  standsFor : StandsFor node part
  isList_eq : part.item.isList = isList node

/-- Every part is read from its node. -/
lemma holdsOfParts_readFrom : HoldsOfParts shortcut ReadFrom where
  text s _ := ⟨⟨rfl, rfl⟩, rfl⟩
  element h hinner hparagraph hreads := by
    have hnode := holdsOfParts_standsFor.element h (hinner.imp fun _ _ hpart => hpart.standsFor)
      hparagraph hreads
    refine ⟨hnode, ?_⟩
    rw [isList]
    cases hreads with
    | paragraph hrole => exact absurd hrole hparagraph
    | list hrole | item hrole | other hrole =>
      rw [hrole]
      rfl

lemma tag_eq_tagOf (part : Extract) : part.tag = tagOf part.source := by
  rw [tag]
  cases part.source <;> rfl

/-- The error behind a title is that of the first node that is no list. -/
lemma error?_nested (h : List.Forall₂ ReadFrom nodes parts) (title : String) :
    error? (nested title parts)
      = (nodes.find? fun node => !isList node).map fun node =>
          ⟨tagOf node, title, node.outer⟩ := by
  induction h with
  | nil => rfl
  | @cons node part nodes parts hpart _ ih =>
    have hlist := hpart.isList_eq
    cases hitem : part.item with
    | list body =>
      rw [hitem] at hlist
      rw [nested_cons_list hitem, error?_map, ih,
        List.find?_cons_of_neg (by simp [← hlist, Item.isList])]
    | text s | element name attributes body | entry e =>
      rw [hitem] at hlist
      rw [nested_cons_other (by simp [hitem]),
        List.find?_cons_of_pos (by simp [← hlist, Item.isList]), tag_eq_tagOf, hpart.standsFor.1]
      rfl

/-- A list item fails with its first misplaced child. -/
lemma error?_entry (h : List.Forall₂ ReadFrom (flowAll children) parts) :
    error? (entry parts) = misplacedError? children := by
  have htitle := map_source_takeWhile (h.imp fun _ _ hpart => hpart.standsFor)
  have hlists : List.Forall₂ ReadFrom (fromFirstList (flowAll children))
      (parts.dropWhile fun part => !part.holdsList) :=
    (forall₂_cut (fun _ _ hpart => by rw [hpart.standsFor.2]) h).2
  rw [entry, error?_bind (e := none), Option.or_none, htitle, error?_nested hlists]
  · rfl
  · intro children _
    rfl

/-- Among elements only list items fail of themselves. -/
lemma error?_ofElement (h : List.Forall₂ ReadFrom (flowAll children) parts)
    (node : Html.Node) (head : Html.Element) :
    error? (ofElement shortcut node head parts)
      = if Role.ofName head.name = .item then misplacedError? children else none := by
  cases hrole : Role.ofName head.name with
  | paragraph =>
    rw [ofElement_paragraph hrole]
    rfl
  | list =>
    rw [ofElement_list hrole]
    rfl
  | other =>
    rw [ofElement_other hrole]
    rfl
  | item =>
    rw [ofElement_item hrole, if_pos rfl, ← error?_entry h]
    obtain rfl | hne := eq_or_ne parts []
    · rfl
    · rw [List.isEmpty_eq_false_iff.2 hne, if_neg (by decide), error?_bind (e := none),
        Option.or_none]
      intro e _
      rfl

mutual

/-- The error of a node is that of its first list item that has one. -/
lemma error?_ofNode (node : Html.Node) :
    error? (ofNode shortcut node) = (listItems node).findSome? misplacedError? := by
  cases node with
  | text s =>
    rw [ofNode]
    split <;> rfl
  | comment s => rfl
  | fragment children =>
    rw [ofNode, listItems]
    exact error?_ofNodes children
  | element head children =>
    have hitem : ∀ parts, ofNodes shortcut children = .ok parts →
        error? (ofElement shortcut (.element head children) head parts)
          = if Role.ofName head.name = .item then misplacedError? children else none :=
      fun parts hparts => error?_ofElement (holdsOfParts_readFrom.of_ofNodes hparts) _ head
    rw [ofNode, error?_bind hitem, error?_ofNodes children, listItems, List.findSome?_append]
    split
    · rw [List.findSome?_singleton]
    · rfl

/-- Nodes fail with the first error of their list items. -/
lemma error?_ofNodes (nodes : List Html.Node) :
    error? (ofNodes shortcut nodes) = (listItemsIn nodes).findSome? misplacedError? := by
  cases nodes with
  | nil => rfl
  | cons node rest =>
    have hrest : ∀ parts, ofNode shortcut node = .ok parts →
        error? (ofNodes shortcut rest >>= fun others => .ok (parts ++ others))
          = (listItemsIn rest).findSome? misplacedError? := by
      intro parts _
      rw [error?_bind (e := none), Option.or_none, error?_ofNodes rest]
      intro others _
      rfl
    rw [ofNodes, listItemsIn, List.findSome?_append, ← error?_ofNode node]
    exact error?_bind hrest

end

end Extract

/-! ## The error of a page -/

/-- A page fails with the first error of its list items. -/
lemma error?_extract (page : Html.Node) :
    error? (extract page) = (listItems page).findSome? misplacedError? := by
  rw [extract, error?_bind (e := none), Option.or_none, Extract.error?_ofNode]
  intro parts _
  rfl

/-- The error names the tag of the misplaced child and the title in front of it. -/
lemma misplacedError?_eq_some_iff {children : List Html.Node} {e : AfterListError} :
    misplacedError? children = some e ↔
      ∃ child, misplaced? children = some child ∧
        e = ⟨tagOf child, titleOf children, child.outer⟩ := by
  rw [misplacedError?, Option.map_eq_some_iff]
  exact exists_congr fun child => and_congr_right fun _ => eq_comm

/-- There is an error if a child behind the first list is none. -/
lemma isSome_misplacedError?_iff {children : List Html.Node} :
    (misplacedError? children).isSome
      ↔ ∃ child ∈ fromFirstList (flowAll children), isList child = false := by
  rw [misplacedError?, Option.isSome_map, misplaced?, List.find?_isSome]
  simp only [Bool.not_eq_true']

/-- The title is the text of all nodes in front of the first list, if no blanks that are dropped
part two words of it. -/
lemma titleOf_eq {children : List Html.Node} (h : ¬ JoinsWords (titleRun children)) :
    titleOf children = Text.collapse (Html.Node.contentAll (titleRun children)) := by
  rw [titleOf, ← filter_titleRun, Text.collapse_eq_iff, toList_contentAll, toList_contentAll]
  exact (Text.words_kept_eq_iff fun node _ hdropped => isBlank_of_not_isKept hdropped).2 h

/-- A page has no outline exactly if in one of its list items something that is no list stands from
the first list on. The error is that of the first such list item in post-order, with its title and
the first such child. The children are those of the list item, with paragraphs taken for what they
hold, and without comments, blank texts and list items that have no content. -/
theorem extract_eq_error_iff (page : Html.Node) :
    (∀ e, extract page = .error e ↔
        ∃ before children after child, listItems page = before ++ children :: after ∧
          (∀ other ∈ before, misplaced? other = none) ∧ misplaced? children = some child ∧
          e = ⟨tagOf child, titleOf children, child.outer⟩) ∧
      ((∃ e, extract page = .error e) ↔ ∃ children ∈ listItems page,
        ∃ child ∈ fromFirstList (flowAll children), isList child = false) ∧
      (∀ children, ¬ JoinsWords (titleRun children) →
        titleOf children = Text.collapse (Html.Node.contentAll (titleRun children))) ∧
      ∀ children, flowAll children
        = (unwrappedAll children).filter fun node => !(isInvisible node || isEmptyItem node) := by
  have herror : ∀ e, extract page = .error e ↔
      (listItems page).findSome? misplacedError? = some e := fun e => by
    rw [← error?_extract, error?_eq_some_iff]
  refine ⟨fun e => ?_, ?_, fun _ => titleOf_eq, flowAll_eq_filter⟩
  · rw [herror, List.findSome?_eq_some_iff]
    constructor
    · rintro ⟨before, children, after, hitems, hchildren, hbefore⟩
      obtain ⟨child, hchild, he⟩ := misplacedError?_eq_some_iff.1 hchildren
      refine ⟨before, children, after, child, hitems, fun other hother => ?_, hchild, he⟩
      exact Option.map_eq_none_iff.1 (hbefore other hother)
    · rintro ⟨before, children, after, child, hitems, hbefore, hchild, he⟩
      refine ⟨before, children, after, hitems, misplacedError?_eq_some_iff.2 ⟨child, hchild, he⟩,
        fun other hother => ?_⟩
      exact Option.map_eq_none_iff.2 (hbefore other hother)
  · calc (∃ e, extract page = .error e)
        ↔ ((listItems page).findSome? misplacedError?).isSome := by
          simp only [herror, Option.isSome_iff_exists]
      _ ↔ ∃ children ∈ listItems page, (misplacedError? children).isSome :=
          List.findSome?_isSome_iff
      _ ↔ ∃ children ∈ listItems page,
            ∃ child ∈ fromFirstList (flowAll children), isList child = false := by
          simp only [isSome_misplacedError?_iff]

/-- The first visible child of a list item that is no list, from the first list on. -/
def stray? (children : List Html.Node) : Option Html.Node :=
  (fromFirstList ((unwrappedAll children).filter fun node => !isInvisible node)).find?
    fun node => !isList node

/-- The children of a list item with a list and a list item without content behind it. -/
def withEmptyItem (rest : List Html.Node) : List Html.Node :=
  [.text "A", .element { name := "ul" } [], .element { name := "li" } []] ++ rest

/-- A list item without content is passed over behind a list, although it is visible and no list.
Alone it is no error, and where something else follows that may not stand there, that is in the
error. -/
theorem empty_item_is_passed_over :
    stray? (withEmptyItem []) = some (.element { name := "li" } []) ∧
      (∃ outline, extract (.element { name := "ul" }
        [.element { name := "li" } (withEmptyItem [])]) = .ok outline) ∧
      stray? (withEmptyItem [.element { name := "table" } []])
        = some (.element { name := "li" } []) ∧
      extract (.element { name := "ul" } [.element { name := "li" }
          (withEmptyItem [.element { name := "table" } []])])
        = .error ⟨"table", "A", "<table></table>"⟩ := by
  refine ⟨rfl, ⟨_, rfl⟩, rfl, ?_⟩
  cbv

end Outline
end Bindery
