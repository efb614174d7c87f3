import Bindery.Proofs.Outline.Breadcrumbs
import Bindery.Proofs.Outline.Parts

/-!
# The list items of a page

A list item with some content comes to an entry of its own. Outside of other list items its entry is
reached from the top of the outline, whatever stands around it. Inside of another list item it is
reached only if it stands in a list of that item directly, paragraphs aside: an entry takes from its
nested lists the entries that they hold themselves, and nothing from its title. So `itemsAt` tells
the list items that are reached from those that are lost, and the entries that can be reached are
exactly those of the first (`reachable_extract`). A list item in a container that stands in a nested
list is lost, and no error says so (`item_in_container_is_lost`).
-/

namespace Bindery
namespace Outline

/-- The list item that an element is, if it is one with some content. -/
def ownItem (head : Html.Element) (children : List Html.Node) : List Html.Node :=
  if Role.ofName head.name = .item then flow (.element head children) else []

mutual

/-- The list items of a node that have some content, in document order. -/
def items : Html.Node → List Html.Node
  | .text _ | .comment _ => []
  | .fragment children => itemsAll children
  | .element head children => ownItem head children ++ itemsAll children

/-- The list items of some nodes that have some content. -/
def itemsAll : List Html.Node → List Html.Node
  | [] => []
  | node :: rest => items node ++ itemsAll rest

end

/-- Where a node stands: not inside of a list item, in a list item itself, or in a list that stands
in a list item itself. Paragraphs do not count. -/
inductive Place where
  | outside
  | item
  | list
deriving DecidableEq, Repr

/-- Where the children of an element stand. None, if an outline reaches no entries in the
element. -/
def Place.inside : Place → Role → Option Place
  | place, .paragraph => some place
  | .outside, .item | .list, .item => some .item
  | .outside, .list | .outside, .other => some .outside
  | .item, .list => some .list
  | .item, .item | .item, .other | .list, .list | .list, .other => none

mutual

/-- The list items of a node at a place, in document order, each with whether its entry is reached
from there. -/
def itemsAt (place : Place) : Html.Node → List (Html.Node × Bool)
  | .text _ | .comment _ => []
  | .fragment children => itemsAtAll place children
  | .element head children =>
    match place.inside (Role.ofName head.name) with
    | none => (items (.element head children)).map fun li => (li, false)
    | some inner => (ownItem head children).map (fun li => (li, true)) ++ itemsAtAll inner children

/-- The list items of some nodes at a place. -/
def itemsAtAll (place : Place) : List Html.Node → List (Html.Node × Bool)
  | [] => []
  | node :: rest => itemsAt place node ++ itemsAtAll place rest

end

/-- The list items of a page, each with whether its entry is reached in the outline. The outline of
a page that comes to several parts is the first of them. -/
def itemsOf (page : Html.Node) : List (Html.Node × Bool) :=
  match flow page with
  | [] => []
  | first :: rest => itemsAt .outside first ++ (itemsAll rest).map fun li => (li, false)

/-- The list items that are reached. -/
def kept (found : List (Html.Node × Bool)) : List Html.Node :=
  (found.filter fun item => item.2).map Prod.fst

/-- The list items that are not reached. -/
def lost (found : List (Html.Node × Bool)) : List Html.Node :=
  (found.filter fun item => !item.2).map Prod.fst

/-! ## All list items are told apart -/

section

variable {place : Place} {page node : Html.Node} {nodes others : List Html.Node}

lemma ownItem_eq {head : Html.Element} {children : List Html.Node}
    (h : Role.ofName head.name = .item) : ownItem head children = flow (.element head children) :=
  if_pos h

lemma ownItem_eq_nil {head : Html.Element} {children : List Html.Node}
    (h : Role.ofName head.name ≠ .item) : ownItem head children = [] :=
  if_neg h

/-- A list item is all that it contributes. -/
lemma eq_of_mem_flow_item {head : Html.Element} {children : List Html.Node}
    (hrole : Role.ofName head.name = .item) (h : node ∈ flow (.element head children)) :
    node = .element head children := by
  by_cases hnil : flowAll children = []
  · rw [flow_item_of_nil hrole hnil] at h
    exact absurd h List.not_mem_nil
  · rw [flow_item_of_ne_nil hrole hnil] at h
    exact List.mem_singleton.1 h

@[simp] lemma Place.inside_paragraph (place : Place) : place.inside .paragraph = some place := by
  cases place <;> rfl

/-- A list item is reached unless it stands in another one without a list between. -/
lemma Place.inside_item (h : place ≠ .item) : place.inside .item = some .item := by
  cases place with
  | outside => rfl
  | item => exact absurd rfl h
  | list => rfl

lemma map_fst_marked (nodes : List Html.Node) (reached : Bool) :
    (nodes.map fun li => (li, reached)).map Prod.fst = nodes := by
  rw [List.map_map]
  exact List.map_id nodes

mutual

/-- The list items of a node are told apart into those reached and those not. -/
lemma map_fst_itemsAt (place : Place) (node : Html.Node) :
    (itemsAt place node).map Prod.fst = items node := by
  cases node with
  | text s => rfl
  | comment s => rfl
  | fragment children =>
    rw [itemsAt, items]
    exact map_fst_itemsAtAll place children
  | element head children =>
    rw [itemsAt]
    split
    · exact map_fst_marked _ _
    · rename_i inner _
      rw [List.map_append, map_fst_marked, map_fst_itemsAtAll inner children, items]

/-- So are the list items of several nodes. -/
lemma map_fst_itemsAtAll (place : Place) (nodes : List Html.Node) :
    (itemsAtAll place nodes).map Prod.fst = itemsAll nodes := by
  cases nodes with
  | nil => rfl
  | cons node rest =>
    rw [itemsAtAll, List.map_append, map_fst_itemsAt place node, map_fst_itemsAtAll place rest,
      itemsAll]

end

lemma itemsAll_append : itemsAll (nodes ++ others) = itemsAll nodes ++ itemsAll others := by
  induction nodes with
  | nil => rfl
  | cons node nodes ih => rw [List.cons_append, itemsAll, ih, itemsAll, List.append_assoc]

lemma itemsAll_singleton : itemsAll [node] = items node := by
  rw [itemsAll, itemsAll, List.append_nil]

mutual

/-- What comes to nothing has no list items. -/
lemma itemsAll_flow (node : Html.Node) : itemsAll (flow node) = items node := by
  cases node with
  | text s =>
    rw [flow]
    split <;> rfl
  | comment s => rfl
  | fragment children =>
    rw [flow, items]
    exact itemsAll_flowAll children
  | element head children =>
    have hchildren := itemsAll_flowAll children
    cases hrole : Role.ofName head.name with
    | paragraph =>
      rw [items, ownItem_eq_nil (by simp [hrole]), List.nil_append, flow_paragraph hrole]
      exact hchildren
    | list =>
      rw [flow_list hrole]
      exact itemsAll_singleton
    | other =>
      rw [flow_other hrole]
      exact itemsAll_singleton
    | item =>
      by_cases hnil : flowAll children = []
      · rw [hnil] at hchildren
        rw [items, ownItem_eq hrole, flow_item_of_nil hrole hnil, ← hchildren]
        rfl
      · rw [flow_item_of_ne_nil hrole hnil]
        exact itemsAll_singleton

/-- The list items are found in the flow. -/
lemma itemsAll_flowAll (nodes : List Html.Node) : itemsAll (flowAll nodes) = itemsAll nodes := by
  cases nodes with
  | nil => rfl
  | cons node rest =>
    rw [flowAll, itemsAll_append, itemsAll_flow node, itemsAll_flowAll rest, itemsAll]

end

/-- All list items of a page are told apart. -/
lemma map_fst_itemsOf (page : Html.Node) : (itemsOf page).map Prod.fst = items page := by
  rw [← itemsAll_flow, itemsOf]
  cases flow page with
  | nil => rfl
  | cons first rest =>
    dsimp only
    rw [List.map_append, map_fst_itemsAt, map_fst_marked, itemsAll]

end

/-! ## Entries and list items -/

/-- The entries among the parts of a node at a place that are reached from there. -/
def Place.entries : Place → List Extract → List Entry
  | .outside, parts => entriesOf (parts.map Extract.item)
  | .item, parts => Extract.listed parts
  | .list, parts => (parts.map Extract.item).filterMap Item.entry?

/-- A node comes to an entry alone. -/
def ComesToEntry (shortcut : Bool) (node : Html.Node) (e : Entry) : Prop :=
  ∃ part, Extract.IsPartOf shortcut node part ∧ part.item = .entry e

/-- The entries that are reached in some parts are those of the list items that are kept. -/
def Reaches (shortcut : Bool) (place : Place) (found : List (Html.Node × Bool))
    (parts : List Extract) : Prop :=
  List.Forall₂ (ComesToEntry shortcut) (kept found) (allEntries (place.entries parts))

section

variable {shortcut : Bool} {place : Place} {node : Html.Node} {head : Html.Element}
  {children nodes : List Html.Node} {parts others inner : List Extract}
  {found more : List (Html.Node × Bool)}

lemma kept_append : kept (found ++ more) = kept found ++ kept more := by
  rw [kept, List.filter_append, List.map_append, kept, kept]

lemma kept_unmarked (nodes : List Html.Node) : kept (nodes.map fun li => (li, false)) = [] := by
  induction nodes with
  | nil => rfl
  | cons node nodes ih => exact ih

lemma Place.entries_append (place : Place) :
    place.entries (parts ++ others) = place.entries parts ++ place.entries others := by
  cases place with
  | outside => rw [entries, List.map_append, Extract.entriesOf_append, entries, entries]
  | item => exact Extract.listed_append _ _
  | list => rw [entries, List.map_append, List.filterMap_append, entries, entries]

lemma Place.entries_nil (place : Place) : place.entries [] = [] := by
  cases place <;> rfl

/-- What is reached in two rows of nodes is reached in both together. -/
lemma Reaches.append (h : Reaches shortcut place found parts)
    (hmore : Reaches shortcut place more others) :
    Reaches shortcut place (found ++ more) (parts ++ others) := by
  rw [Reaches, kept_append, Place.entries_append, allEntries_append]
  exact List.rel_append h hmore

lemma Reaches.nil : Reaches shortcut place [] [] := by
  rw [Reaches, Place.entries_nil]
  exact .nil

/-- A list item whose entry is reached, with those below it. -/
lemma Reaches.cons {e : Entry} (h : ComesToEntry shortcut node e)
    (hchildren : Reaches shortcut .item found inner) (hinner : e.children = Extract.listed inner)
    (hentries : place.entries parts = [e]) :
    Reaches shortcut place ((node, true) :: found) parts := by
  have hall : allEntries (place.entries parts) = e :: allEntries (Extract.listed inner) := by
    rw [hentries, allEntries, allEntries, List.append_nil, Entry.all_eq, hinner]
  rw [Reaches, hall]
  exact .cons h hchildren

/-- The list items of an element whose entries are not reached. -/
lemma reaches_unmarked (h : place.entries parts = []) :
    Reaches shortcut place (nodes.map fun li => (li, false)) parts := by
  rw [Reaches, kept_unmarked, h]
  exact .nil

/-- Inside of an element that is looked into the items are those of the place there. -/
lemma itemsAt_of_inside {inner : Place} (h : place.inside (Role.ofName head.name) = some inner) :
    itemsAt place (.element head children)
      = (ownItem head children).map (fun li => (li, true)) ++ itemsAtAll inner children := by
  rw [itemsAt, h]

/-- Inside of an element that is not looked into no item is reached. -/
lemma itemsAt_of_not_inside (h : place.inside (Role.ofName head.name) = none) :
    itemsAt place (.element head children)
      = (items (.element head children)).map fun li => (li, false) := by
  rw [itemsAt, h]

/-- The element is no list item itself, and its part holds what the parts of its children hold. -/
lemma Reaches.element {innerPlace : Place}
    (h : Reaches shortcut innerPlace (itemsAtAll innerPlace children) inner)
    (hrole : Role.ofName head.name ≠ .item)
    (hinside : place.inside (Role.ofName head.name) = some innerPlace)
    (hentries : place.entries parts = innerPlace.entries inner) :
    Reaches shortcut place (itemsAt place (.element head children)) parts := by
  rw [itemsAt_of_inside hinside, ownItem_eq_nil hrole, Reaches, hentries]
  exact h

/-- An entry takes nothing from the element. -/
lemma reaches_of_not_inside (hinside : place.inside (Role.ofName head.name) = none)
    (hentries : place.entries parts = []) :
    Reaches shortcut place (itemsAt place (.element head children)) parts := by
  rw [itemsAt_of_not_inside hinside]
  exact reaches_unmarked hentries

/-- A list reaches what its items are. -/
lemma reaches_list (h : ∀ inside, Reaches shortcut inside (itemsAtAll inside children) inner)
    (hmarked : Extract.AreMarked inner) (hrole : Role.ofName head.name = .list) :
    Reaches shortcut place (itemsAt place (.element head children))
      [⟨.list (Extract.body shortcut (.element head children) inner), .element head children,
        true, false⟩] := by
  have hitem : Role.ofName head.name ≠ .item := by simp [hrole]
  cases place with
  | outside =>
    refine (h .outside).element hitem (by rw [hrole]; rfl) ?_
    rw [Place.entries, List.map_singleton, Extract.entriesOf_singleton, Item.entries,
      hmarked.entries_body, Place.entries]
  | item =>
    refine (h .list).element hitem (by rw [hrole]; rfl) ?_
    rw [Place.entries, Extract.listed_singleton, hmarked.listed_body, Place.entries]
  | list => exact reaches_of_not_inside (by rw [hrole]; rfl) rfl

/-- Another element reaches what its children do. -/
lemma reaches_other (h : ∀ inside, Reaches shortcut inside (itemsAtAll inside children) inner)
    (hmarked : Extract.AreMarked inner) (hrole : Role.ofName head.name = .other)
    {name : String} {attributes : List (String × String)} {holdsList isSimple : Bool} :
    Reaches shortcut place (itemsAt place (.element head children))
      [⟨.element name attributes (Extract.body shortcut (.element head children) inner),
        .element head children, holdsList, isSimple⟩] := by
  have hitem : Role.ofName head.name ≠ .item := by simp [hrole]
  cases place with
  | outside =>
    refine (h .outside).element hitem (by rw [hrole]; rfl) ?_
    rw [Place.entries, List.map_singleton, Extract.entriesOf_singleton, Item.entries,
      hmarked.entries_body, Place.entries]
  | item => exact reaches_of_not_inside (by rw [hrole]; rfl) rfl
  | list => exact reaches_of_not_inside (by rw [hrole]; rfl) rfl

/-- A list item with no content of its own, and so with none for an entry to take. -/
lemma reaches_emptyItem (h : Reaches shortcut .item (itemsAtAll .item children) [])
    (hrole : Role.ofName head.name = .item) (hflow : flowAll children = []) :
    Reaches shortcut place (itemsAt place (.element head children)) [] := by
  by_cases hplace : place = .item
  · rw [hplace]
    exact reaches_of_not_inside (by rw [hrole]; rfl) rfl
  · have hinside : place.inside (Role.ofName head.name) = some .item := by
      rw [hrole, Place.inside_item hplace]
    rw [itemsAt_of_inside hinside, ownItem_eq hrole, flow_item_of_nil hrole hflow]
    rw [Reaches, Place.entries_nil] at h ⊢
    exact h

/-- A list item is reached as its entry, and its lists below it. -/
lemma reaches_item (h : Reaches shortcut .item (itemsAtAll .item children) inner) {e : Entry}
    (hentry : ComesToEntry shortcut (.element head children) e)
    (hrole : Role.ofName head.name = .item) (hinner : e.children = Extract.listed inner)
    (hflow : flowAll children ≠ []) {holdsList isSimple : Bool} :
    Reaches shortcut place (itemsAt place (.element head children))
      [⟨.entry e, .element head children, holdsList, isSimple⟩] := by
  have hitems : ∀ {place : Place}, place ≠ .item → itemsAt place (.element head children)
      = (.element head children, true) :: itemsAtAll .item children := by
    intro place hplace
    rw [itemsAt_of_inside (by rw [hrole, Place.inside_item hplace]), ownItem_eq hrole,
      flow_item_of_ne_nil hrole hflow]
    rfl
  cases place with
  | outside =>
    rw [hitems Place.noConfusion]
    exact h.cons hentry hinner rfl
  | list =>
    rw [hitems Place.noConfusion]
    exact h.cons hentry hinner rfl
  -- a list item that stands in another one is part of its title
  | item => exact reaches_of_not_inside (by rw [hrole]; rfl) rfl

end

mutual

/-- The entries of a node are those of its list items that are reached. -/
lemma reaches_itemsAt {shortcut : Bool} (place : Place) {node : Html.Node} {parts : List Extract}
    (h : Extract.ofNode shortcut node = .ok parts) :
    Reaches shortcut place (itemsAt place node) parts := by
  cases node with
  | text s =>
    rw [Extract.ofNode] at h
    split at h <;> cases h
    · exact .nil
    · cases place <;> exact List.Forall₂.nil
  | comment s =>
    rw [Extract.ofNode] at h
    cases h
    exact .nil
  | fragment children =>
    rw [Extract.ofNode] at h
    exact reaches_itemsAtAll place h
  | element head children =>
    obtain ⟨inner, hchildren, hreads⟩ := Extract.reads_of_ofNode h
    have hmarked := Extract.areMarked_of_ofNodes hchildren
    have hflow := Extract.parts_of_ofNodes hchildren
    -- what is inside is asked for at another place than the element
    have ih := fun inside => reaches_itemsAtAll inside hchildren
    cases hreads with
    | paragraph hrole =>
      exact (ih place).element (by simp [hrole]) (by rw [hrole, Place.inside_paragraph]) rfl
    | list hrole => exact reaches_list ih hmarked hrole
    | other hrole => exact reaches_other ih hmarked hrole
    | emptyItem hrole hnil =>
      subst hnil
      exact reaches_emptyItem (ih .item) hrole (List.forall₂_nil_right_iff.1 hflow)
    | item hrole hne hentry =>
      have hcontent : flowAll children ≠ [] := by
        intro hnil
        rw [hnil, List.forall₂_nil_left_iff] at hflow
        exact hne hflow
      have hnested := Extract.children_of_entry hmarked hentry
      exact reaches_item (ih .item) ⟨_, h, rfl⟩ hrole hnested hcontent

/-- The entries of nodes are those of their list items that are reached. -/
lemma reaches_itemsAtAll {shortcut : Bool} (place : Place) {nodes : List Html.Node}
    {parts : List Extract} (h : Extract.ofNodes shortcut nodes = .ok parts) :
    Reaches shortcut place (itemsAtAll place nodes) parts := by
  cases nodes with
  | nil =>
    rw [Extract.ofNodes] at h
    cases h
    exact .nil
  | cons node rest =>
    obtain ⟨first, others, hfirst, hothers, rfl⟩ := Extract.exists_of_ofNodes_cons h
    exact (reaches_itemsAt place hfirst).append (reaches_itemsAtAll place hothers)

end

mutual

/-- Each of the list items comes to an entry, also those that are lost. -/
lemma exists_comesToEntry {shortcut : Bool} {node li : Html.Node} {parts : List Extract}
    (h : Extract.ofNode shortcut node = .ok parts) (hli : li ∈ items node) :
    ∃ e, ComesToEntry shortcut li e := by
  cases node with
  | text s => exact absurd hli List.not_mem_nil
  | comment s => exact absurd hli List.not_mem_nil
  | fragment children =>
    rw [Extract.ofNode] at h
    exact exists_comesToEntry_of_mem_itemsAll h hli
  | element head children =>
    obtain ⟨inner, hchildren, hreads⟩ := Extract.reads_of_ofNode h
    rw [items, List.mem_append] at hli
    obtain hown | hli := hli
    · -- no element but a list item is one itself
      cases hreads with
      | paragraph hrole | list hrole | other hrole =>
        rw [ownItem_eq_nil (by simp [hrole])] at hown
        exact absurd hown List.not_mem_nil
      | emptyItem hrole hnil =>
        have hflow := Extract.parts_of_ofNode h
        rw [List.forall₂_nil_right_iff] at hflow
        rw [ownItem_eq hrole, hflow] at hown
        exact absurd hown List.not_mem_nil
      | item hrole hne hentry =>
        rw [ownItem_eq hrole] at hown
        obtain rfl := eq_of_mem_flow_item hrole hown
        exact ⟨_, _, h, rfl⟩
    · exact exists_comesToEntry_of_mem_itemsAll hchildren hli

/-- Every list item comes to an entry of its own. -/
lemma exists_comesToEntry_of_mem_itemsAll {shortcut : Bool} {nodes : List Html.Node}
    {li : Html.Node} {parts : List Extract} (h : Extract.ofNodes shortcut nodes = .ok parts)
    (hli : li ∈ itemsAll nodes) : ∃ e, ComesToEntry shortcut li e := by
  cases nodes with
  | nil => exact absurd hli List.not_mem_nil
  | cons node rest =>
    obtain ⟨first, others, hfirst, hothers, -⟩ := Extract.exists_of_ofNodes_cons h
    rw [itemsAll, List.mem_append] at hli
    obtain hli | hli := hli
    · exact exists_comesToEntry hfirst hli
    · exact exists_comesToEntry_of_mem_itemsAll hothers hli

end

/-! ## Entries that can be reached -/

/-- A list item comes to an entry on its own. -/
def IsEntryOf (li : Html.Node) (e : Entry) : Prop := extract li = .ok (some (.entry e))

/-- What a list item comes to is the entry that is extracted from it alone. -/
lemma isEntryOf_of_comesToEntry {li : Html.Node} {e : Entry} (h : ComesToEntry true li e) :
    IsEntryOf li e := by
  obtain ⟨part, hpart, hentry⟩ := h
  rw [IsEntryOf, extract, hpart, ← hentry]
  rfl

/-- The outline of a page is the first of its parts. -/
lemma exists_of_extract {page : Html.Node} {found : Option Item} (h : extract page = .ok found) :
    ∃ parts, Extract.ofNode true page = .ok parts ∧ found = parts.head?.map Extract.item := by
  rw [extract] at h
  obtain ⟨parts, hparts, h⟩ := bind_eq_ok.1 h
  cases h
  exact ⟨parts, hparts, rfl⟩

/-- The outline of a page is the part of the first node in its flow. -/
lemma reaches_itemsOf {page : Html.Node} {parts : List Extract}
    (h : Extract.ofNode true page = .ok parts) :
    List.Forall₂ (ComesToEntry true) (kept (itemsOf page))
      ((parts.head?.map Extract.item).elim [] reachable) := by
  have hflow := Extract.parts_of_ofNode h
  rw [itemsOf]
  generalize flow page = nodes at hflow
  cases hflow with
  | nil => exact .nil
  | cons hfirst hrest =>
    have hreached := reaches_itemsAt .outside hfirst
    rw [Reaches, Place.entries, List.map_singleton, Extract.entriesOf_singleton] at hreached
    dsimp only
    rw [kept_append, kept_unmarked, List.append_nil]
    exact hreached

section

variable {found : List (Html.Node × Bool)}

/-- The items that are kept and those that are lost are all of them. -/
lemma kept_append_lost_perm (found : List (Html.Node × Bool)) :
    (kept found ++ lost found).Perm (found.map Prod.fst) := by
  rw [kept, lost, ← List.map_append]
  exact (List.filter_append_perm _ found).map Prod.fst

/-- All items are kept exactly if none is lost. -/
lemma kept_eq_map_fst_iff : kept found = found.map Prod.fst ↔ lost found = [] := by
  have hlength := (kept_append_lost_perm found).length_eq
  rw [List.length_append] at hlength
  constructor
  · intro h
    rw [h] at hlength
    exact List.eq_nil_of_length_eq_zero (by omega)
  · intro h
    have hsub : (kept found).Sublist (found.map Prod.fst) := List.filter_sublist.map _
    rw [h, List.length_nil, Nat.add_zero] at hlength
    exact hsub.eq_of_length hlength

end

/-- The entries that can be reached in the outline of a page are those of the list items that are
not lost, in document order. So all list items are reached exactly if none is lost. Each list item
has an entry, and the link target of an entry that is reached is among the breadcrumbs. -/
theorem reachable_extract {page : Html.Node} {found : Option Item}
    (h : extract page = .ok found) :
    List.Forall₂ IsEntryOf (kept (itemsOf page)) (found.elim [] reachable) ∧
      (kept (itemsOf page) ++ lost (itemsOf page)).Perm (items page) ∧
      (List.Forall₂ IsEntryOf (items page) (found.elim [] reachable) ↔ lost (itemsOf page) = []) ∧
      (∀ li ∈ items page, ∃ e, IsEntryOf li e) ∧
      ∀ e ∈ found.elim [] reachable, ∀ url, e.url = some url →
        url ∈ (found.elim [] breadcrumbs).map Prod.fst := by
  obtain ⟨parts, hparts, rfl⟩ := exists_of_extract h
  have hreached := (reaches_itemsOf hparts).imp fun _ _ => isEntryOf_of_comesToEntry
  have hall := kept_append_lost_perm (itemsOf page)
  rw [map_fst_itemsOf] at hall
  refine ⟨hreached, hall, ⟨fun h => ?_, fun hlost => ?_⟩, fun li hli => ?_, fun e he url hurl => ?_⟩
  · -- both lists are as long as the entries that are reached
    have hlength := hall.length_eq
    rw [List.length_append, hreached.length_eq, ← h.length_eq] at hlength
    exact List.eq_nil_of_length_eq_zero (by omega)
  · rw [← map_fst_itemsOf, ← kept_eq_map_fst_iff.2 hlost]
    exact hreached
  · obtain ⟨e, he⟩ := exists_comesToEntry hparts hli
    exact ⟨e, isEntryOf_of_comesToEntry he⟩
  · cases hfound : parts.head?.map Extract.item with
    | none =>
      rw [hfound] at he
      exact absurd he List.not_mem_nil
    | some outline =>
      rw [hfound] at he
      exact mem_keys_breadcrumbs.2 ⟨e, he, hurl⟩

/-- A list item with a link. -/
def linkItem (url title : String) : Html.Node :=
  .element { name := "li" }
    [.element { name := "a", attributes := [{ name := "href", value := url }] } [.text title]]

/-- A list of a single list item, which holds a list in turn. -/
def nestedList (title : String) (nested : List Html.Node) : Html.Node :=
  .element { name := "ul" } [.element { name := "li" }
    [.text title, .element { name := "ul" } nested]]

/-- All list items of a list in a list are reached. -/
theorem reachable_extract_nested :
    ∃ outline, extract (nestedList "A" [linkItem "b" "B", linkItem "c" "C"]) = .ok (some outline) ∧
      List.Forall₂ IsEntryOf (items (nestedList "A" [linkItem "b" "B", linkItem "c" "C"]))
        (reachable outline) := by
  have h : extract (nestedList "A" [linkItem "b" "B", linkItem "c" "C"]) = .ok (some _) := rfl
  exact ⟨_, h, (reachable_extract h).2.2.1.2 rfl⟩

/-- A list item in a container in a nested list has an entry, but it is not reached and its link
target is not among the breadcrumbs, and no error says so. -/
theorem item_in_container_is_lost :
    linkItem "b" "B" ∈ items (nestedList "A" [.element { name := "div" } [linkItem "b" "B"]]) ∧
      ∃ outline e,
        extract (nestedList "A" [.element { name := "div" } [linkItem "b" "B"]])
          = .ok (some outline) ∧
        IsEntryOf (linkItem "b" "B") e ∧ e.url = some "b" ∧ e ∉ reachable outline ∧
        "b" ∉ (breadcrumbs outline).map Prod.fst := by
  have hkeys : "b" ∉ (breadcrumbs (.list (.items [.entry
      (.mk "A" none [.text "A"] [])]))).map Prod.fst := List.not_mem_nil
  refine ⟨List.mem_cons_of_mem _ List.mem_cons_self, _, _, rfl, rfl, rfl, fun he => ?_, hkeys⟩
  exact hkeys (mem_keys_breadcrumbs.2 ⟨_, he, rfl⟩)

end Outline
end Bindery
