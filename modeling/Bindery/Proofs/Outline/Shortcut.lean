import Bindery.Proofs.Outline.Breadcrumbs
import Bindery.Proofs.Outline.Simulation

/-!
# Markup that is kept as it was written

An element that holds neither lists nor links keeps its markup, and its children are not read. Were
they read, the outline would be the same but for what such elements hold (`Opens`), and nothing
would be found in them: entries, breadcrumbs and errors are those of an outline in which no markup
is kept (`extract_structured`).
-/

namespace Bindery
namespace Outline

/-! ## Nodes with their markup opened -/

mutual

/-- The second node is the first with the markup read that is kept in it. -/
inductive Opens : Item → Item → Prop where
  | text (s : String) : Opens (.text s) (.text s)
  | list {body other : Body} (h : BodyOpens body other) : Opens (.list body) (.list other)
  | element (name : String) (attributes : List (String × String)) {body other : Body}
      (h : BodyOpens body other) :
      Opens (.element name attributes body) (.element name attributes other)
  | entry {e other : Entry} (h : EntryOpens e other) : Opens (.entry e) (.entry other)

/-- What an element holds is the same, or it is kept as markup and there are no entries in it. -/
inductive BodyOpens : Body → Body → Prop where
  | html (s : String) {items : List Item} (h : entriesOf items = []) :
      BodyOpens (.html s) (.items items)
  | items {items others : List Item} (h : List.Forall₂ Opens items others) :
      BodyOpens (.items items) (.items others)

/-- Two entries are the same up to the nodes of their titles. -/
inductive EntryOpens : Entry → Entry → Prop where
  | mk (titleText : String) (url : Option String) {title otherTitle : List Item}
      {children otherChildren : List Entry} (htitle : List.Forall₂ Opens title otherTitle)
      (hchildren : List.Forall₂ EntryOpens children otherChildren) :
      EntryOpens (.mk titleText url title children) (.mk titleText url otherTitle otherChildren)

end

/-! ## Entries without the nodes of their titles -/

/-- An entry without the nodes of its title. -/
inductive Branch where
  | mk (titleText : String) (url : Option String) (children : List Branch)

mutual

/-- The branch that an entry is. -/
def Entry.branch : Entry → Branch
  | .mk titleText url _ children => .mk titleText url (branchesOf children)

/-- The branches that some entries are. -/
def branchesOf : List Entry → List Branch
  | [] => []
  | e :: rest => e.branch :: branchesOf rest

end

/-- The branches of an outline. -/
def branches (outline : Item) : List Branch := branchesOf outline.entries

mutual

/-- Opening the markup of an entry keeps what it says and what is below it. -/
lemma EntryOpens.branch_eq {e other : Entry} (h : EntryOpens e other) :
    e.branch = other.branch := by
  cases h with
  | mk titleText url htitle hchildren =>
    rw [Entry.branch, Entry.branch, branchesOf_eq hchildren]

/-- Opening the markup of entries keeps what they say. -/
lemma branchesOf_eq {entries others : List Entry} (h : List.Forall₂ EntryOpens entries others) :
    branchesOf entries = branchesOf others := by
  cases h with
  | nil => rfl
  | cons he hrest => rw [branchesOf, branchesOf, he.branch_eq, branchesOf_eq hrest]

end

mutual

/-- An entry with its markup opened adds the same breadcrumbs. -/
lemma EntryOpens.addEntry_eq {e other : Entry} (h : EntryOpens e other) (path : List Crumb)
    (found : Breadcrumbs) : addEntry path found e = addEntry path found other := by
  cases h with
  | mk titleText url htitle hchildren =>
    cases url with
    | none =>
      rw [addEntry, addEntry]
      exact addEntries_eq hchildren _ _
    | some url =>
      rw [addEntry, addEntry]
      exact addEntries_eq hchildren _ _

/-- Entries with their markup opened add the same breadcrumbs. -/
lemma addEntries_eq {entries others : List Entry} (h : List.Forall₂ EntryOpens entries others)
    (path : List Crumb) (found : Breadcrumbs) :
    addEntries path found entries = addEntries path found others := by
  cases h with
  | nil => rfl
  | cons he hrest => rw [addEntries, addEntries, he.addEntry_eq, addEntries_eq hrest]

end

/-! ## Entries of nodes that are opened -/

mutual

/-- An item with its markup opened has the same entries. -/
lemma Opens.entries {item other : Item} (h : Opens item other) :
    List.Forall₂ EntryOpens item.entries other.entries := by
  cases h with
  | text s => exact .nil
  | list h => exact h.entries
  | element name attributes h => exact h.entries
  | entry h => exact .cons h .nil

/-- Opening the body of an item keeps the entries. -/
lemma BodyOpens.entries {body other : Body} (h : BodyOpens body other) :
    List.Forall₂ EntryOpens body.entries other.entries := by
  cases h with
  | html s h =>
    rw [Body.entries, Body.entries, h]
    exact .nil
  | items h => exact forall₂_entriesOf h

/-- Items with their markup opened have the same entries. -/
lemma forall₂_entriesOf {items others : List Item} (h : List.Forall₂ Opens items others) :
    List.Forall₂ EntryOpens (entriesOf items) (entriesOf others) := by
  cases h with
  | nil => exact .nil
  | cons hitem hrest => exact List.rel_append hitem.entries (forall₂_entriesOf hrest)

end

lemma Opens.branches_eq {item other : Item} (h : Opens item other) :
    branches item = branches other :=
  branchesOf_eq h.entries

lemma Opens.breadcrumbs_eq {item other : Item} (h : Opens item other) :
    breadcrumbs item = breadcrumbs other :=
  addEntries_eq h.entries _ _

/-- Opening the markup makes no list. -/
lemma Opens.isList_iff {item other : Item} (h : Opens item other) :
    (∃ body, item = .list body) ↔ ∃ body, other = .list body := by
  cases h with
  | list h => exact iff_of_true ⟨_, rfl⟩ ⟨_, rfl⟩
  | text s => exact iff_of_false nofun nofun
  | element name attributes h => exact iff_of_false nofun nofun
  | entry h => exact iff_of_false nofun nofun

lemma Opens.entry? {item other : Item} (h : Opens item other) :
    Option.Rel EntryOpens item.entry? other.entry? := by
  cases h with
  | text s => exact .none
  | list h => exact .none
  | element name attributes h => exact .none
  | entry h => exact .some h

/-- A list that is kept as markup has no entries in it that could be taken. -/
lemma Opens.listed {item other : Item} (h : Opens item other) :
    List.Forall₂ EntryOpens item.listed other.listed := by
  cases h with
  | text s => exact .nil
  | element name attributes h => exact .nil
  | entry h => exact .nil
  | list h =>
    cases h with
    | html s h =>
      rw [Item.listed, Item.listed, filterMap_entry?_eq_nil h]
      exact .nil
    | items h => exact List.rel_filterMap (fun _ _ h => h.entry?) h

namespace Extract

/-! ## Parts that are opened -/

/-- A part is the same with its markup opened. -/
structure PartOpens (part other : Extract) : Prop where
  item : Opens part.item other.item
  source : part.source = other.source
  holdsList : part.holdsList = other.holdsList
  isSimple : part.isSimple = other.isSimple

section

variable {parts others : List Extract}

lemma forall₂_opens_map (h : List.Forall₂ PartOpens parts others) :
    List.Forall₂ Opens (parts.map Extract.item) (others.map Extract.item) :=
  forall₂_map_item (fun _ _ hpart => hpart.item) h

lemma tag_eq {part other : Extract} (h : PartOpens part other) : part.tag = other.tag := by
  rw [tag, tag, h.source]

/-- Opened markup is kept by everything that is made of parts. -/
lemma simulation_partOpens : Simulation PartOpens EntryOpens Eq where
  holdsList h := h.holdsList
  isSimple h := h.isSimple
  isList_iff h := h.item.isList_iff
  listed h := h.item.listed
  content h := by rw [h.source]
  first? h test := by rw [h.source]
  entry htitle hchildren titleText url := .mk titleText url (forall₂_opens_map htitle) hchildren
  error h title := by rw [tag_eq h, h.source]

/-- What is kept as markup holds no entries, so there is nothing to miss in it. -/
lemma bodyOpens_body (h : List.Forall₂ PartOpens parts others) (hmarked : AreMarked others)
    (node : Html.Node) : BodyOpens (body true node parts) (body false node others) := by
  rw [body, body, Bool.true_and, Bool.false_and, simulation_partOpens.all_isSimple_eq h]
  split
  · rename_i hsimple
    exact .html node.inner (hmarked.entriesOf_eq_nil hsimple)
  · exact .items (forall₂_opens_map h)

end

mutual

/-- A node comes to the same parts with the markup opened that is kept in them. -/
lemma corresponds_ofNode (node : Html.Node) :
    Corresponds Eq (List.Forall₂ PartOpens) (ofNode true node) (ofNode false node) := by
  cases node with
  | text s =>
    rw [ofNode, ofNode]
    split
    · exact .ok .nil
    · exact .ok (.cons ⟨.text s, rfl, rfl, rfl⟩ .nil)
  | comment s =>
    rw [ofNode, ofNode]
    exact .ok .nil
  | fragment children =>
    rw [ofNode, ofNode]
    exact corresponds_ofNodes children
  | element head children =>
    rw [ofNode, ofNode]
    refine (corresponds_ofNodes children).bind fun parts others _ hothers h => ?_
    have hbody := bodyOpens_body h (areMarked_of_ofNodes hothers) (.element head children)
    exact simulation_partOpens.ofElement h head ⟨.list hbody, rfl, rfl, rfl⟩
      (fun _ _ _ _ => ⟨.element _ _ hbody, rfl, rfl, rfl⟩)
      (fun _ _ _ he => ⟨.entry he, rfl, rfl, rfl⟩)

/-- Nodes come to the same with and without the shortcut, up to opened markup. -/
lemma corresponds_ofNodes (nodes : List Html.Node) :
    Corresponds Eq (List.Forall₂ PartOpens) (ofNodes true nodes) (ofNodes false nodes) := by
  cases nodes with
  | nil =>
    rw [ofNodes, ofNodes]
    exact .ok .nil
  | cons node rest =>
    rw [ofNodes, ofNodes]
    refine (corresponds_ofNode node).bind fun first others _ _ hfirst => ?_
    refine (corresponds_ofNodes rest).bind fun more otherMore _ _ hmore => ?_
    exact .ok (List.rel_append hfirst hmore)

end

end Extract

/-- A page is extracted to the same with and without the shortcut, up to opened markup. -/
lemma parallel_extract (page : Html.Node) :
    Parallel (Option.Rel Opens) (extract page) (extractStructured page) := by
  refine ((Extract.corresponds_ofNode page).bind fun parts others _ _ h => ?_).parallel
  cases h with
  | nil => exact .ok .none
  | cons hpart hrest => exact .ok (.some hpart.item)

/-- What is the same for opened items is the same for what was found. -/
lemma map_eq_of_rel_opens {α : Type} {f : Item → α}
    (hf : ∀ item other, Opens item other → f item = f other) {found other : Option Item}
    (h : Option.Rel Opens found other) : found.map f = other.map f := by
  cases h with
  | none => rfl
  | some h => exact congrArg some (hf _ _ h)

/-- Keeping markup as it was written changes nothing but what the nodes of the outline hold. With it
and without it there is the same error, or there are outlines that are the same up to the markup,
with the same entries, at any depth, and the same breadcrumbs. -/
theorem extract_structured (page : Html.Node) :
    Parallel (Option.Rel Opens) (extract page) (extractStructured page) ∧
      (extract page).map (Option.map branches)
        = (extractStructured page).map (Option.map branches) ∧
      (extract page).map (Option.map breadcrumbs)
        = (extractStructured page).map (Option.map breadcrumbs) := by
  have h := parallel_extract page
  refine ⟨h, h.map_eq fun found other hrel => ?_, h.map_eq fun found other hrel => ?_⟩
  · exact map_eq_of_rel_opens (fun _ _ hopens => hopens.branches_eq) hrel
  · exact map_eq_of_rel_opens (fun _ _ hopens => hopens.breadcrumbs_eq) hrel

/-- What an element holds is kept as markup or read, and it is the same page. -/
example :
    extract (.element { name := "em" } [.text "a"]) = .ok (some (.element "em" [] (.html "a"))) ∧
      extractStructured (.element { name := "em" } [.text "a"])
        = .ok (some (.element "em" [] (.items [.text "a"]))) :=
  ⟨rfl, rfl⟩

end Outline
end Bindery
