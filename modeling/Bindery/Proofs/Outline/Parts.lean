import Bindery.Outline
import Bindery.Proofs.Outcome
import Mathlib.Data.List.Forall2
import Mathlib.Data.List.TakeWhile

/-!
# The parts of a page

A node of a page comes to parts: an element mostly to one, a paragraph to the parts of its children,
and comments and blank texts to none. The nodes that come to one part each are the flow of a node
(`flow`), and what a node comes to is read off its flow, one part for each node in it. What holds of
the parts of texts, and passes from the parts of its children to that of an element, holds of all
parts (`HoldsOfParts.of_ofNode`).
-/

namespace Bindery
namespace Outline

/-- What an element is to an outline. -/
inductive Role where
  | paragraph
  | list
  | item
  | other
deriving DecidableEq, Repr

/-- The role of the elements of a name. -/
def Role.ofName (name : String) : Role :=
  if name = "p" then .paragraph
  else if name = "ul" ∨ name = "ol" then .list
  else if name = "li" then .item
  else .other

/-- The names of the elements of each role. -/
lemma Role.ofName_eq (name : String) :
    (Role.ofName name = .paragraph → name = "p") ∧
    (Role.ofName name = .list → name = "ul" ∨ name = "ol") ∧
    (Role.ofName name = .item → name = "li") ∧
    (Role.ofName name = .other → name ≠ "p" ∧ name ≠ "ul" ∧ name ≠ "ol" ∧ name ≠ "li") := by
  grind [Role.ofName]

/-- Two lists that go together are cut in the same place by tests that agree. -/
lemma forall₂_cut {α β : Type} {R : α → β → Prop} {p : α → Bool} {q : β → Bool} {l : List α}
    {m : List β} (hpq : ∀ a b, R a b → p a = q b) (h : List.Forall₂ R l m) :
    List.Forall₂ R (l.takeWhile p) (m.takeWhile q) ∧
      List.Forall₂ R (l.dropWhile p) (m.dropWhile q) := by
  induction h with
  | nil => exact ⟨.nil, .nil⟩
  | @cons a b _ _ hab hrest ih =>
    rw [List.takeWhile_cons, List.takeWhile_cons, List.dropWhile_cons, List.dropWhile_cons,
      hpq a b hab]
    cases q b with
    | true => exact ⟨.cons hab ih.1, ih.2⟩
    | false => exact ⟨.nil, .cons hab hrest⟩

mutual

/-- The nodes that a node comes to: itself, or those of its children if it is a paragraph or a
nameless container. Comments, blank texts and list items without content come to none. -/
def flow : Html.Node → List Html.Node
  | .text s => if Text.isBlankText s then [] else [.text s]
  | .comment _ => []
  | .fragment children => flowAll children
  | .element head children =>
    match Role.ofName head.name with
    | .paragraph => flowAll children
    | .item => if (flowAll children).isEmpty then [] else [.element head children]
    | .list | .other => [.element head children]

/-- The nodes that some nodes come to. -/
def flowAll : List Html.Node → List Html.Node
  | [] => []
  | node :: rest => flow node ++ flowAll rest

end

section

variable {head : Html.Element} {children : List Html.Node}

/-- What an element comes to, by its role. -/
lemma flow_element (head : Html.Element) (children : List Html.Node) :
    (Role.ofName head.name = .paragraph → flow (.element head children) = flowAll children) ∧
    (Role.ofName head.name = .item → flow (.element head children)
      = if (flowAll children).isEmpty then [] else [.element head children]) ∧
    (Role.ofName head.name = .list ∨ Role.ofName head.name = .other →
      flow (.element head children) = [.element head children]) := by
  rw [flow]
  refine ⟨fun h => ?_, fun h => ?_, fun h => ?_⟩
  · rw [h]
  · rw [h]
  · rcases h with h | h <;> rw [h]

lemma flow_paragraph (h : Role.ofName head.name = .paragraph) :
    flow (.element head children) = flowAll children := (flow_element head children).1 h

lemma flow_list (h : Role.ofName head.name = .list) :
    flow (.element head children) = [.element head children] :=
  (flow_element head children).2.2 (.inl h)

lemma flow_other (h : Role.ofName head.name = .other) :
    flow (.element head children) = [.element head children] :=
  (flow_element head children).2.2 (.inr h)

/-- A list item without content contributes nothing. -/
lemma flow_item_of_nil (h : Role.ofName head.name = .item) (hchildren : flowAll children = []) :
    flow (.element head children) = [] := by
  rw [(flow_element head children).2.1 h, hchildren]
  rfl

/-- A list item with content contributes itself. -/
lemma flow_item_of_ne_nil (h : Role.ofName head.name = .item) (hchildren : flowAll children ≠ []) :
    flow (.element head children) = [.element head children] := by
  rw [(flow_element head children).2.1 h, List.isEmpty_eq_false_iff.2 hchildren]
  rfl

end

namespace Extract

variable {shortcut : Bool} {node : Html.Node} {head : Html.Element} {parts : List Extract}

/-! ## Elements by their role -/

/-- A paragraph comes to the parts of its children. -/
lemma ofElement_paragraph (h : Role.ofName head.name = .paragraph) :
    ofElement shortcut node head parts = .ok parts := by
  have hname := (Role.ofName_eq head.name).1 h
  obtain ⟨name, attributes⟩ := head
  cases hname
  rfl

/-- A list comes to one part. -/
lemma ofElement_list (h : Role.ofName head.name = .list) :
    ofElement shortcut node head parts
      = .ok [⟨.list (body shortcut node parts), node, true, false⟩] := by
  have hname := (Role.ofName_eq head.name).2.1 h
  obtain ⟨name, attributes⟩ := head
  rcases hname with hname | hname
  · cases hname
    rfl
  · cases hname
    rfl

/-- A list item comes to its entry, or to nothing if it is empty. -/
lemma ofElement_item (h : Role.ofName head.name = .item) :
    ofElement shortcut node head parts = if parts.isEmpty then .ok [] else
      entry parts >>= fun e => .ok [⟨.entry e, node, parts.any holdsList, false⟩] := by
  have hname := (Role.ofName_eq head.name).2.2.1 h
  obtain ⟨name, attributes⟩ := head
  cases hname
  rfl

/-- Any other element comes to one part. -/
lemma ofElement_other (h : Role.ofName head.name = .other) :
    ofElement shortcut node head parts
      = .ok [⟨.element head.name (head.attributes.map fun a => (a.name, a.value))
          (body shortcut node parts), node, parts.any holdsList,
          parts.all isSimple && head.name != "a"⟩] := by
  obtain ⟨hp, hul, hol, hli⟩ := (Role.ofName_eq head.name).2.2.2 h
  unfold ofElement
  dsimp only
  split
  · exact absurd ‹_› hp
  · exact absurd ‹_› hul
  · exact absurd ‹_› hol
  · exact absurd ‹_› hli
  · rfl

/-- What an element comes to, by its role. -/
inductive Reads (shortcut : Bool) (head : Html.Element) (children : List Html.Node)
    (inner : List Extract) : List Extract → Prop where
  | paragraph (hrole : Role.ofName head.name = .paragraph) :
      Reads shortcut head children inner inner
  | list (hrole : Role.ofName head.name = .list) :
      Reads shortcut head children inner
        [⟨.list (body shortcut (.element head children) inner), .element head children, true,
          false⟩]
  | emptyItem (hrole : Role.ofName head.name = .item) (hinner : inner = []) :
      Reads shortcut head children inner []
  | item (hrole : Role.ofName head.name = .item) (hinner : inner ≠ []) {e : Entry}
      (hentry : entry inner = .ok e) :
      Reads shortcut head children inner
        [⟨.entry e, .element head children, inner.any holdsList, false⟩]
  | other (hrole : Role.ofName head.name = .other) :
      Reads shortcut head children inner
        [⟨.element head.name (head.attributes.map fun a => (a.name, a.value))
          (body shortcut (.element head children) inner), .element head children,
          inner.any holdsList, inner.all isSimple && head.name != "a"⟩]

/-- An element is read from the parts of its children, by its role. -/
lemma reads_of_ofNode {children : List Html.Node}
    (h : ofNode shortcut (.element head children) = .ok parts) :
    ∃ inner, ofNodes shortcut children = .ok inner ∧ Reads shortcut head children inner parts := by
  rw [ofNode] at h
  obtain ⟨inner, hinner, h⟩ := bind_eq_ok.1 h
  refine ⟨inner, hinner, ?_⟩
  cases hrole : Role.ofName head.name with
  | paragraph =>
    rw [ofElement_paragraph hrole] at h
    cases h
    exact .paragraph hrole
  | list =>
    rw [ofElement_list hrole] at h
    cases h
    exact .list hrole
  | other =>
    rw [ofElement_other hrole] at h
    cases h
    exact .other hrole
  | item =>
    rw [ofElement_item hrole] at h
    split at h
    · rename_i hempty
      cases h
      exact .emptyItem hrole (List.isEmpty_iff.1 hempty)
    · rename_i hne
      obtain ⟨e, hentry, h⟩ := bind_eq_ok.1 h
      cases h
      exact .item hrole (fun hnil => hne (List.isEmpty_iff.2 hnil)) hentry

/-- Nodes come to their parts one after the other. -/
lemma exists_of_ofNodes_cons {rest : List Html.Node}
    (h : ofNodes shortcut (node :: rest) = .ok parts) :
    ∃ first others, ofNode shortcut node = .ok first ∧ ofNodes shortcut rest = .ok others ∧
      parts = first ++ others := by
  rw [ofNodes] at h
  obtain ⟨first, hfirst, h⟩ := bind_eq_ok.1 h
  obtain ⟨others, hothers, h⟩ := bind_eq_ok.1 h
  cases h
  exact ⟨first, others, hfirst, hothers, rfl⟩

/-! ## One part for each node of the flow -/

/-- What holds of the part of each text that is not blank, and of each other part if it holds of
what the children of its element come to. -/
structure HoldsOfParts (shortcut : Bool) (R : Html.Node → Extract → Prop) : Prop where
  text : ∀ s, Text.isBlankText s = false → R (.text s) ⟨.text s, .text s, false, true⟩
  element : ∀ {head children inner part}, ofNode shortcut (.element head children) = .ok [part] →
    List.Forall₂ R (flowAll children) inner → Role.ofName head.name ≠ .paragraph →
    Reads shortcut head children inner [part] → R (.element head children) part

section

variable {R : Html.Node → Extract → Prop}

mutual

/-- There is a part for each node of the flow, and what holds of parts holds of these. -/
lemma HoldsOfParts.of_ofNode (hR : HoldsOfParts shortcut R) {node : Html.Node}
    {parts : List Extract} (h : ofNode shortcut node = .ok parts) :
    List.Forall₂ R (flow node) parts := by
  cases node with
  | text s =>
    rw [ofNode] at h
    rw [flow]
    split at h <;> cases h
    · rw [if_pos ‹_›]
      exact .nil
    · rw [if_neg ‹_›]
      exact .cons (hR.text s (Bool.eq_false_iff.2 ‹_›)) .nil
  | comment s =>
    rw [ofNode] at h
    cases h
    exact .nil
  | fragment children =>
    rw [ofNode] at h
    rw [flow]
    exact hR.of_ofNodes h
  | element head children =>
    obtain ⟨inner, hchildren, hreads⟩ := reads_of_ofNode h
    have hinner := hR.of_ofNodes hchildren
    cases hreads with
    | paragraph hrole =>
      rw [flow_paragraph hrole]
      exact hinner
    | list hrole =>
      rw [flow_list hrole]
      exact .cons (hR.element h hinner (by simp [hrole]) (.list hrole)) .nil
    | other hrole =>
      rw [flow_other hrole]
      exact .cons (hR.element h hinner (by simp [hrole]) (.other hrole)) .nil
    | emptyItem hrole hnil =>
      rw [hnil, List.forall₂_nil_right_iff] at hinner
      rw [flow_item_of_nil hrole hinner]
      exact .nil
    | item hrole hne hentry =>
      have hflow : flowAll children ≠ [] := by
        intro hnil
        rw [hnil, List.forall₂_nil_left_iff] at hinner
        exact hne hinner
      rw [flow_item_of_ne_nil hrole hflow]
      exact .cons (hR.element h hinner (by simp [hrole]) (.item hrole hne hentry)) .nil

/-- What holds of each part holds along the flow of the nodes. -/
lemma HoldsOfParts.of_ofNodes (hR : HoldsOfParts shortcut R) {nodes : List Html.Node}
    {parts : List Extract} (h : ofNodes shortcut nodes = .ok parts) :
    List.Forall₂ R (flowAll nodes) parts := by
  cases nodes with
  | nil =>
    rw [ofNodes] at h
    cases h
    exact .nil
  | cons node rest =>
    obtain ⟨first, others, hfirst, hothers, rfl⟩ := exists_of_ofNodes_cons h
    exact List.rel_append (hR.of_ofNode hfirst) (hR.of_ofNodes hothers)

end

end

/-- A node comes to a single part. -/
def IsPartOf (shortcut : Bool) (node : Html.Node) (part : Extract) : Prop :=
  ofNode shortcut node = .ok [part]

lemma holdsOfParts_isPartOf : HoldsOfParts shortcut (IsPartOf shortcut) where
  text s hs := by rw [IsPartOf, ofNode, hs, if_neg (by decide)]
  element h _ _ _ := h

/-- A node has one part for each node of its flow. -/
lemma parts_of_ofNode {node : Html.Node} {parts : List Extract}
    (h : ofNode shortcut node = .ok parts) :
    List.Forall₂ (IsPartOf shortcut) (flow node) parts :=
  holdsOfParts_isPartOf.of_ofNode h

lemma parts_of_ofNodes {nodes : List Html.Node} {parts : List Extract}
    (h : ofNodes shortcut nodes = .ok parts) :
    List.Forall₂ (IsPartOf shortcut) (flowAll nodes) parts :=
  holdsOfParts_isPartOf.of_ofNodes h

/-! ## Markup that is kept -/

/-- What the marks of a part say of it. -/
structure IsMarked (part : Extract) : Prop where
  entries_eq_nil : part.isSimple = true → part.item.entries = []
  holdsList_eq_true : ∀ body, part.item = .list body → part.holdsList = true

/-- Parts of which each is what its marks say. -/
def AreMarked (parts : List Extract) : Prop := ∀ part ∈ parts, IsMarked part

lemma entriesOf_append (items others : List Item) :
    entriesOf (items ++ others) = entriesOf items ++ entriesOf others := by
  induction items with
  | nil => rfl
  | cons item items ih => rw [List.cons_append, entriesOf, ih, entriesOf, List.append_assoc]

lemma entriesOf_singleton (item : Item) : entriesOf [item] = item.entries := by
  rw [entriesOf, entriesOf, List.append_nil]

/-- Simple parts hold no entry. -/
lemma AreMarked.entriesOf_eq_nil (h : AreMarked parts) (hsimple : parts.all isSimple = true) :
    entriesOf (parts.map item) = [] := by
  induction parts with
  | nil => rfl
  | cons part parts ih =>
    rw [List.all_cons, Bool.and_eq_true] at hsimple
    rw [List.map_cons, entriesOf, (h part List.mem_cons_self).entries_eq_nil hsimple.1,
      ih (fun part hpart => h part (List.mem_cons_of_mem _ hpart)) hsimple.2]
    rfl

/-- Markup is only kept where there are no entries. -/
lemma AreMarked.entries_body (h : AreMarked parts) :
    (body shortcut node parts).entries = entriesOf (parts.map item) := by
  rw [body]
  split
  · rename_i hsimple
    rw [Bool.and_eq_true] at hsimple
    rw [h.entriesOf_eq_nil hsimple.2]
    rfl
  · rfl

lemma areMarked_of_forall₂ {nodes : List Html.Node}
    (h : List.Forall₂ (fun _ part => IsMarked part) nodes parts) : AreMarked parts := by
  induction h with
  | nil => exact fun part hpart => absurd hpart List.not_mem_nil
  | cons hpart _ ih => exact List.forall_mem_cons.2 ⟨hpart, ih⟩

/-- Every part is what its marks say. -/
lemma holdsOfParts_isMarked : HoldsOfParts shortcut fun _ part => IsMarked part where
  text s _ := ⟨fun _ => rfl, nofun⟩
  element _ hinner hparagraph hreads := by
    cases hreads with
    | paragraph hrole => exact absurd hrole hparagraph
    | list hrole => exact ⟨nofun, fun _ _ => rfl⟩
    | item hrole hne hentry => exact ⟨nofun, nofun⟩
    | other hrole =>
      -- what is made of simple parts only has no entries either
      have hmarked := areMarked_of_forall₂ hinner
      refine ⟨fun hsimple => ?_, nofun⟩
      rw [Bool.and_eq_true] at hsimple
      rw [Item.entries, hmarked.entries_body, hmarked.entriesOf_eq_nil hsimple.1]

/-- The parts of nodes are what their marks say. -/
lemma areMarked_of_ofNodes {nodes : List Html.Node} {parts : List Extract}
    (h : ofNodes shortcut nodes = .ok parts) : AreMarked parts :=
  areMarked_of_forall₂ (holdsOfParts_isMarked.of_ofNodes h)

end Extract

/-! ## The entries of a list item -/

/-- The entry that a node of an outline is. -/
def Item.entry? : Item → Option Entry
  | .entry e => some e
  | .text _ | .list _ | .element _ _ _ => none

/-- The entries that stand in a list itself. -/
def Item.listed : Item → List Entry
  | .list (.items items) => items.filterMap Item.entry?
  | .list (.html _) | .text _ | .element _ _ _ | .entry _ => []

/-- Items that hold no entry are no entries themselves. -/
lemma filterMap_entry?_eq_nil {items : List Item} (h : entriesOf items = []) :
    items.filterMap Item.entry? = [] := by
  induction items with
  | nil => rfl
  | cons item items ih =>
    rw [entriesOf, List.append_eq_nil_iff] at h
    cases item with
    | entry e =>
      rw [Item.entries] at h
      exact absurd h.1 (List.cons_ne_nil _ _)
    | text s => exact ih h.2
    | list body => exact ih h.2
    | element name attributes body => exact ih h.2

namespace Extract

/-- The entries in the lists among some parts. -/
def listed (parts : List Extract) : List Entry := parts.flatMap fun part => part.item.listed

/-- A list that is kept as markup has no entries to take. -/
lemma AreMarked.listed_body {shortcut : Bool} {node : Html.Node} {parts : List Extract}
    (h : AreMarked parts) :
    (Item.list (body shortcut node parts)).listed = (parts.map item).filterMap Item.entry? := by
  rw [body]
  split
  · rename_i hsimple
    rw [Bool.and_eq_true] at hsimple
    rw [Item.listed, filterMap_entry?_eq_nil (h.entriesOf_eq_nil hsimple.2)]
  · rfl

lemma listed_singleton (part : Extract) : listed [part] = part.item.listed :=
  List.flatMap_singleton ..

lemma listed_append (parts others : List Extract) :
    listed (parts ++ others) = listed parts ++ listed others := List.flatMap_append

section

variable {title : String} {part : Extract} {parts : List Extract}

/-- A list behind a title is read for the entries in it. -/
lemma nested_cons_list {body : Body} (h : part.item = .list body) :
    nested title (part :: parts) = (nested title parts).map (part.item.listed ++ ·) := by
  rw [nested, h]
  cases body with
  | html s => cases nested title parts <;> rfl
  | items items =>
    cases nested title parts with
    | error e => rfl
    | ok entries =>
      refine congrArg (fun found => Except.ok (found ++ entries)) ?_
      exact List.filterMap_congr fun item _ => by cases item <;> rfl

/-- Nothing but lists is read behind a title. -/
lemma nested_cons_other (h : ∀ body, part.item ≠ .list body) :
    nested title (part :: parts) = .error ⟨part.tag, title, part.source.outer⟩ := by
  rw [nested]
  split
  · exact absurd ‹_› (h _)
  · exact absurd ‹_› (h _)
  · rfl

end

/-- Behind a title there are only lists, and each is read for the entries in it. -/
lemma nested_eq {title : String} {parts : List Extract} {entries : List Entry}
    (h : nested title parts = .ok entries) : entries = listed parts := by
  induction parts generalizing entries with
  | nil =>
    rw [nested] at h
    cases h
    rfl
  | cons part parts ih =>
    by_cases hlist : ∃ body, part.item = .list body
    · obtain ⟨body, hbody⟩ := hlist
      rw [nested_cons_list hbody] at h
      obtain ⟨others, hothers, rfl⟩ := map_eq_ok.1 h
      rw [listed, List.flatMap_cons, ih hothers]
      rfl
    · rw [nested_cons_other (not_exists.1 hlist)] at h
      cases h

/-- The children of an entry are the entries in the lists among its parts. -/
lemma children_of_entry {parts : List Extract} {e : Entry} (hmarked : AreMarked parts)
    (h : entry parts = .ok e) : e.children = listed parts := by
  -- a list is marked as one, so there is none in the title
  have htitle : listed (parts.takeWhile fun part => !part.holdsList) = [] := by
    refine List.flatMap_eq_nil_iff.2 fun part hpart => ?_
    have hlist := List.mem_takeWhile_imp hpart
    have hread := hmarked part (List.takeWhile_subset _ hpart)
    obtain ⟨item, source, holdsList, isSimple⟩ := part
    cases item with
    | list body =>
      have hmark : holdsList = true := hread.holdsList_eq_true body rfl
      simp [hmark] at hlist
    | text s => rfl
    | element name attributes body => rfl
    | entry e => rfl
  rw [entry] at h
  obtain ⟨children, hchildren, h⟩ := bind_eq_ok.1 h
  cases h
  calc children = listed (parts.dropWhile fun part => !part.holdsList) := nested_eq hchildren
    _ = listed (parts.takeWhile fun part => !part.holdsList)
          ++ listed (parts.dropWhile fun part => !part.holdsList) := by
      rw [htitle, List.nil_append]
    _ = listed parts := by rw [← listed_append, List.takeWhile_append_dropWhile]

end Extract

end Outline
end Bindery
