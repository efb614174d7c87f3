import Bindery.Proofs.Outline.Parts

/-!
# Outlines side by side

What an outline makes of some parts depends on little: which of them are simple, are lists or have
lists in them, the entries in the lists, and the text and the first link of the title. Where two
pages come to parts that go together in this (`Simulation`), their list items come to entries that
go together, and an error of one is an error of the other.
-/

namespace Bindery
namespace Outline
namespace Extract

/-- Related parts have related items. -/
lemma forall₂_map_item {R : Extract → Extract → Prop} {I : Item → Item → Prop}
    {parts others : List Extract} (hitem : ∀ part other, R part other → I part.item other.item)
    (h : List.Forall₂ R parts others) :
    List.Forall₂ I (parts.map Extract.item) (others.map Extract.item) := by
  rw [List.forall₂_map_left_iff, List.forall₂_map_right_iff]
  exact h.imp hitem

/-- Parts, entries and errors that go together. Related parts are the same to an outline, and what
is made of related parts is related. -/
structure Simulation (R : Extract → Extract → Prop) (N : Entry → Entry → Prop)
    (E : AfterListError → AfterListError → Prop) : Prop where
  holdsList : ∀ {part other}, R part other → part.holdsList = other.holdsList
  isSimple : ∀ {part other}, R part other → part.isSimple = other.isSimple
  isList_iff : ∀ {part other}, R part other →
    ((∃ body, part.item = .list body) ↔ ∃ body, other.item = .list body)
  listed : ∀ {part other}, R part other → List.Forall₂ N part.item.listed other.item.listed
  content : ∀ {part other}, R part other → part.source.content = other.source.content
  first? : ∀ {part other}, R part other → ∀ test,
    part.source.first? test = other.source.first? test
  entry : ∀ {parts others children otherChildren}, List.Forall₂ R parts others →
    List.Forall₂ N children otherChildren → ∀ titleText url,
    N (.mk titleText url (parts.map item) children)
      (.mk titleText url (others.map item) otherChildren)
  error : ∀ {part other}, R part other → ∀ title,
    E ⟨part.tag, title, part.source.outer⟩ ⟨other.tag, title, other.source.outer⟩

namespace Simulation

variable {R : Extract → Extract → Prop} {N : Entry → Entry → Prop}
  {E : AfterListError → AfterListError → Prop} {parts others : List Extract}

/-- Related parts are simple together. -/
lemma all_isSimple_eq (s : Simulation R N E) (h : List.Forall₂ R parts others) :
    parts.all Extract.isSimple = others.all Extract.isSimple := by
  induction h with
  | nil => rfl
  | cons hpart _ ih => rw [List.all_cons, List.all_cons, s.isSimple hpart, ih]

/-- Related parts hold a list together. -/
lemma any_holdsList_eq (s : Simulation R N E) (h : List.Forall₂ R parts others) :
    parts.any Extract.holdsList = others.any Extract.holdsList := by
  induction h with
  | nil => rfl
  | cons hpart _ ih => rw [List.any_cons, List.any_cons, s.holdsList hpart, ih]

/-- Related parts have the same text. -/
lemma contentAll_eq (s : Simulation R N E) (h : List.Forall₂ R parts others) :
    Html.Node.contentAll (parts.map source) = Html.Node.contentAll (others.map source) := by
  induction h with
  | nil => rfl
  | cons hpart _ ih =>
    rw [List.map_cons, List.map_cons, Html.Node.contentAll, Html.Node.contentAll, s.content hpart,
      ih]

/-- Related parts have the same first element of a kind. -/
lemma firstOf?_eq (s : Simulation R N E) (h : List.Forall₂ R parts others)
    (test : Html.Element → Bool) :
    Html.Node.firstOf? test (parts.map source) = Html.Node.firstOf? test (others.map source) := by
  induction h with
  | nil => rfl
  | cons hpart _ ih =>
    rw [List.map_cons, List.map_cons, Html.Node.firstOf?, Html.Node.firstOf?, s.first? hpart, ih]

/-- A title ends in front of the same part on both sides. -/
lemma cut (s : Simulation R N E) (h : List.Forall₂ R parts others) :
    List.Forall₂ R (parts.takeWhile fun part => !part.holdsList)
        (others.takeWhile fun part => !part.holdsList) ∧
      List.Forall₂ R (parts.dropWhile fun part => !part.holdsList)
        (others.dropWhile fun part => !part.holdsList) :=
  forall₂_cut (fun _ _ hpart => by rw [s.holdsList hpart]) h

/-- The lists behind a title are read in the same way, and the first part that is none is an error
on both sides. -/
lemma nested (s : Simulation R N E) (h : List.Forall₂ R parts others) (title : String) :
    Corresponds E (List.Forall₂ N) (Extract.nested title parts) (Extract.nested title others) := by
  induction h with
  | nil => exact .ok .nil
  | @cons part other parts others hpart hrest ih =>
    by_cases hlist : ∃ body, part.item = .list body
    · obtain ⟨otherBody, hother⟩ := (s.isList_iff hpart).1 hlist
      obtain ⟨body, hbody⟩ := hlist
      rw [nested_cons_list hbody, nested_cons_list hother]
      exact ih.map fun _ _ hentries => List.rel_append (s.listed hpart) hentries
    · have hother := mt (s.isList_iff hpart).2 hlist
      rw [nested_cons_other (not_exists.1 hlist), nested_cons_other (not_exists.1 hother)]
      exact .error (s.error hpart title)

/-- The titles are read from parts that go together, so their texts and links are the same. -/
lemma entry_of_parts (s : Simulation R N E) (h : List.Forall₂ R parts others) :
    Corresponds E N (Extract.entry parts) (Extract.entry others) := by
  obtain ⟨htitle, hlists⟩ := s.cut h
  rw [Extract.entry, Extract.entry, s.contentAll_eq htitle, s.firstOf?_eq htitle]
  refine (s.nested hlists _).bind fun children otherChildren _ _ hchildren => ?_
  exact .ok (s.entry htitle hchildren _ _)

/-- Elements go together if their parts do, whatever their role is. -/
lemma ofElement (s : Simulation R N E) (h : List.Forall₂ R parts others)
    {shortcut otherShortcut : Bool} {node other : Html.Node} (head : Html.Element)
    (hlist : R ⟨.list (body shortcut node parts), node, true, false⟩
      ⟨.list (body otherShortcut other others), other, true, false⟩)
    (helement : ∀ name attributes holdsList isSimple,
      R ⟨.element name attributes (body shortcut node parts), node, holdsList, isSimple⟩
        ⟨.element name attributes (body otherShortcut other others), other, holdsList, isSimple⟩)
    (hentry : ∀ e otherEntry holdsList, N e otherEntry →
      R ⟨.entry e, node, holdsList, false⟩ ⟨.entry otherEntry, other, holdsList, false⟩) :
    Corresponds E (List.Forall₂ R) (Extract.ofElement shortcut node head parts)
      (Extract.ofElement otherShortcut other head others) := by
  cases hrole : Role.ofName head.name with
  | paragraph =>
    rw [ofElement_paragraph hrole, ofElement_paragraph hrole]
    exact .ok h
  | list =>
    rw [ofElement_list hrole, ofElement_list hrole]
    exact .ok (.cons hlist .nil)
  | other =>
    rw [ofElement_other hrole, ofElement_other hrole, s.all_isSimple_eq h, s.any_holdsList_eq h]
    exact .ok (.cons (helement _ _ _ _) .nil)
  | item =>
    rw [ofElement_item hrole, ofElement_item hrole, s.any_holdsList_eq h]
    cases h with
    | nil => exact .ok .nil
    | cons hpart hrest =>
      refine (s.entry_of_parts (.cons hpart hrest)).bind fun e otherEntry _ _ he => ?_
      exact .ok (.cons (hentry _ _ _ he) .nil)

end Simulation
end Extract
end Outline
end Bindery
