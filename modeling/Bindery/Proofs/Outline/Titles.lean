import Bindery.Proofs.Outline.Items
import Bindery.Proofs.Words

/-!
# The titles of list items

The title of a list item is the text in front of its first list. The text is put together from the
nodes that an outline keeps, and a blank text between two of them is not kept. Where such a text is
all that stands between two words, the title has them as one word (`JoinsWords`); otherwise it is
the text of all nodes in front of the list, with its blanks collapsed (`titleText_eq_iff`).
-/

namespace Bindery
namespace Outline

mutual

/-- Whether a node is a list or has one in it. -/
def bearsList : Html.Node → Bool
  | .text _ | .comment _ => false
  | .fragment children => bearsListAny children
  | .element head children => Role.ofName head.name == .list || bearsListAny children

/-- Whether there is a list among some nodes or in them. -/
def bearsListAny : List Html.Node → Bool
  | [] => false
  | node :: rest => bearsList node || bearsListAny rest

end

mutual

/-- The nodes that a node stands for in a list item: a paragraph stands for its children. -/
def unwrapped : Html.Node → List Html.Node
  | .text s => [.text s]
  | .comment s => [.comment s]
  | .fragment children => unwrappedAll children
  | .element head children =>
    if Role.ofName head.name = .paragraph then unwrappedAll children else [.element head children]

/-- The nodes that some nodes stand for in a list item. -/
def unwrappedAll : List Html.Node → List Html.Node
  | [] => []
  | node :: rest => unwrapped node ++ unwrappedAll rest

end

/-- The nodes in front of the first list among the children of a list item. -/
def titleRun (children : List Html.Node) : List Html.Node :=
  (unwrappedAll children).takeWhile fun node => !bearsList node

/-- Whether a node comes to something in an outline. -/
def isKept (node : Html.Node) : Bool := !(flow node).isEmpty

/-- The characters of a node's text. -/
def textOf (node : Html.Node) : List Char := node.content.toList

/-- A node that comes to nothing has the only blanks between two words of a title. -/
def JoinsWords (run : List Html.Node) : Prop := Text.Joins textOf isKept run

section

variable {node : Html.Node}

/-! ## Nodes that come to something -/

lemma filter_isKept_singleton (h : flow node = [] ∨ flow node = [node]) :
    [node].filter isKept = flow node := by
  obtain h | h := h <;> simp [isKept, h]

mutual

/-- What a node comes to is those of the nodes it stands for that come to something. -/
lemma filter_unwrapped (node : Html.Node) : (unwrapped node).filter isKept = flow node := by
  cases node with
  | text s =>
    rw [unwrapped]
    refine filter_isKept_singleton ?_
    rw [flow]
    split
    · exact .inl rfl
    · exact .inr rfl
  | comment s => rfl
  | fragment children =>
    rw [unwrapped, flow]
    exact filter_unwrappedAll children
  | element head children =>
    rw [unwrapped]
    cases hrole : Role.ofName head.name with
    | paragraph =>
      rw [if_pos rfl, flow_paragraph hrole]
      exact filter_unwrappedAll children
    | list =>
      rw [if_neg (by decide)]
      exact filter_isKept_singleton (.inr (flow_list hrole))
    | other =>
      rw [if_neg (by decide)]
      exact filter_isKept_singleton (.inr (flow_other hrole))
    | item =>
      rw [if_neg (by decide)]
      refine filter_isKept_singleton ?_
      by_cases hnil : flowAll children = []
      · exact .inl (flow_item_of_nil hrole hnil)
      · exact .inr (flow_item_of_ne_nil hrole hnil)

/-- Without paragraphs and without what comes to nothing the nodes are the flow. -/
lemma filter_unwrappedAll (nodes : List Html.Node) :
    (unwrappedAll nodes).filter isKept = flowAll nodes := by
  cases nodes with
  | nil => rfl
  | cons node rest =>
    rw [unwrappedAll, List.filter_append, filter_unwrapped node, filter_unwrappedAll rest, flowAll]

end

mutual

/-- There are lists in what a node comes to exactly if there are lists in the node. -/
lemma any_bearsList_flow (node : Html.Node) : (flow node).any bearsList = bearsList node := by
  cases node with
  | text s =>
    rw [flow]
    split <;> rfl
  | comment s => rfl
  | fragment children =>
    rw [flow, bearsList]
    exact any_bearsList_flowAll children
  | element head children =>
    cases hrole : Role.ofName head.name with
    | paragraph =>
      rw [flow_paragraph hrole, any_bearsList_flowAll children, bearsList, hrole]
      rfl
    | list =>
      rw [flow_list hrole]
      exact Bool.or_false _
    | other =>
      rw [flow_other hrole]
      exact Bool.or_false _
    | item =>
      by_cases hnil : flowAll children = []
      · have hchildren := any_bearsList_flowAll children
        rw [hnil] at hchildren
        rw [flow_item_of_nil hrole hnil, bearsList, hrole, ← hchildren]
        rfl
      · rw [flow_item_of_ne_nil hrole hnil]
        exact Bool.or_false _

/-- A list in the flow is a list in the nodes. -/
lemma any_bearsList_flowAll (nodes : List Html.Node) :
    (flowAll nodes).any bearsList = bearsListAny nodes := by
  cases nodes with
  | nil => rfl
  | cons node rest =>
    rw [flowAll, List.any_append, any_bearsList_flow node, any_bearsList_flowAll rest, bearsListAny]

end

/-- What comes to nothing bears no list. -/
lemma bearsList_of_not_isKept (h : isKept node = false) : bearsList node = false := by
  have hnil : flow node = [] := by simpa [isKept] using h
  rw [← any_bearsList_flow, hnil]
  rfl

/-- The text of nodes is their texts one after the other. -/
lemma toList_contentAll (nodes : List Html.Node) :
    (Html.Node.contentAll nodes).toList = nodes.flatMap textOf := by
  induction nodes with
  | nil => rfl
  | cons node nodes ih =>
    rw [Html.Node.contentAll, String.toList_append, ih, List.flatMap_cons, textOf]

mutual

/-- What comes to nothing has no text but blanks. -/
lemma isBlank_of_flow_eq_nil {node : Html.Node} (h : flow node = []) :
    ∀ c ∈ textOf node, Text.isBlank c = true := by
  cases node with
  | text s =>
    rw [flow] at h
    split at h
    · rename_i hblank
      rw [textOf, Html.Node.content]
      exact List.all_eq_true.1 hblank
    · cases h
  | comment s => exact fun c hc => absurd hc (by simp [textOf, Html.Node.content])
  | fragment children =>
    rw [flow] at h
    rw [textOf, Html.Node.content, toList_contentAll]
    exact isBlank_of_flowAll_eq_nil h
  | element head children =>
    rw [textOf, Html.Node.content, toList_contentAll]
    refine isBlank_of_flowAll_eq_nil ?_
    cases hrole : Role.ofName head.name with
    | paragraph => rwa [flow_paragraph hrole] at h
    | list =>
      rw [flow_list hrole] at h
      cases h
    | other =>
      rw [flow_other hrole] at h
      cases h
    | item =>
      by_contra hne
      rw [flow_item_of_ne_nil hrole hne] at h
      cases h

/-- Nodes that come to nothing have blank text. -/
lemma isBlank_of_flowAll_eq_nil {nodes : List Html.Node} (h : flowAll nodes = []) :
    ∀ c ∈ nodes.flatMap textOf, Text.isBlank c = true := by
  cases nodes with
  | nil => exact fun c hc => absurd hc List.not_mem_nil
  | cons node rest =>
    rw [flowAll, List.append_eq_nil_iff] at h
    rw [List.flatMap_cons]
    intro c hc
    obtain hc | hc := List.mem_append.1 hc
    · exact isBlank_of_flow_eq_nil h.1 c hc
    · exact isBlank_of_flowAll_eq_nil h.2 c hc

end

lemma isBlank_of_not_isKept (h : isKept node = false) : ∀ c ∈ textOf node, Text.isBlank c = true :=
  isBlank_of_flow_eq_nil (by simpa [isKept] using h)

end

/-! ## The text of a title -/

section

variable {children : List Html.Node}

/-- The first nodes of a list do not depend on nodes among them that are dropped. -/
lemma takeWhile_filter {α : Type} {p keep : α → Bool} {l : List α}
    (h : ∀ a ∈ l, keep a = false → p a = true) :
    (l.filter keep).takeWhile p = (l.takeWhile p).filter keep := by
  induction l with
  | nil => rfl
  | cons a l ih =>
    have hrest := ih fun b hb => h b (List.mem_cons_of_mem a hb)
    by_cases hkeep : keep a = true
    · rw [List.filter_cons_of_pos hkeep, List.takeWhile_cons, List.takeWhile_cons, hrest]
      split
      · rw [List.filter_cons_of_pos hkeep]
      · rfl
    · have hp : p a = true := h a List.mem_cons_self (by simpa using hkeep)
      rw [List.filter_cons_of_neg hkeep, List.takeWhile_cons_of_pos hp,
        List.filter_cons_of_neg hkeep, hrest]

/-- The nodes that a title is read from. -/
lemma filter_titleRun (children : List Html.Node) :
    (titleRun children).filter isKept
      = (flowAll children).takeWhile fun node => !bearsList node := by
  rw [← filter_unwrappedAll, titleRun, takeWhile_filter]
  intro node _ hkept
  rw [bearsList_of_not_isKept hkept]
  rfl

mutual

/-- Dropping paragraphs keeps the text. -/
lemma flatMap_textOf_unwrapped (node : Html.Node) :
    (unwrapped node).flatMap textOf = textOf node := by
  cases node with
  | text s => exact List.flatMap_singleton ..
  | comment s => exact List.flatMap_singleton ..
  | fragment children =>
    rw [unwrapped, textOf, Html.Node.content, toList_contentAll]
    exact flatMap_textOf_unwrappedAll children
  | element head children =>
    rw [unwrapped]
    split
    · rw [textOf, Html.Node.content, toList_contentAll]
      exact flatMap_textOf_unwrappedAll children
    · exact List.flatMap_singleton ..

lemma flatMap_textOf_unwrappedAll (nodes : List Html.Node) :
    (unwrappedAll nodes).flatMap textOf = nodes.flatMap textOf := by
  cases nodes with
  | nil => rfl
  | cons node rest =>
    rw [unwrappedAll, List.flatMap_append, flatMap_textOf_unwrapped node,
      flatMap_textOf_unwrappedAll rest, List.flatMap_cons]

end

/-- A node without a list stands for nodes without a list. -/
lemma bearsList_of_mem_unwrapped {node child : Html.Node} (h : bearsList child = false)
    (hnode : node ∈ unwrapped child) : bearsList node = false := by
  by_cases hkept : isKept node = true
  · have hflow : node ∈ flow child := by
      rw [← filter_unwrapped]
      exact List.mem_filter.2 ⟨hnode, hkept⟩
    rw [← any_bearsList_flow, List.any_eq_false] at h
    simpa using h node hflow
  · exact bearsList_of_not_isKept (by simpa using hkept)

/-- Where no paragraph has a list in it, the run of a title goes up to the first child that has. -/
lemma contentAll_titleRun
    (h : ∀ child ∈ children, bearsList child = true → unwrapped child = [child]) :
    Html.Node.contentAll (titleRun children)
      = Html.Node.contentAll (children.takeWhile fun node => !bearsList node) := by
  rw [← String.toList_inj, toList_contentAll, toList_contentAll]
  induction children with
  | nil => rfl
  | cons child rest ih =>
    have hrest := ih fun other hother => h other (List.mem_cons_of_mem _ hother)
    rw [titleRun] at hrest ⊢
    rw [unwrappedAll, List.takeWhile_cons]
    cases hbears : bearsList child with
    | true =>
      rw [h child List.mem_cons_self hbears, List.singleton_append,
        List.takeWhile_cons_of_neg (by simp [hbears])]
      rfl
    | false =>
      have hpass : ∀ node ∈ unwrapped child, (!bearsList node) = true := fun node hnode => by
        rw [bearsList_of_mem_unwrapped hbears hnode]
        rfl
      rw [List.takeWhile_append_of_pos hpass, List.flatMap_append, flatMap_textOf_unwrapped, hrest]
      rfl

end

/-! ## The entry of a list item -/

namespace Extract

/-- A part was read from a node, and it is marked as a list if there is one. -/
def StandsFor (node : Html.Node) (part : Extract) : Prop :=
  part.source = node ∧ part.holdsList = bearsList node

section

variable {nodes : List Html.Node} {parts : List Extract}

/-- The parts hold a list if their nodes bear one. -/
lemma any_holdsList_of_standsFor (h : List.Forall₂ StandsFor nodes parts) :
    parts.any holdsList = nodes.any bearsList := by
  induction h with
  | nil => rfl
  | cons hpart _ ih => rw [List.any_cons, List.any_cons, hpart.2, ih]

/-- The sources of the parts are their nodes. -/
lemma map_source_eq (h : List.Forall₂ StandsFor nodes parts) : parts.map source = nodes := by
  induction h with
  | nil => rfl
  | cons hpart _ ih => rw [List.map_cons, hpart.1, ih]

/-- The title ends in front of the same part as the run of its nodes. -/
lemma forall₂_standsFor_cut (h : List.Forall₂ StandsFor nodes parts) :
    List.Forall₂ StandsFor (nodes.takeWhile fun node => !bearsList node)
        (parts.takeWhile fun part => !part.holdsList) ∧
      List.Forall₂ StandsFor (nodes.dropWhile fun node => !bearsList node)
        (parts.dropWhile fun part => !part.holdsList) :=
  forall₂_cut (fun _ _ hpart => by rw [hpart.2]) h

/-- The parts in front of the first list are the nodes in front of it. -/
lemma map_source_takeWhile (h : List.Forall₂ StandsFor nodes parts) :
    (parts.takeWhile fun part => !part.holdsList).map source
      = nodes.takeWhile fun node => !bearsList node :=
  map_source_eq (forall₂_standsFor_cut h).1

end

/-- Every part stands for its node. -/
lemma holdsOfParts_standsFor {shortcut : Bool} : HoldsOfParts shortcut StandsFor where
  text s _ := ⟨rfl, rfl⟩
  element {_ children _ _} _ hinner hparagraph hreads := by
    have hlist := (any_holdsList_of_standsFor hinner).trans (any_bearsList_flowAll children)
    cases hreads with
    | paragraph hrole => exact absurd hrole hparagraph
    | list hrole => exact ⟨rfl, by rw [bearsList, hrole]; rfl⟩
    | item hrole hne hentry => exact ⟨rfl, by rw [bearsList, hrole]; exact hlist⟩
    | other hrole => exact ⟨rfl, by rw [bearsList, hrole]; exact hlist⟩

lemma standsFor_of_ofNodes {shortcut : Bool} {nodes : List Html.Node} {parts : List Extract}
    (h : ofNodes shortcut nodes = .ok parts) : List.Forall₂ StandsFor (flowAll nodes) parts :=
  holdsOfParts_standsFor.of_ofNodes h

/-- The title of an entry is the collapsed text in front of its first list. -/
lemma titleText_of_entry {parts : List Extract} {e : Entry} (h : entry parts = .ok e) :
    e.titleText = Text.collapse (Html.Node.contentAll
      ((parts.takeWhile fun part => !part.holdsList).map source)) := by
  rw [entry] at h
  obtain ⟨children, -, h⟩ := bind_eq_ok.1 h
  cases h
  rfl

end Extract

section

variable {head : Html.Element} {children : List Html.Node} {e : Entry}

/-- The entry of a list item is made of what its children come to. -/
lemma exists_entry_of_isEntryOf (hli : head.name = "li")
    (h : IsEntryOf (.element head children) e) :
    ∃ inner, Extract.ofNodes true children = .ok inner ∧ Extract.entry inner = .ok e := by
  have hitem : Role.ofName head.name = .item := by rw [hli]; rfl
  obtain ⟨parts, hparts, hfound⟩ := exists_of_extract h
  obtain ⟨inner, hinner, hreads⟩ := Extract.reads_of_ofNode hparts
  refine ⟨inner, hinner, ?_⟩
  cases hreads with
  | paragraph hrole | list hrole | other hrole =>
    rw [hitem] at hrole
    cases hrole
  | emptyItem hrole hnil => cases hfound
  | item hrole hne hentry =>
    cases hfound
    exact hentry

/-- The title of a list item is put together from the nodes in front of its first list that come to
something, a paragraph standing for its children. It is the text of all nodes there, blanks between
words included, exactly if no node that comes to nothing has the only blanks between two words.
Where no paragraph has a list in it, these are the children in front of the first that has one. -/
theorem titleText_eq_iff (hli : head.name = "li") (h : IsEntryOf (.element head children) e) :
    e.titleText = Text.collapse (Html.Node.contentAll ((titleRun children).filter isKept)) ∧
      (e.titleText = Text.collapse (Html.Node.contentAll (titleRun children)) ↔
        ¬ JoinsWords (titleRun children)) ∧
      ((∀ child ∈ children, bearsList child = true → unwrapped child = [child]) →
        Html.Node.contentAll (titleRun children)
          = Html.Node.contentAll (children.takeWhile fun node => !bearsList node)) := by
  obtain ⟨inner, hinner, hentry⟩ := exists_entry_of_isEntryOf hli h
  have hkept :
      e.titleText = Text.collapse (Html.Node.contentAll ((titleRun children).filter isKept)) := by
    rw [Extract.titleText_of_entry hentry,
      Extract.map_source_takeWhile (Extract.standsFor_of_ofNodes hinner), filter_titleRun]
  refine ⟨hkept, ?_, contentAll_titleRun⟩
  rw [hkept, Text.collapse_eq_iff, toList_contentAll, toList_contentAll]
  exact Text.words_kept_eq_iff fun node _ hdropped => isBlank_of_not_isKept hdropped

end

/-- A list item with blanks in front of its link, and with words and a list behind it. -/
def spacedItem : List Html.Node :=
  [.text "\n", .element { name := "a" } [.text "One"], .text " two ", .element { name := "ul" } []]

/-- Blanks in front of the first word of a title join no words. -/
theorem titleText_eq_iff_spaced :
    ∃ e, IsEntryOf (.element { name := "li" } spacedItem) e ∧ e.titleText = "One two" ∧
      e.titleText = Text.collapse (Html.Node.contentAll (titleRun spacedItem)) := by
  have h : IsEntryOf (.element { name := "li" } spacedItem) _ := rfl
  obtain ⟨htitle, hiff, -⟩ := titleText_eq_iff rfl h
  have hjoins : ¬ JoinsWords (titleRun spacedItem) := by
    rintro ⟨before, part, after, hrun, hkept, -, ⟨c, hc, -⟩, -⟩
    have hparts : titleRun spacedItem = [.text "\n", .element { name := "a" } [.text "One"],
      .text " two "] := by cbv
    rw [hparts] at hrun
    -- only the first node is dropped, and there are no words in front of it
    rcases before with _ | ⟨_, _ | ⟨_, _ | ⟨_, before⟩⟩⟩
    · simp at hc
    · cases hrun
      revert hkept
      decide
    · cases hrun
      revert hkept
      decide
    · simp at hrun
  exact ⟨_, h, by cbv, hiff.2 hjoins⟩

/-- A blank text between two elements of a title is not kept, so the words in them become one. -/
theorem blank_between_words_is_dropped :
    ∃ e, IsEntryOf (.element { name := "li" }
        [.element { name := "b" } [.text "A"], .text " ", .element { name := "i" } [.text "B"]]) e ∧
      e.titleText = "AB" ∧
      Text.collapse (Html.Node.contentAll (titleRun
        [.element { name := "b" } [.text "A"], .text " ", .element { name := "i" } [.text "B"]]))
        = "A B" :=
  ⟨_, rfl, by cbv, by cbv⟩

end Outline
end Bindery
