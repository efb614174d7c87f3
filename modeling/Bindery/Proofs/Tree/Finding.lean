import Bindery.Proofs.Path
import Bindery.Proofs.Sorted
import Bindery.Tree

/-!
# Finding files

A path that goes on from another one by names leads to what the names lead to from there, and the
files below a path are the ones that names lead to.
-/

namespace Bindery

/-! ## Nodes -/

namespace FileNode

/-- The entries of every folder stand in order under names. -/
inductive WellFormed : FileNode → Prop where
  | file (f : File) : WellFormed (.file f)
  | folder (entries : List (String × FileNode)) :
      InOrder entries → (∀ entry ∈ entries, Path.IsName entry.1) →
      (∀ entry ∈ entries, WellFormed entry.2) → WellFormed (.folder entries)

/-- Names are followed one after the other. -/
lemma get?_append (first rest : List String) (node : FileNode) :
    node.get? (first ++ rest) = (node.get? first).bind (get? rest) := by
  induction first generalizing node with
  | nil => rfl
  | cons name first ih =>
    rw [List.cons_append, get?, get?, Option.bind_assoc]
    congr 1
    funext child
    exact ih child

lemma get?_file_cons (f : File) (name : String) (rest : List String) :
    (FileNode.file f).get? (name :: rest) = none := rfl

lemma get?_folder_cons (entries : List (String × FileNode)) (name : String) (rest : List String) :
    (FileNode.folder entries).get? (name :: rest)
      = (Sorted.lookup name entries).bind (get? rest) := rfl

variable {node found : FileNode} {names : List String} {f : File}

/-- What is found in a well-formed node is well-formed, and found under names. -/
lemma WellFormed.get? (h : node.WellFormed) (hfound : node.get? names = some found) :
    found.WellFormed ∧ ∀ name ∈ names, Path.IsName name := by
  induction names generalizing node with
  | nil =>
    cases hfound
    exact ⟨h, by simp⟩
  | cons name rest ih =>
    cases h with
    | file f =>
      rw [get?_file_cons] at hfound
      cases hfound
    | folder entries horder hnames hnodes =>
      rw [get?_folder_cons, Option.bind_eq_some_iff] at hfound
      obtain ⟨child, hlookup, hrest⟩ := hfound
      have hmem := Sorted.mem_of_lookup hlookup
      obtain ⟨hfoundWell, hrestNames⟩ := ih (hnodes _ hmem) hrest
      refine ⟨hfoundWell, ?_⟩
      intro other hother
      rcases List.mem_cons.1 hother with rfl | hother
      · exact hnames _ hmem
      · exact hrestNames other hother

/-- A file of a folder is a file of one of its entries. -/
lemma mem_filesOf {entries : List (String × FileNode)} :
    (names, f) ∈ filesOf entries ↔ ∃ name rest child,
      names = name :: rest ∧ (name, child) ∈ entries ∧ (rest, f) ∈ child.files := by
  induction entries with
  | nil => simp [filesOf]
  | cons entry others ih =>
    obtain ⟨name, child⟩ := entry
    rw [filesOf, List.mem_append, ih, List.mem_map]
    constructor
    · rintro (⟨⟨rest, g⟩, hmem, heq⟩ | ⟨other, rest, node, hnames, hmem, hfile⟩)
      · cases heq
        exact ⟨name, rest, child, rfl, List.mem_cons_self, hmem⟩
      · exact ⟨other, rest, node, hnames, List.mem_cons_of_mem _ hmem, hfile⟩
    · rintro ⟨other, rest, node, rfl, hmem, hfile⟩
      rcases List.mem_cons.1 hmem with heq | hmem
      · cases heq
        exact .inl ⟨(rest, f), hfile, rfl⟩
      · exact .inr ⟨other, rest, node, rfl, hmem, hfile⟩

/-- The files below a node are the ones that names lead to. -/
lemma WellFormed.mem_files (h : node.WellFormed) :
    (names, f) ∈ node.files ↔ node.get? names = some (.file f) := by
  induction names generalizing node with
  | nil =>
    cases h with
    | file g => simp [files, FileNode.get?, eq_comm]
    | folder entries _ _ _ => simp [files, mem_filesOf, FileNode.get?]
  | cons name rest ih =>
    cases h with
    | file g => simp [files, get?_file_cons]
    | folder entries horder hnames hnodes =>
      rw [files, mem_filesOf, get?_folder_cons, Option.bind_eq_some_iff]
      constructor
      · rintro ⟨_, _, child, heq, hmem, hfile⟩
        cases heq
        exact ⟨child, Sorted.lookup_of_mem horder hmem, (ih (hnodes _ hmem)).1 hfile⟩
      · rintro ⟨child, hlookup, hrest⟩
        have hmem := Sorted.mem_of_lookup hlookup
        exact ⟨name, rest, child, rfl, hmem, (ih (hnodes _ hmem)).2 hrest⟩

/-- A folder with a single entry. -/
lemma WellFormed.single {name : String} (hname : Path.IsName name) (h : node.WellFormed) :
    (FileNode.folder [(name, node)]).WellFormed := by
  refine .folder _ (List.pairwise_singleton _ _) ?_ ?_
  · intro entry hentry
    rw [List.mem_singleton.1 hentry]
    exact hname
  · intro entry hentry
    rw [List.mem_singleton.1 hentry]
    exact h

end FileNode

/-! ## Trees -/

namespace Tree

/-- A tree is a folder with entries in order under names. -/
structure WellFormed (t : Tree) : Prop where
  top : t.top.WellFormed
  isFolder : t.top.isFolder

variable {t : Tree} {place : List String}

lemma get?_append (t : Tree) (first rest : List String) :
    t.get? (first ++ rest) = (t.get? first).bind (FileNode.get? rest) :=
  FileNode.get?_append first rest t.top

/-- Steps are walked one after the other. -/
lemma walk_append (t : Tree) (place first rest : List String) :
    t.walk place (first ++ rest) = (t.walk place first).bind fun place => t.walk place rest := by
  induction first generalizing place with
  | nil => rfl
  | cons step first ih =>
    rw [List.cons_append, walk, walk]
    split
    · split
      · exact ih place
      · split
        · exact ih _
        · split
          · exact ih _
          · rfl
    · rfl

/-- A name leads into a folder if there is something of that name. -/
lemma walk_cons_name {name : String} (h : Path.IsName name) (t : Tree)
    (place rest : List String) :
    t.walk place (name :: rest)
      = if (t.get? place.reverse).any FileNode.isFolder then
          if (t.get? (place.reverse ++ [name])).isSome then t.walk (name :: place) rest else none
        else none := by
  rw [walk, if_neg (by simp [h.ne_empty, h.ne_dot] : ¬ (name = "" || name = ".") = true),
    if_neg h.ne_dots]

/-- Names lead from a place to what they lead to from the node there. -/
lemma walk_names {names : List String} (h : ∀ name ∈ names, Path.IsName name) (t : Tree)
    (place : List String) :
    ((t.walk place names).map List.reverse).bind t.get?
      = (t.get? place.reverse).bind (FileNode.get? names) := by
  induction names generalizing place with
  | nil =>
    rw [walk, Option.map_some, Option.bind_some]
    cases t.get? place.reverse <;> rfl
  | cons name rest ih =>
    -- the walk asks for the child from the top, the names from the node
    have hchild := t.get?_append place.reverse [name]
    rw [walk_cons_name (h name List.mem_cons_self)]
    cases hnode : t.get? place.reverse with
    | none => simp
    | some node =>
      rw [hnode, Option.bind_some] at hchild
      have hnext : node.get? (name :: rest) = (node.get? [name]).bind (FileNode.get? rest) :=
        FileNode.get?_append [name] rest node
      cases node with
      | file f => simp [FileNode.isFolder, FileNode.get?_file_cons]
      | folder entries =>
        simp only [Option.any_some, FileNode.isFolder, if_true]
        rw [Option.bind_some, hnext, ← hchild]
        split
        · rw [ih (fun other hother => h other (List.mem_cons_of_mem _ hother)), List.reverse_cons]
        · rename_i hnone
          rw [Option.not_isSome_iff_eq_none] at hnone
          rw [hnone]
          rfl

/-- What is joined with a name is looked for below the base. -/
lemma find?_join {name : String} (h : Path.IsName name) (t : Tree) (base : String) :
    t.find? (Path.join base name) = (t.find? base).bind (FileNode.get? [name]) := by
  rw [find?, find?, locate?, locate?]
  have hname := Link.segments_of_not_mem h.not_mem
  have hnames : ∀ other ∈ [name], Path.IsName other := by simpa using h
  have hwalk := walk_names hnames t
  -- joining drops the empty step that a base with a slash at its end has
  obtain hjoin | ⟨first, hbase, hjoin⟩ := Path.segments_join h.not_isAbsolute base
  · rw [hjoin, hname, walk_append]
    cases t.walk [] (Link.segments base) with
    | none => rfl
    | some place => exact hwalk place
  · rw [hjoin, hname, hbase, walk_append, walk_append]
    cases t.walk [] first with
    | none => rfl
    | some place =>
      dsimp only [Option.bind_some]
      rw [hwalk place, walk]
      -- the empty step at the end of the path stays in a folder, as the name does
      cases hnode : t.get? place.reverse with
      | none => rfl
      | some node =>
        cases node with
        | file f => rfl
        | folder entries => simp [FileNode.isFolder, walk, hnode]

/-- A path that goes on by names leads to what the names lead to. -/
lemma find?_along {names : List String} (h : ∀ name ∈ names, Path.IsName name) (t : Tree)
    (base : String) :
    t.find? (Path.along base names) = (t.find? base).bind (FileNode.get? names) := by
  induction names generalizing base with
  | nil =>
    rw [Path.along, List.foldl_nil]
    cases t.find? base <;> rfl
  | cons name rest ih =>
    have hrest := ih (fun other hother => h other (List.mem_cons_of_mem _ hother))
      (Path.join base name)
    rw [Path.along] at hrest
    rw [Path.along, List.foldl_cons, hrest, find?_join (h name List.mem_cons_self),
      Option.bind_assoc]
    congr 1
    funext node
    exact (FileNode.get?_append [name] rest node).symm

/-- A path from the top without detours leads to what its names lead to. -/
lemma WellFormed.find?_ofSteps (ht : t.WellFormed) {names : List String}
    (h : ∀ name ∈ names, Path.IsName name) : t.find? (Path.ofSteps names) = t.get? names := by
  have hsegments : Link.segments (Path.ofSteps names)
      = "" :: Link.segments ("/".intercalate names) := by
    have hsplit := Link.segments_append "" ("/".intercalate names)
    rwa [String.empty_append] at hsplit
  have hempty : ∀ rest, t.walk [] ("" :: rest) = t.walk [] rest := by
    intro rest
    have htop : (t.get? ([] : List String).reverse).any FileNode.isFolder := ht.isFolder
    rw [walk, if_pos htop]
    rfl
  rw [find?, locate?, hsegments, hempty]
  by_cases hne : names = []
  · subst hne
    have hwalk : t.walk [] (Link.segments ("/".intercalate [])) = some [] := hempty []
    rw [hwalk]
    rfl
  · rw [Link.segments_intercalate hne fun name hname => (h name hname).not_mem, walk_names h]
    rfl

/-- What is found in a well-formed tree is well-formed. -/
lemma WellFormed.find? (h : t.WellFormed) {path : String} {node : FileNode}
    (hfound : t.find? path = some node) : node.WellFormed := by
  rw [Tree.find?, Option.bind_eq_some_iff] at hfound
  obtain ⟨names, -, hget⟩ := hfound
  exact (h.top.get? hget).1

/-- A path leads to a file if a file is found there. -/
lemma file?_eq_some_iff {path : String} {f : File} :
    t.file? path = some f ↔ t.find? path = some (.file f) := by
  rw [file?]
  split
  · rename_i g hfound
    simp [hfound]
  · rename_i hnone
    simp only [reduceCtorEq, false_iff]
    exact hnone f

/-- The files below a path are the ones that names lead to from there. -/
lemma WellFormed.mem_filesBelow (h : t.WellFormed) {base path : String} {f : File} :
    (path, f) ∈ t.filesBelow base ↔ ∃ names, (∀ name ∈ names, Path.IsName name) ∧
      path = Path.along base names ∧ t.file? path = some f := by
  rw [filesBelow]
  cases hbase : t.find? base with
  | none =>
    constructor
    · intro hmem
      exact absurd hmem List.not_mem_nil
    · rintro ⟨names, hnames, rfl, hfile⟩
      rw [file?_eq_some_iff, find?_along hnames, hbase] at hfile
      cases hfile
  | some node =>
    have hnode := h.find? hbase
    rw [List.mem_map]
    constructor
    · rintro ⟨⟨names, g⟩, hmem, heq⟩
      cases heq
      have hget := hnode.mem_files.1 hmem
      have hnames := (hnode.get? hget).2
      refine ⟨names, hnames, rfl, ?_⟩
      rw [file?_eq_some_iff]
      exact (find?_along hnames t base).trans (by rw [hbase]; exact hget)
    · rintro ⟨names, hnames, rfl, hfile⟩
      rw [file?_eq_some_iff, find?_along hnames, hbase] at hfile
      exact ⟨(names, f), hnode.mem_files.2 hfile, rfl⟩

end Tree
end Bindery
