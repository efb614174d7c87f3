import Bindery.Proofs.Tree.Finding

/-!
# What writing does to files

Where a path leads by its steps alone, and what the operations of a tree that write below a place
leave as it was: every file that is not below the place (`Tree.KeepsFiles`).
-/

namespace Bindery

/-! ## Nodes -/

namespace FileNode

/-- The file at some names. -/
def fileAt (node : FileNode) (names : List String) : Option File :=
  match node.get? names with
  | some (.file f) => some f
  | _ => none

variable {parent child node : FileNode} {names other : List String} {name : String}

lemma fileAt_folder_cons (entries : List (String × FileNode)) (name : String)
    (rest : List String) :
    (FileNode.folder entries).fileAt (name :: rest)
      = (Sorted.lookup name entries).bind fun child => child.fileAt rest := by
  rw [fileAt, get?_folder_cons]
  cases Sorted.lookup name entries <;> rfl

/-- Putting a well-formed node under names keeps a node well-formed. -/
lemma WellFormed.put (h : parent.WellFormed) (hnames : ∀ name ∈ names, Path.IsName name)
    (hnode : node.WellFormed) : (parent.put names node).WellFormed := by
  induction names generalizing parent with
  | nil => exact hnode
  | cons name rest ih =>
    -- a file on the way is replaced by a folder, as if it had no entries
    have hentries : InOrder parent.entries ∧ (∀ entry ∈ parent.entries, Path.IsName entry.1) ∧
        ∀ entry ∈ parent.entries, entry.2.WellFormed := by
      cases h with
      | file f => exact ⟨.nil, by simp [entries], by simp [entries]⟩
      | folder entries horder hnames hnodes => exact ⟨horder, hnames, hnodes⟩
    obtain ⟨horder, hentryNames, hentryNodes⟩ := hentries
    have hchild : ((Sorted.lookup name parent.entries).getD (.folder [])).WellFormed := by
      cases hlookup : Sorted.lookup name parent.entries with
      | none => exact .folder [] .nil (by simp) (by simp)
      | some child => exact hentryNodes _ (Sorted.mem_of_lookup hlookup)
    have hput := ih hchild fun other hother => hnames other (List.mem_cons_of_mem _ hother)
    rw [FileNode.put]
    refine .folder _ (Sorted.inOrder_place horder) ?_ ?_
    · intro entry hentry
      rcases Sorted.mem_place hentry with rfl | hentry
      · exact hnames name List.mem_cons_self
      · exact hentryNames entry hentry
    · intro entry hentry
      rcases Sorted.mem_place hentry with rfl | hentry
      · exact hput
      · exact hentryNodes entry hentry

lemma isFolder_put (hne : names ≠ []) : (parent.put names node).isFolder := by
  cases names with
  | nil => exact absurd rfl hne
  | cons name rest => rfl

/-- Putting a node into a folder changes no file that is not below it. -/
lemma fileAt_put (hfolder : (parent.get? names.dropLast).any isFolder)
    (hother : ¬ names <+: other) :
    (parent.put names node).fileAt other = parent.fileAt other := by
  induction names generalizing parent other with
  | nil => exact absurd List.nil_prefix hother
  | cons name rest ih =>
    -- on the way to the new node there are folders only
    have hparent : ∃ entries, parent = .folder entries := by
      cases parent with
      | folder entries => exact ⟨entries, rfl⟩
      | file f => cases rest <;> simp [get?, isFolder, entries, Sorted.lookup] at hfolder
    obtain ⟨entries, rfl⟩ := hparent
    rw [put]
    cases other with
    | nil => rfl
    | cons first others =>
      rw [fileAt_folder_cons, fileAt_folder_cons]
      dsimp only [FileNode.entries]
      rw [Sorted.lookup_place]
      split
      · rename_i heq
        subst heq
        -- both go on below the same entry
        have hrest : ¬ rest <+: others := by
          intro hprefix
          exact hother (List.cons_prefix_cons.2 ⟨rfl, hprefix⟩)
        cases rest with
        | nil => exact absurd List.nil_prefix hrest
        | cons next rest =>
          rw [List.dropLast_cons_cons, get?_folder_cons] at hfolder
          cases hlookup : Sorted.lookup name entries with
          | none =>
            rw [hlookup] at hfolder
            simp at hfolder
          | some child =>
            rw [hlookup] at hfolder
            exact ih hfolder hrest
      · rfl

/-- What is put is found. -/
lemma get?_put (parent node : FileNode) (names : List String) :
    (parent.put names node).get? names = some node := by
  induction names generalizing parent with
  | nil => rfl
  | cons name rest ih =>
    rw [put, get?_folder_cons, Sorted.lookup_place, if_pos rfl]
    exact ih _

/-- Putting an empty folder where nothing is changes no file at all. -/
lemma fileAt_put_folder (hfolder : (parent.get? names.dropLast).any isFolder)
    (hnone : parent.get? names = none) (other : List String) :
    (parent.put names (.folder [])).fileAt other = parent.fileAt other := by
  by_cases hprefix : names <+: other
  · obtain ⟨rest, rfl⟩ := hprefix
    rw [fileAt, fileAt, get?_append, get?_append, get?_put, hnone]
    cases rest <;> rfl
  · exact fileAt_put hfolder hprefix

/-- Removing keeps a node well-formed. -/
lemma WellFormed.remove (h : parent.WellFormed) (names : List String) :
    (parent.remove names).WellFormed := by
  induction names generalizing parent with
  | nil => exact h
  | cons name rest ih =>
    cases h with
    | file f =>
      cases rest with
      | nil => exact .folder [] .nil (by simp) (by simp)
      | cons next rest => exact .file f
    | folder entries horder hnames hnodes =>
      cases rest with
      | nil =>
        refine .folder _ (horder.filter _) ?_ ?_
        · exact fun entry hentry => hnames entry (List.mem_filter.1 hentry).1
        · exact fun entry hentry => hnodes entry (List.mem_filter.1 hentry).1
      | cons next rest =>
        rw [FileNode.remove]
        · dsimp only [FileNode.entries]
          cases hlookup : Sorted.lookup name entries with
          | none => exact .folder entries horder hnames hnodes
          | some child =>
            have hmem := Sorted.mem_of_lookup hlookup
            have hname : Path.IsName name := hnames _ hmem
            have hremoved := ih (hnodes _ hmem)
            refine .folder _ (Sorted.inOrder_place horder) ?_ ?_
            · intro entry hentry
              rcases Sorted.mem_place hentry with rfl | hentry
              · exact hname
              · exact hnames entry hentry
            · intro entry hentry
              rcases Sorted.mem_place hentry with rfl | hentry
              · exact hremoved
              · exact hnodes entry hentry
        · simp

lemma isFolder_remove (h : parent.isFolder) (names : List String) :
    (parent.remove names).isFolder := by
  cases names with
  | nil => exact h
  | cons name rest =>
    cases rest with
    | nil => rfl
    | cons next rest =>
      rw [remove]
      · split
        · rfl
        · exact h
      · simp

/-- Taking a node away changes no file that is not below it. -/
lemma fileAt_remove (hsome : (parent.get? names).isSome) (hother : ¬ names <+: other) :
    (parent.remove names).fileAt other = parent.fileAt other := by
  induction names generalizing parent other with
  | nil => rfl
  | cons name rest ih =>
    cases parent with
    | file f => simp [get?_file_cons] at hsome
    | folder entries =>
      rw [get?_folder_cons] at hsome
      cases rest with
      | nil =>
        rw [remove]
        cases other with
        | nil => rfl
        | cons first others =>
          -- the last name: the entry itself goes, and the other names start elsewhere
          have hne : name ≠ first := by
            rintro rfl
            exact hother (List.cons_prefix_cons.2 ⟨rfl, List.nil_prefix⟩)
          rw [fileAt_folder_cons, fileAt_folder_cons]
          dsimp only [FileNode.entries]
          rw [Sorted.lookup_filter_ne, if_neg hne]
      | cons next rest =>
        rw [remove]
        · dsimp only [FileNode.entries]
          cases hlookup : Sorted.lookup name entries with
          | none => rfl
          | some child =>
            rw [hlookup] at hsome
            cases other with
            | nil => rfl
            | cons first others =>
              dsimp only
              rw [fileAt_folder_cons, fileAt_folder_cons, Sorted.lookup_place]
              split
              · rename_i heq
                subst heq
                rw [hlookup]
                refine ih hsome fun hprefix => ?_
                exact hother (List.cons_prefix_cons.2 ⟨rfl, hprefix⟩)
              · rfl
        · simp

end FileNode

/-! ## Trees -/

namespace Tree

/-- After something was written below a place the tree is well formed, and every file that is not
below the place is what it was. -/
structure KeepsFiles (area : List String) (t t' : Tree) : Prop where
  wellFormed : t'.WellFormed
  fileAt : ∀ names, ¬ area <+: names → t'.top.fileAt names = t.top.fileAt names

variable {t t' t'' : Tree} {area place : List String} {path : String} {bytes : List UInt8}

lemma KeepsFiles.refl (h : t.WellFormed) : KeepsFiles area t t := ⟨h, fun _ _ => rfl⟩

lemma KeepsFiles.trans (h : KeepsFiles area t t') (h' : KeepsFiles area t' t'') :
    KeepsFiles area t t'' :=
  ⟨h'.wellFormed, fun names hnames => (h'.fileAt names hnames).trans (h.fileAt names hnames)⟩

/-- Below a place that lies apart from the area every file is what it was. -/
lemma KeepsFiles.fileAt_below (h : KeepsFiles area t t') (hout : ¬ area <+: place)
    (hin : ¬ place <+: area) (names : List String) :
    t'.top.fileAt (place ++ names) = t.top.fileAt (place ++ names) := by
  apply h.fileAt
  -- one of the places would lie in the other
  intro hprefix
  rcases List.prefix_or_prefix_of_prefix hprefix (List.prefix_append place names) with h | h
  · exact hout h
  · exact hin h

/-- What has something below it is a folder. -/
lemma isFolder_of_append {first : List String} {name : String}
    (h : (t.get? (first ++ [name])).isSome) : (t.get? first).any FileNode.isFolder := by
  rw [get?_append] at h
  cases hfirst : t.get? first with
  | none =>
    rw [hfirst] at h
    cases h
  | some node =>
    cases node with
    | folder entries => rfl
    | file f =>
      rw [hfirst] at h
      cases h

/-- A walk that succeeds leads where the steps lead by themselves. -/
lemma walk_eq_follow {steps : List String} (h : t.walk place steps = some area) :
    area = Path.follow place (steps.filter fun s => s ≠ "" && s ≠ ".") := by
  induction steps generalizing place with
  | nil => exact (Option.some.inj h).symm
  | cons step rest ih =>
    rw [walk] at h
    split at h
    · split at h
      · rename_i hempty
        rw [List.filter_cons_of_neg (by simpa using fun hne => by simpa [hne] using hempty)]
        exact ih h
      · rename_i hkept
        rw [List.filter_cons_of_pos (by simpa using hkept), Path.follow]
        split at h
        · rename_i hdots
          rw [if_pos hdots]
          exact ih h
        · rename_i hdots
          rw [if_neg hdots]
          split at h
          · exact ih h
          · cases h
    · cases h

/-- What is above a folder is a folder. -/
lemma isFolder_above (h : (t.get? place.reverse).any FileNode.isFolder) :
    (t.get? (place.drop 1).reverse).any FileNode.isFolder := by
  cases place with
  | nil => exact h
  | cons name place =>
    rw [List.reverse_cons] at h
    rw [List.drop_one, List.tail_cons]
    have hsome : (t.get? (place.reverse ++ [name])).isSome := by
      cases hfound : t.get? (place.reverse ++ [name]) with
      | none =>
        rw [hfound] at h
        cases h
      | some node => rfl
    exact isFolder_of_append hsome

/-- A tree is still well formed after a node was put into one of its folders. -/
lemma WellFormed.put (ht : t.WellFormed) {names : List String} {name : String} {node : FileNode}
    (hfolder : (t.get? names).any FileNode.isFolder) (hname : Path.IsName name)
    (hnode : node.WellFormed) :
    ({ t with top := t.top.put (names ++ [name]) node } : Tree).WellFormed := by
  refine ⟨ht.top.put ?_ hnode, FileNode.isFolder_put (by simp)⟩
  intro other hother
  rcases List.mem_append.1 hother with hother | hother
  · cases hfound : t.get? names with
    | none =>
      rw [hfound] at hfolder
      cases hfolder
    | some found => exact (ht.top.get? hfound).2 other hother
  · rw [List.mem_singleton.1 hother]
    exact hname

/-- Making folders changes no file. -/
lemma makeFolders_spec (ht : t.WellFormed) {steps : List String}
    (hplace : (t.get? place.reverse).any FileNode.isFolder)
    (hsteps : ∀ step ∈ steps, step = ".." ∨ Path.IsName step)
    (h : t.makeFolders place steps = .ok t') :
    t'.WellFormed ∧ ∀ names, t'.top.fileAt names = t.top.fileAt names := by
  induction steps generalizing t place with
  | nil =>
    cases h
    exact ⟨ht, fun _ => rfl⟩
  | cons step rest ih =>
    have hrest : ∀ step ∈ rest, step = ".." ∨ Path.IsName step :=
      fun other hother => hsteps other (List.mem_cons_of_mem _ hother)
    rw [makeFolders] at h
    split at h
    · -- a step up
      exact ih ht (isFolder_above hplace) hrest h
    · rename_i hdots
      have hname := (hsteps step List.mem_cons_self).resolve_left hdots
      dsimp only at h
      split at h
      · -- the folder is there
        rename_i entries hfolder
        refine ih ht ?_ hrest h
        rw [List.reverse_cons, hfolder]
        rfl
      · cases h
      · -- a new folder
        rename_i hnone
        have hput := ht.put hplace hname (.folder [] .nil (by simp) (by simp))
        obtain ⟨hwell, hfiles⟩ := ih hput (by
          rw [List.reverse_cons]
          change (FileNode.get? _ (FileNode.put _ _ _)).any _
          rw [FileNode.get?_put]
          rfl) hrest h
        refine ⟨hwell, fun names => (hfiles names).trans ?_⟩
        refine FileNode.fileAt_put_folder ?_ hnone names
        rw [List.dropLast_concat]
        exact hplace

/-- A path is the way to a folder, without empty steps, and a name in it. -/
lemma steps_of_split {parent : List String} {name : String} (h : split path = some (parent, name)) :
    Path.steps path = parent ++ [name] ∧ Path.IsName name ∧
      parent.filter (fun s => s ≠ "" && s ≠ ".") = parent := by
  have hsteps : Path.steps path = parent ++ [name] ∧ name ≠ ".." := by
    rw [split] at h
    split at h
    · cases h
    · rename_i last first hreverse
      split at h
      · cases h
      · rename_i hdots
        cases h
        refine ⟨?_, hdots⟩
        rw [← List.reverse_reverse (Path.steps path), hreverse, List.reverse_cons]
  obtain ⟨hsteps, hdots⟩ := hsteps
  refine ⟨hsteps, ?_, ?_⟩
  · have hmem : name ∈ Path.steps path := by
      rw [hsteps]
      exact List.mem_append_right _ List.mem_cons_self
    exact (Path.isName_of_mem_steps hmem).resolve_left hdots
  · rw [List.filter_eq_self]
    intro step hstep
    have hmem : step ∈ Path.steps path := by
      rw [hsteps]
      exact List.mem_append_left _ hstep
    rw [Path.steps, List.mem_filter] at hmem
    exact hmem.2

/-- Writing a file changes no other file. -/
lemma write?_spec (ht : t.WellFormed) (harea : area <+: Path.target path)
    (h : t.write? path bytes = some t') : KeepsFiles area t t' := by
  rw [write?] at h
  obtain ⟨⟨parent, name⟩, hsplit, h⟩ := Option.bind_eq_some_iff.1 h
  obtain ⟨place, hwalk, h⟩ := Option.bind_eq_some_iff.1 h
  obtain ⟨hsteps, hname, hparent⟩ := steps_of_split hsplit
  -- the file is written where the steps lead by themselves
  have htarget : Path.target path = place.reverse ++ [name] := by
    rw [Path.target, hsteps, Path.follow_append, walk_eq_follow hwalk, hparent, Path.follow,
      if_neg hname.ne_dots, Path.follow, List.reverse_cons]
  rw [htarget] at harea
  dsimp only at h
  split at h
  · cases h
  · rename_i entries hfolder _
    cases h
    have hplace : (t.get? place.reverse).any FileNode.isFolder := by
      rw [hfolder]
      rfl
    refine ⟨ht.put hplace hname (.file _), ?_⟩
    intro names hnames
    refine FileNode.fileAt_put ?_ fun hprefix => hnames (harea.trans hprefix)
    rw [List.dropLast_concat]
    exact hplace
  · cases h

/-- Taking a folder away changes no file that is not in it. -/
lemma removeFolder?_spec (ht : t.WellFormed) (h : t.removeFolder? path = some t') :
    KeepsFiles (Path.target path) t t' := by
  rw [removeFolder?] at h
  obtain ⟨names, hlocate, h⟩ := Option.bind_eq_some_iff.1 h
  have htarget : names = Path.target path := by
    rw [locate?, Option.map_eq_some_iff] at hlocate
    obtain ⟨place, hwalk, rfl⟩ := hlocate
    rw [walk_eq_follow hwalk]
    rfl
  rw [← htarget]
  split at h
  · rename_i entries hfolder
    cases h
    refine ⟨⟨ht.top.remove names, FileNode.isFolder_remove ht.isFolder names⟩, ?_⟩
    intro other hother
    refine FileNode.fileAt_remove ?_ hother
    change (t.get? names).isSome
    rw [hfolder]
    rfl
  · cases h

end Tree
end Bindery
