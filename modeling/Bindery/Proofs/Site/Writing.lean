import Bindery.Proofs.Site.Updating
import Bindery.Proofs.Tree.Writing

/-!
# What a build does to files

A build writes below the output folder only. If the output folder and the content folder lie apart,
it leaves the content files as they were (`Site.sameContent_write`).
-/

namespace Bindery

/-! ## The pages of a build -/

/-- What is put out at a url is one of the pages. -/
lemma ModuleGraph.exists_of_mem_output {g : ModuleGraph} {settings : BuildSettings}
    {entry : String × RenderedPage} (h : entry ∈ (g.output settings).entries) :
    ∃ page ∈ g.pages, entry.1 = page.url := by
  have hfold : ∀ (found : List Page) (render : Page → RenderedPage)
      (pages : Sorted RenderedPage), entry ∈ (found.foldl (fun pages page =>
        pages.insert page.url (render page)) pages).entries →
      entry ∈ pages.entries ∨ ∃ page ∈ found, entry.1 = page.url := by
    intro found render
    induction found with
    | nil => exact fun pages h => .inl h
    | cons page rest ih =>
      intro pages h
      rcases ih _ h with h | ⟨other, hother, hurl⟩
      · rcases Sorted.mem_place h with rfl | h
        · exact .inr ⟨page, List.mem_cons_self, rfl⟩
        · exact .inl h
      · exact .inr ⟨other, List.mem_cons_of_mem _ hother, hurl⟩
  exact (hfold g.pages _ .empty h).resolve_left List.not_mem_nil

/-- The url of a page that is put out consists of names. -/
lemma ModuleGraph.exists_names_of_mem_output {g : ModuleGraph} {settings : BuildSettings}
    {entry : String × RenderedPage} (h : entry ∈ (g.output settings).entries) :
    ∃ names, (∀ name ∈ names, Path.IsName name) ∧ entry.1 = "/".intercalate names := by
  obtain ⟨page, hpage, hurl⟩ := exists_of_mem_output h
  rw [pages, List.mem_flatMap] at hpage
  obtain ⟨id, -, hpage⟩ := hpage
  rw [pagesOf, List.mem_filterMap] at hpage
  obtain ⟨own, -, hnormalized⟩ := hpage
  rw [Page.normalized?] at hnormalized
  split at hnormalized
  · cases hnormalized
  · rw [Option.map_eq_some_iff] at hnormalized
    obtain ⟨url, hnormalize, rfl⟩ := hnormalized
    obtain ⟨names, -, hnames, hurlNames⟩ := Link.exists_names_of_normalize hnormalize
    exact ⟨names, hnames, hurl.trans hurlNames⟩

namespace Site

variable {config : Config} {settings : BuildSettings} {tree tree' : Tree} {area : List String}
variable {path : String} {bytes : List UInt8} {failed : SiteError}

/-! ## Writing below the output folder -/

/-- Writing a file changes files at its place only. -/
lemma writeFile_spec (ht : tree.WellFormed) (harea : area <+: Path.target path) :
    tree.KeepsFiles area (writeFile tree path bytes failed).2 := by
  rw [writeFile, makeFolderOf]
  cases hfolders : tree.makeFolders [] (Path.steps path).dropLast with
  | error e => exact .refl ht
  | ok made =>
    have htop : (tree.get? ([] : List String).reverse).any FileNode.isFolder := ht.isFolder
    have hsteps : ∀ step ∈ (Path.steps path).dropLast, step = ".." ∨ Path.IsName step :=
      fun step hstep => Path.isName_of_mem_steps (List.dropLast_subset _ hstep)
    obtain ⟨hmade, hfiles⟩ := Tree.makeFolders_spec ht htop hsteps hfolders
    have hkeeps : tree.KeepsFiles area made := ⟨hmade, fun names _ => hfiles names⟩
    dsimp only [Except.mapError]
    split
    · rename_i written hwrite
      exact hkeeps.trans (Tree.write?_spec hmade harea hwrite)
    · exact hkeeps

/-- Writing a page changes files below the output folder only. -/
lemma writePage_spec (ht : tree.WellFormed) {page : String × RenderedPage}
    (hurl : ∃ names, (∀ name ∈ names, Path.IsName name) ∧ page.1 = "/".intercalate names) :
    tree.KeepsFiles (Path.target settings.output) (writePage settings tree page).2 := by
  obtain ⟨names, hnames, hurl⟩ := hurl
  refine writeFile_spec ht ?_
  rw [hurl, Path.target_join hnames]
  exact List.prefix_append _ _

/-- Copying a file changes files below the output folder only. -/
lemma copyFile_spec (ht : tree.WellFormed)
    (hpath : ∃ names, (∀ name ∈ names, Path.IsName name) ∧
      path = Path.along settings.content names) :
    tree.KeepsFiles (Path.target settings.output) (copyFile settings tree path).2 := by
  obtain ⟨names, hnames, rfl⟩ := hpath
  rw [copyFile, Path.below?_along hnames]
  dsimp only [Option.getD_some]
  split
  · exact .refl ht
  · split
    · refine writeFile_spec ht ?_
      rw [Path.target_join hnames]
      exact List.prefix_append _ _
    · exact .refl ht

/-- Several steps change files where each of them does. -/
lemma forEach_spec {α : Type} {act : Tree → α → Except SiteError Unit × Tree} {items : List α}
    (ht : tree.WellFormed)
    (hact : ∀ item ∈ items, ∀ t : Tree, t.WellFormed → t.KeepsFiles area (act t item).2) :
    tree.KeepsFiles area (forEach act tree items).2 := by
  induction items generalizing tree with
  | nil => exact .refl ht
  | cons item rest ih =>
    have hfirst := hact item List.mem_cons_self tree ht
    rw [forEach]
    split
    · rename_i t hdone
      rw [hdone] at hfirst
      exact hfirst.trans (ih hfirst.wellFormed fun other hother =>
        hact other (List.mem_cons_of_mem _ hother))
    · rename_i t hdone
      rw [hdone] at hfirst
      exact hfirst

/-- Clearing the output changes files below the output folder only. -/
lemma clear_spec (ht : tree.WellFormed) (h : clear settings tree = .ok tree') :
    tree.KeepsFiles (Path.target settings.output) tree' := by
  rw [clear] at h
  split at h
  · split at h
    · rename_i cleared hremove
      cases h
      exact Tree.removeFolder?_spec ht hremove
    · cases h
  · cases h
    exact .refl ht

lemma exists_names_of_mem_sources {t : Tree} (ht : t.WellFormed) {content : String}
    (h : path ∈ sources t content) :
    ∃ names, (∀ name ∈ names, Path.IsName name) ∧ path = Path.along content names := by
  rw [sources, List.mem_filter, List.mem_map] at h
  obtain ⟨⟨⟨_, f⟩, hmem, rfl⟩, -⟩ := h
  obtain ⟨names, hnames, hpath, -⟩ := ht.mem_filesBelow.1 hmem
  exact ⟨names, hnames, hpath⟩

/-- Writing what a build put out changes no file outside of the output folder. -/
lemma write_spec (ht : tree.WellFormed) {b : Build}
    (hpages : ∀ page ∈ b.pages,
      ∃ names, (∀ name ∈ names, Path.IsName name) ∧ page.1 = "/".intercalate names) :
    tree.KeepsFiles (Path.target settings.output) (write settings tree b).2 := by
  rw [write]
  split
  · exact .refl ht
  · rename_i cleared hclear
    have hcleared := clear_spec ht hclear
    have hwritten : cleared.KeepsFiles (Path.target settings.output)
        (forEach (writePage settings) cleared b.pages).2 :=
      forEach_spec hcleared.wellFormed fun page hpage t ht => writePage_spec ht (hpages page hpage)
    split
    · rename_i t hdone
      rw [hdone] at hwritten
      exact hcleared.trans hwritten
    · rename_i t hdone
      rw [hdone] at hwritten
      refine (hcleared.trans hwritten).trans (forEach_spec hwritten.wellFormed ?_)
      -- the files to copy were listed before, in another tree than the one they are copied in
      intro path hpath t' ht'
      exact copyFile_spec ht'
        (exists_names_of_mem_sources hwritten.wellFormed (List.mem_filter.1 hpath).1)

/-! ## Content files -/

/-- Neither of the content folder and the output folder lies in the other one; the path of the
content folder makes no detours. -/
structure Apart (config : Config) : Prop where
  content : ∃ names, (∀ name ∈ names, Path.IsName name) ∧
    config.build.content = Path.ofSteps names ∧
    ¬ Path.target config.build.output <+: names ∧ ¬ names <+: Path.target config.build.output

/-- A path below the content folder is a file if there is one at its names. -/
lemma file?_along {names other : List String} (ht : tree.WellFormed)
    (hnames : ∀ name ∈ names, Path.IsName name) (hother : ∀ name ∈ other, Path.IsName name) :
    tree.file? (Path.along (Path.ofSteps names) other) = tree.top.fileAt (names ++ other) := by
  have hfind : tree.find? (Path.along (Path.ofSteps names) other)
      = tree.top.get? (names ++ other) := by
    rw [Tree.find?_along hother, ht.find?_ofSteps hnames]
    exact (tree.get?_append names other).symm
  rw [Tree.file?, hfind]
  rfl

/-- What is written below an output folder that lies apart changes no content file. -/
lemma sameContent_of_keepsFiles (hapart : Apart config) (ht : tree.WellFormed)
    (hfolder : tree.isFile config.build.content = false)
    (h : tree.KeepsFiles (Path.target config.build.output) tree') :
    SameContent config tree tree' := by
  obtain ⟨names, hnames, hcontent, houtput, hinput⟩ := hapart.content
  have hfile : ∀ other, (∀ name ∈ other, Path.IsName name) →
      tree'.file? (Path.along config.build.content other)
        = tree.file? (Path.along config.build.content other) := by
    intro other hother
    rw [hcontent, file?_along h.wellFormed hnames hother, file?_along ht hnames hother,
      h.fileAt_below houtput hinput]
  constructor
  · intro other hother
    rw [bytes?, bytes?, pathOf, hfile other hother.isName]
  · rw [Tree.isFile] at hfolder ⊢
    exact (congrArg Option.isSome (hfile [] (by simp))).trans hfolder

end Site
end Bindery
