import Bindery.Proofs.Resolver.Invalidation
import Bindery.Proofs.Tree.Finding
import Bindery.Site

/-!
# Content files and modules

Which content file is the module of an id, and the graph that a tree gives: under the id of every
content file there is what the file compiles to, and there is nothing else (`Site.GraphOf`).
Loading gives just this graph (`Site.load_spec`).
-/

namespace Bindery

namespace Site

variable {config : Config} {tree tree' : Tree} {names other : List String} {path : String}

/-! ## Content files -/

/-- The names from the content folder of a file that is no ignored one. -/
structure IsSource (names : List String) : Prop where
  ne_nil : names ≠ []
  isName : ∀ name ∈ names, Path.IsName name
  kept : ∀ name, names.getLast? = some name → name ∉ ignoredNames

/-- The path of a content file. -/
def pathOf (config : Config) (names : List String) : String :=
  Path.along config.build.content names

/-- The id of a content file. -/
def idOf (names : List String) : String := "/".intercalate names

/-- Different content files have different ids. -/
lemma idOf_inj (h : IsSource names) (hother : IsSource other) (heq : idOf names = idOf other) :
    names = other := by
  rw [← Link.segments_intercalate h.ne_nil fun name hname => (h.isName name hname).not_mem,
    ← Link.segments_intercalate hother.ne_nil fun name hname => (hother.isName name hname).not_mem]
  exact congrArg Link.segments heq

/-- The module of a content file is named by its path below the content folder. -/
lemma moduleId?_pathOf (config : Config) (h : IsSource names) :
    moduleId? config.build.content (pathOf config names) = some (idOf names) := by
  rw [moduleId?, pathOf, Path.below?_along h.isName]
  cases names with
  | nil => exact absurd rfl h.ne_nil
  | cons name rest => rfl

/-- The files that are listed are the content files, unless the content folder is a file. -/
lemma mem_sources (hwell : tree.WellFormed) (hfolder : tree.isFile config.build.content = false) :
    path ∈ sources tree config.build.content ↔
      ∃ names, IsSource names ∧ path = pathOf config names ∧ tree.isFile path := by
  rw [sources, List.mem_filter, List.mem_map]
  constructor
  · rintro ⟨⟨⟨_, f⟩, hmem, rfl⟩, hkept⟩
    obtain ⟨names, hnames, hpath, hfile⟩ := hwell.mem_filesBelow.1 hmem
    dsimp only at hpath hkept ⊢
    subst hpath
    have hisFile : tree.isFile (Path.along config.build.content names) := by
      rw [Tree.isFile, hfile]
      rfl
    -- no names lead to the content folder, which is no file
    have hne : names ≠ [] := by
      rintro rfl
      rw [Path.along, List.foldl_nil, hfolder] at hisFile
      exact absurd hisFile Bool.false_ne_true
    refine ⟨names, ⟨hne, hnames, ?_⟩, rfl, hisFile⟩
    intro name hlast hignored
    rw [Path.steps_along hnames, List.getLast?_append_of_ne_nil _ hne, hlast] at hkept
    simp [hignored] at hkept
  · rintro ⟨names, hsource, rfl, hfile⟩
    rw [Tree.isFile, Option.isSome_iff_exists] at hfile
    obtain ⟨f, hfile⟩ := hfile
    refine ⟨⟨(_, f), hwell.mem_filesBelow.2 ⟨names, hsource.isName, rfl, hfile⟩, rfl⟩, ?_⟩
    rw [pathOf, Path.steps_along hsource.isName, List.getLast?_append_of_ne_nil _ hsource.ne_nil]
    cases hlast : names.getLast? with
    | none => rfl
    | some name => simpa using hsource.kept name hlast

/-! ## Compiling -/

/-- What is in the file at a path. -/
def bytes? (tree : Tree) (path : String) : Option (List UInt8) := (tree.file? path).map File.bytes

/-- Whether there is a file is seen from its bytes. -/
lemma isFile_congr (h : bytes? tree path = bytes? tree' path) :
    tree.isFile path = tree'.isFile path := by
  rw [bytes?, bytes?] at h
  rw [Tree.isFile, Tree.isFile, ← Option.isSome_map (f := File.bytes), h, Option.isSome_map]

/-- A file is compiled by its path and what is in it. -/
lemma compile_congr (h : bytes? tree path = bytes? tree' path) :
    compile config tree path = compile config tree' path := by
  have htext : tree.readText? path = tree'.readText? path := by
    have hbind := congrArg (fun bytes => bytes.bind Text.ofBytes?) h
    dsimp only [bytes?] at hbind
    rwa [Option.bind_map, Option.bind_map] at hbind
  rw [compile, compile, htext]

lemma document_compile_id {options : DocumentOptions} {id text : String} {d : Document}
    (h : Document.compile options id text = .ok d) : d.id = id := by
  rw [Document.compile] at h
  split at h
  swap
  · cases h
  obtain ⟨⟨front, body⟩, -, h⟩ := bind_eq_ok.1 h
  obtain ⟨attributes, -, h⟩ := bind_eq_ok.1 h
  obtain ⟨source, -, h⟩ := bind_eq_ok.1 h
  obtain ⟨code, -, h⟩ := bind_eq_ok.1 h
  obtain ⟨url, -, h⟩ := bind_eq_ok.1 h
  obtain ⟨template, -, h⟩ := bind_eq_ok.1 h
  obtain ⟨toc, -, h⟩ := bind_eq_ok.1 h
  cases h
  rfl

/-- The kind of a content file can be told by its id. -/
lemma ofPath_of_moduleId? {content id : String} (h : moduleId? content path = some id) :
    SourceKind.ofPath id = SourceKind.ofPath path := by
  rw [moduleId?] at h
  split at h
  · cases h
  · cases h
  · rename_i steps hne hbelow
    cases h
    have hpath := Path.steps_eq_of_below? hbelow
    have hsteps : ∀ step ∈ steps, step = ".." ∨ Path.IsName step := by
      intro step hstep
      have hmem : step ∈ Path.steps path := by
        rw [hpath]
        exact List.mem_append_right _ hstep
      exact Path.isName_of_mem_steps hmem
    -- the id and the path end in the same step
    have hextension : Path.extension? ("/".intercalate steps) = Path.extension? path := by
      rw [Path.extension?, Path.extension?, hpath, Path.steps_intercalate_of_steps hsteps,
        List.getLast?_append_of_ne_nil _ hne]
    rw [SourceKind.ofPath, SourceKind.ofPath, hextension]

/-- What is known of a compiled content file without what is in it. -/
structure IsCompiled (source : Source) : Prop where
  kind : source.document = none ↔ SourceKind.ofPath source.id = .static
  document : ∀ d, source.document = some (.ok d) → d.id = source.id

/-- What a path is compiled to is named by it. -/
lemma moduleId?_of_compile {source : Source} (h : compile config tree path = .ok source) :
    moduleId? config.build.content path = some source.id := by
  rw [compile] at h
  split at h
  · cases h
  · rename_i id hid
    rw [hid]
    dsimp only at h
    split at h
    · cases h
      rfl
    all_goals
      split at h
      · cases h
      · cases h
        rfl

/-- What a path is compiled to is compiled. -/
lemma isCompiled_of_compile {source : Source} (h : compile config tree path = .ok source) :
    IsCompiled source := by
  have hkind := ofPath_of_moduleId? (moduleId?_of_compile h)
  have hdocument : ∀ options id text d,
      some (Document.compile options id text) = some (.ok d) → d.id = id := by
    intro options id text d hd
    exact document_compile_id (Option.some.inj hd)
  rw [compile] at h
  split at h
  · cases h
  · dsimp only at h
    split at h
    · rename_i hstatic
      cases h
      exact ⟨by simp [hkind, hstatic], by simp⟩
    all_goals
      rename_i hother
      split at h
      · cases h
      · cases h
        exact ⟨by simp [hkind, hother], hdocument _ _ _⟩

/-- What a content file is compiled to is named by its names. -/
lemma id_of_compile {source : Source} (h : IsSource names)
    (hcompile : compile config tree (pathOf config names) = .ok source) :
    source.id = idOf names := by
  have hid := moduleId?_of_compile hcompile
  rw [moduleId?_pathOf config h] at hid
  exact (Option.some.inj hid).symm

/-! ## The graph of a tree -/

/-- What a content file is in a graph. -/
def entryOf (source : Source) : SourceEntry :=
  match source.document with
  | some (.ok d) => .module source.resource (.ok (.ofDocument d)) d.dependencies
  | some (.error e) => .module source.resource (.error (": ".intercalate e.chain)) []
  | none => .static source.resource

/-- Entering a source changes its own entry only. -/
lemma find?_enter (graph : SourceGraph) (source : Source) (id : String) :
    (enter graph source).entries.find? id
      = if source.id = id then some (entryOf source) else graph.entries.find? id := by
  rw [enter, entryOf]
  split
  · rename_i compiled hdocument
    rw [hdocument]
    cases compiled <;> exact Sorted.find?_insert
  · rename_i hdocument
    rw [SourceGraph.insertStatic, Sorted.find?_insert, hdocument]

lemma publicPath_enter (graph : SourceGraph) (source : Source) :
    (enter graph source).publicPath = graph.publicPath := by
  rw [enter]
  split <;> rfl

/-- What the graph of a tree holds of a content file. -/
def entryIn (config : Config) (tree : Tree) (names : List String) : Option SourceEntry :=
  if tree.isFile (pathOf config names) then
    (compile config tree (pathOf config names)).toOption.map entryOf
  else none

/-- The entry of a content file depends on its bytes only. -/
lemma entryIn_congr (h : bytes? tree (pathOf config names) = bytes? tree' (pathOf config names)) :
    entryIn config tree names = entryIn config tree' names := by
  rw [entryIn, entryIn, isFile_congr h, compile_congr h]

/-- Every content file can be read, and the content folder is no file. -/
structure Readable (config : Config) (tree : Tree) : Prop where
  folder : tree.isFile config.build.content = false
  compiles : ∀ names, IsSource names → tree.isFile (pathOf config names) →
    ∃ source, compile config tree (pathOf config names) = .ok source

/-- A graph holds what some entries by names are, and nothing else. -/
structure Holds (config : Config) (entries : List String → Option SourceEntry)
    (graph : SourceGraph) : Prop where
  publicPath : graph.publicPath = config.build.publicPath
  found : ∀ names, IsSource names → graph.entries.find? (idOf names) = entries names
  only : ∀ id entry, graph.entries.find? id = some entry → ∃ names, IsSource names ∧ id = idOf names

lemma Holds.eq {entries : List String → Option SourceEntry} {graph graph' : SourceGraph}
    (h : Holds config entries graph) (h' : Holds config entries graph') : graph = graph' := by
  have hentries : graph.entries = graph'.entries := by
    apply Sorted.ext_find?
    intro id
    by_cases hid : ∃ names, IsSource names ∧ id = idOf names
    · obtain ⟨names, hsource, rfl⟩ := hid
      rw [h.found names hsource, h'.found names hsource]
    · have hnone : ∀ {g : SourceGraph}, Holds config entries g → g.entries.find? id = none := by
        intro g hg
        cases hfind : g.entries.find? id with
        | none => rfl
        | some entry => exact absurd (hg.only id entry hfind) hid
      rw [hnone h, hnone h']
  have hpath : graph.publicPath = graph'.publicPath := by rw [h.publicPath, h'.publicPath]
  cases graph
  cases graph'
  cases hentries
  cases hpath
  rfl

/-- What a graph holds depends on the entries of content files only. -/
lemma Holds.congr {entries entries' : List String → Option SourceEntry} {graph : SourceGraph}
    (h : Holds config entries graph)
    (heq : ∀ names, IsSource names → entries names = entries' names) :
    Holds config entries' graph :=
  ⟨h.publicPath, fun names hnames => (h.found names hnames).trans (heq names hnames), h.only⟩

/-- The graph that a tree gives. -/
def GraphOf (config : Config) (tree : Tree) (graph : SourceGraph) : Prop :=
  Holds config (entryIn config tree) graph

/-! ## Loading -/

/-- Everything in a list is mapped to something in the result, and nothing else is there. -/
lemma mem_of_mapM_eq_ok {ε α β : Type} {f : α → Except ε β} {xs : List α} {ys : List β}
    (h : xs.mapM f = .ok ys) :
    (∀ x ∈ xs, ∃ y ∈ ys, f x = .ok y) ∧ ∀ y ∈ ys, ∃ x ∈ xs, f x = .ok y := by
  induction xs generalizing ys with
  | nil =>
    cases h
    exact ⟨by simp, by simp⟩
  | cons x rest ih =>
    rw [List.mapM_cons] at h
    obtain ⟨y, hy, h⟩ := bind_eq_ok.1 h
    obtain ⟨others, hothers, h⟩ := bind_eq_ok.1 h
    cases h
    obtain ⟨hleft, hright⟩ := ih hothers
    constructor
    · intro x' hx'
      rcases List.mem_cons.1 hx' with rfl | hx'
      · exact ⟨y, List.mem_cons_self, hy⟩
      · obtain ⟨y', hy', hf⟩ := hleft x' hx'
        exact ⟨y', List.mem_cons_of_mem _ hy', hf⟩
    · intro y' hy'
      rcases List.mem_cons.1 hy' with rfl | hy'
      · exact ⟨x, List.mem_cons_self, hy⟩
      · obtain ⟨x', hx', hf⟩ := hright y' hy'
        exact ⟨x', List.mem_cons_of_mem _ hx', hf⟩

/-- A list is mapped if each of its members is. -/
lemma exists_mapM_eq_ok {ε α β : Type} {f : α → Except ε β} {xs : List α}
    (h : ∀ x ∈ xs, ∃ y, f x = .ok y) : ∃ ys, xs.mapM f = .ok ys := by
  induction xs with
  | nil => exact ⟨[], rfl⟩
  | cons x rest ih =>
    obtain ⟨y, hy⟩ := h x List.mem_cons_self
    obtain ⟨ys, hys⟩ := ih fun other hother => h other (List.mem_cons_of_mem _ hother)
    refine ⟨y :: ys, ?_⟩
    rw [List.mapM_cons, hy, hys]
    rfl

/-- Entering sources changes what is found under their ids, and nothing else. -/
lemma find?_foldl_enter (found : List Source) (graph : SourceGraph) (id : String) :
    (∃ source ∈ found, source.id = id ∧
        (found.foldl enter graph).entries.find? id = some (entryOf source)) ∨
      ((∀ source ∈ found, source.id ≠ id) ∧
        (found.foldl enter graph).entries.find? id = graph.entries.find? id) := by
  -- the last source under an id counts, so the rest is asked first
  induction found generalizing graph with
  | nil => exact .inr ⟨by simp, rfl⟩
  | cons first rest ih =>
    rw [List.foldl_cons]
    obtain ⟨source, hmem, hid, hfind⟩ | ⟨hnone, hfind⟩ := ih (enter graph first)
    · exact .inl ⟨source, List.mem_cons_of_mem _ hmem, hid, hfind⟩
    · rw [find?_enter] at hfind
      by_cases hfirst : first.id = id
      · rw [if_pos hfirst] at hfind
        exact .inl ⟨first, List.mem_cons_self, hfirst, hfind⟩
      · rw [if_neg hfirst] at hfind
        refine .inr ⟨?_, hfind⟩
        intro source hmem
        rcases List.mem_cons.1 hmem with rfl | hmem
        · exact hfirst
        · exact hnone source hmem

lemma publicPath_foldl_enter (found : List Source) (graph : SourceGraph) :
    (found.foldl enter graph).publicPath = graph.publicPath := by
  induction found generalizing graph with
  | nil => rfl
  | cons first rest ih => rw [List.foldl_cons, ih, publicPath_enter]

/-- Sources that are compiled from all content files of a tree make up its graph. -/
lemma graphOf_foldl_enter (hwell : tree.WellFormed)
    (hfolder : tree.isFile config.build.content = false) {found : List Source}
    (hfound : (sources tree config.build.content).mapM (compile config tree) = .ok found) :
    GraphOf config tree (found.foldl enter { publicPath := config.build.publicPath }) := by
  obtain ⟨hcompiled, hsource⟩ := mem_of_mapM_eq_ok hfound
  -- ids are not shared, so it does not matter in which order the sources are entered
  have horigin : ∀ source ∈ found, ∃ names, IsSource names ∧ source.id = idOf names ∧
      entryIn config tree names = some (entryOf source) := by
    intro source hmem
    obtain ⟨path, hpath, hcompile⟩ := hsource source hmem
    obtain ⟨names, hnames, rfl, hfile⟩ := (mem_sources hwell hfolder).1 hpath
    refine ⟨names, hnames, id_of_compile hnames hcompile, ?_⟩
    rw [entryIn, if_pos hfile, hcompile]
    rfl
  refine ⟨publicPath_foldl_enter found _, ?_, ?_⟩
  · intro names hnames
    obtain ⟨source, hmem, hid, hfind⟩ | ⟨hnone, hfind⟩ := find?_foldl_enter found
      { publicPath := config.build.publicPath } (idOf names)
    · obtain ⟨other, hother, hotherId, hentry⟩ := horigin source hmem
      have heq : other = names := idOf_inj hother hnames (hotherId.symm.trans hid)
      rw [hfind, ← hentry, heq]
    · rw [hfind, entryIn]
      split
      · rename_i hfile
        obtain ⟨source, hmem, hcompile⟩ :=
          hcompiled _ ((mem_sources hwell hfolder).2 ⟨names, hnames, rfl, hfile⟩)
        exact absurd (id_of_compile hnames hcompile) (hnone source hmem)
      · rfl
  · intro id entry hentry
    obtain ⟨source, hmem, hid, -⟩ | ⟨-, hfind⟩ := find?_foldl_enter found
      { publicPath := config.build.publicPath } id
    · obtain ⟨names, hnames, hnamesId, -⟩ := horigin source hmem
      exact ⟨names, hnames, hid.symm.trans hnamesId⟩
    · rw [hfind] at hentry
      cases hentry

/-- A loaded site has the graph of the tree and nothing in its cache. -/
lemma load_spec (hwell : tree.WellFormed)
    (hfolder : tree.isFile config.build.content = false) {site : Site}
    (h : (ofConfig config).load tree = .ok site) :
    site.config = config ∧ GraphOf config tree site.graph ∧ Readable config tree ∧
      site.resolver = { settings := config.build } := by
  rw [load] at h
  obtain ⟨found, hfound, h⟩ := bind_eq_ok.1 h
  cases h
  have hsources : ∀ path ∈ sources tree config.build.content,
      ∃ source, compile config tree path = .ok source := by
    intro path hpath
    obtain ⟨source, -, hcompile⟩ := (mem_of_mapM_eq_ok hfound).1 path hpath
    exact ⟨source, hcompile⟩
  refine ⟨rfl, graphOf_foldl_enter hwell hfolder hfound, ⟨hfolder, ?_⟩, rfl⟩
  intro names hnames hfile
  exact hsources _ ((mem_sources hwell hfolder).2 ⟨names, hnames, rfl, hfile⟩)

/-- A tree whose content files can all be read loads. -/
lemma exists_load_eq_ok (hwell : tree.WellFormed) (h : Readable config tree) :
    ∃ site, (ofConfig config).load tree = .ok site := by
  have hsources : ∀ path ∈ sources tree config.build.content,
      ∃ source, compile config tree path = .ok source := by
    intro path hpath
    obtain ⟨names, hnames, rfl, hfile⟩ := (mem_sources hwell h.folder).1 hpath
    exact h.compiles names hnames hfile
  obtain ⟨found, hfound⟩ := exists_mapM_eq_ok hsources
  rw [load]
  exact ⟨_, bind_eq_ok.2 ⟨found, hfound, rfl⟩⟩

end Site
end Bindery
