import Bindery.Proofs.Site.Edits

/-!
# Bringing sites up to date

A site is in step with a tree if its graph is the graph of the tree and its cache is coherent with
it. Loading brings a site in step, a build keeps it so, and an update that succeeds and is told of
every file that differs brings it in step with the changed tree (`Site.InStep.update`). Between two
paths of an update the graph holds what the files done so far are now and what the others were.
-/

namespace Bindery

namespace Site

variable {config : Config} {before after tree : Tree} {names other : List String} {path : String}
variable {site site' : Site} {changes changes' : Changes}

/-- A site is what would be loaded from a tree, and what it keeps would be rendered again. -/
structure InStep (config : Config) (tree : Tree) (site : Site) : Prop where
  under : site.config = config
  settings : site.resolver.settings = config.build
  graph : GraphOf config tree site.graph
  readable : Readable config tree
  cache : site.resolver.cache.Coherent site.graph.toGraph config.build

/-- Two trees have the same content files, and the content folder is still no file. -/
structure SameContent (config : Config) (before after : Tree) : Prop where
  files : ∀ names, IsSource names →
    bytes? before (pathOf config names) = bytes? after (pathOf config names)
  folder : after.isFile config.build.content = false

/-- Every content file that differs between two trees is among some paths. -/
def Covers (config : Config) (before after : Tree) (paths : List String) : Prop :=
  ∀ names, IsSource names →
    bytes? before (pathOf config names) ≠ bytes? after (pathOf config names) →
      pathOf config names ∈ paths

/-- A path leads to a content file or out of the content folder. -/
def IsWatched (config : Config) (path : String) : Prop :=
  moduleId? config.build.content path = none ∨ ∃ names, IsSource names ∧ path = pathOf config names

/-- Two content files have different paths. -/
lemma pathOf_inj (h : IsSource names) (hother : IsSource other)
    (heq : pathOf config names = pathOf config other) : names = other := by
  have hnames := Path.below?_along h.isName config.build.content
  have hothers := Path.below?_along hother.isName config.build.content
  rw [pathOf, pathOf] at heq
  rw [heq] at hnames
  exact Option.some.inj (hnames.symm.trans hothers)

/-! ## Loading and building -/

lemma GraphOf.compiled {graph : SourceGraph} (h : GraphOf config tree graph) :
    Compiled graph :=
  Holds.compiled h fun _ _ hnames hentry => exists_of_entry? hnames hentry

/-- A site that is loaded is in step with the tree. -/
lemma inStep_of_load (hwell : tree.WellFormed) (hfolder : tree.isFile config.build.content = false)
    (h : (ofConfig config).load tree = .ok site) : InStep config tree site := by
  obtain ⟨hconfig, hgraph, hreadable, hresolver⟩ := load_spec hwell hfolder h
  refine ⟨hconfig, by rw [hresolver], hgraph, hreadable, ?_⟩
  rw [hresolver]
  exact Cache.coherent_of_empty rfl rfl

/-- A site that is in step puts out the pages of its graph, and stays in step. -/
lemma InStep.build (h : InStep config tree site) (now : Tree) :
    (site.resolver.build site.graph.toGraph).1.pages
        = (site.graph.toGraph.output config.build).entries ∧
      InStep config tree (site.build now).2.1 := by
  have hsound : Sound config false site :=
    ⟨h.settings, GraphOf.compiled h.graph, fun _ => h.cache⟩
  have hbuilt := hsound.build now
  exact ⟨hsound.pages_build, h.under, hbuilt.settings, h.graph, h.readable, hbuilt.cache rfl⟩

/-- A site in step with one tree is in step with every tree of the same content files. -/
lemma InStep.congr (h : InStep config before site) (hsame : SameContent config before after) :
    InStep config after site := by
  refine ⟨h.under, h.settings, ?_, ⟨hsame.folder, ?_⟩, h.cache⟩
  · exact Holds.congr h.graph fun names hnames => entryIn_congr (hsame.files names hnames)
  · intro names hnames hfile
    rw [← isFile_congr (hsame.files names hnames)] at hfile
    obtain ⟨source, hsource⟩ := h.readable.compiles names hnames hfile
    exact ⟨source, by rw [← compile_congr (hsame.files names hnames), hsource]⟩

/-! ## Updating -/

open Classical in
/-- What the content files are after some paths were brought up to date. -/
noncomputable def entryBetween (config : Config) (before after : Tree) (done : List String)
    (names : List String) : Option SourceEntry :=
  if pathOf config names ∈ done then entryIn config after names else entryIn config before names

/-- A site in the course of an update; once the structure has changed, the cache is going to be
cleared. -/
structure Between (config : Config) (before after : Tree) (done : List String) (structural : Bool)
    (site : Site) : Prop where
  under : site.config = config
  settings : site.resolver.settings = config.build
  graph : Holds config (entryBetween config before after done) site.graph
  compiles : ∀ names, IsSource names → pathOf config names ∈ done →
    after.isFile (pathOf config names) →
    ∃ source, Site.compile config after (pathOf config names) = .ok source
  cache : structural = false → site.resolver.cache.Coherent site.graph.toGraph config.build

variable {done : List String} {structural : Bool}

lemma entryBetween_cons_self :
    entryBetween config before after (pathOf config names :: done) names
      = entryIn config after names := by
  rw [entryBetween, if_pos List.mem_cons_self]

lemma entryBetween_cons_of_ne (hne : pathOf config names ≠ path) :
    entryBetween config before after (path :: done) names
      = entryBetween config before after done names := by
  simp only [entryBetween, List.mem_cons, hne, false_or]

lemma compiled_between {graph : SourceGraph}
    (h : Holds config (entryBetween config before after done) graph) : Compiled graph := by
  refine h.compiled ?_
  intro names entry hnames hentry
  rw [entryBetween] at hentry
  split at hentry
  · exact exists_of_entry? hnames hentry
  · exact exists_of_entry? hnames hentry

/-- Once more is done, the site is in the course of the same update if it holds the new entry. -/
lemma Holds.cons {graph graph' : SourceGraph} (hnames : IsSource names)
    (h : Holds config (entryBetween config before after done) graph)
    (hpath : graph'.publicPath = graph.publicPath)
    (hself : graph'.entries.find? (idOf names) = entryIn config after names)
    (hothers : ∀ id, id ≠ idOf names → graph'.entries.find? id = graph.entries.find? id) :
    Holds config (entryBetween config before after (pathOf config names :: done)) graph' := by
  refine ⟨hpath.trans h.publicPath, ?_, ?_⟩
  · intro other hother
    -- ids and paths belong to one content file each
    by_cases heq : other = names
    · rw [heq, hself, entryBetween_cons_self]
    · rw [hothers _ fun hid => heq (idOf_inj hother hnames hid), h.found other hother,
        entryBetween_cons_of_ne fun hpath => heq (pathOf_inj hother hnames hpath)]
  · intro id entry hfind
    by_cases heq : id = idOf names
    · exact ⟨names, hnames, heq⟩
    · rw [hothers id heq] at hfind
      exact h.only id entry hfind

/-- What the site keeps is stale once the structure has changed. -/
lemma Between.sound (h : Between config before after done structural site) :
    Sound config structural site := ⟨h.settings, compiled_between h.graph, h.cache⟩

/-- A path that is not watched changes nothing. -/
lemma Between.outside (h : Between config before after done structural site)
    (hpath : moduleId? config.build.content path = none) :
    Between config before after (path :: done) structural site := by
  have hne : ∀ names, IsSource names → pathOf config names ≠ path := by
    intro names hnames heq
    rw [← heq, moduleId?_pathOf config hnames] at hpath
    cases hpath
  refine ⟨h.under, h.settings, ?_, ?_, h.cache⟩
  · exact h.graph.congr fun names hnames => (entryBetween_cons_of_ne (hne names hnames)).symm
  · intro names hnames hdone
    rcases List.mem_cons.1 hdone with heq | hdone
    · exact absurd heq (hne names hnames)
    · exact h.compiles names hnames hdone

/-- A file that is gone is taken out of the graph. -/
lemma Between.erase (h : Between config before after done structural site)
    (hnames : IsSource names) (hgone : after.isFile (pathOf config names) = false) {now : Bool}
    (hsound : Sound config now { site with graph := site.graph.erase (idOf names) }) :
    Between config before after (pathOf config names :: done) now
      { site with graph := site.graph.erase (idOf names) } := by
  refine ⟨h.under, h.settings, h.graph.cons hnames rfl ?_ ?_, ?_, hsound.cache⟩
  · rw [entryIn, hgone]
    exact Sorted.find?_erase.trans (if_pos rfl)
  · intro id hid
    exact Sorted.find?_erase.trans (if_neg (Ne.symm hid))
  · intro other hother hdone hfile
    rcases List.mem_cons.1 hdone with heq | hdone
    · rw [heq, hgone] at hfile
      exact absurd hfile Bool.false_ne_true
    · exact h.compiles other hother hdone hfile

/-- A file that was compiled is entered, and what was made by it or with it is taken back. -/
lemma Between.enter (h : Between config before after done structural site)
    (hnames : IsSource names) (hfile : after.isFile (pathOf config names) = true)
    {source : Source} (hcompile : Site.compile config after (pathOf config names) = .ok source)
    {now : Bool}
    (hsound : Sound config now
      { site with
        graph := Site.enter site.graph source
        resolver := (site.resolver.invalidate (idOf names)).2 }) :
    Between config before after (pathOf config names :: done) now
      { site with
        graph := Site.enter site.graph source
        resolver := (site.resolver.invalidate (idOf names)).2 } := by
  have hid := id_of_compile hnames hcompile
  refine ⟨h.under, h.settings, h.graph.cons hnames (publicPath_enter _ _) ?_ ?_, ?_, hsound.cache⟩
  · rw [find?_enter, if_pos hid, entryIn, if_pos hfile, hcompile]
    rfl
  · intro other hother
    rw [find?_enter, if_neg fun heq => hother (heq.symm.trans hid)]
  · intro other hother hdone hother'
    rcases List.mem_cons.1 hdone with heq | hdone
    · rw [heq]
      exact ⟨source, hcompile⟩
    · exact h.compiles other hother hdone hother'

/-- The step of an update: one path more is done. -/
lemma Between.updatePath (h : Between config before after done changes.structural site)
    (hpath : IsWatched config path)
    (hupdate : site.updatePath after changes path = (.ok changes', site')) :
    Between config before after (path :: done) changes'.structural site' := by
  have hsound : Sound config (false || changes'.structural) site' :=
    Sound.updatePath h.sound hupdate
  have hunder := h.under
  rw [Site.updatePath, hunder] at hupdate
  obtain hnone | ⟨names, hnames, rfl⟩ := hpath
  · rw [hnone] at hupdate
    cases hupdate
    exact h.outside hnone
  · rw [moduleId?_pathOf config hnames] at hupdate
    dsimp only at hupdate
    split at hupdate
    · rename_i hgone
      rw [Bool.not_eq_true'] at hgone
      rw [← hunder] at hupdate
      cases hupdate
      exact h.erase hnames hgone hsound
    · rename_i hfile
      rw [Bool.not_eq_true', Bool.not_eq_false] at hfile
      split at hupdate
      · cases hupdate
      · rename_i source hcompile
        rw [← hunder] at hupdate
        cases hupdate
        exact h.enter hnames hfile hcompile hsound

/-- The run of an update: all paths are done. -/
lemma Between.updatePaths {paths : List String}
    (h : Between config before after done changes.structural site)
    (hpaths : ∀ path ∈ paths, IsWatched config path)
    (hupdate : site.updatePaths after changes paths = (.ok changes', site')) :
    Between config before after (paths.reverse ++ done) changes'.structural site' := by
  induction paths generalizing done changes site with
  | nil =>
    cases hupdate
    exact h
  | cons path rest ih =>
    rw [Site.updatePaths] at hupdate
    split at hupdate
    · rename_i changes₁ site₁ hstep
      have h₁ := h.updatePath (hpaths path List.mem_cons_self) hstep
      rw [List.reverse_cons, List.append_assoc]
      exact ih h₁ (fun other hother => hpaths other (List.mem_cons_of_mem _ hother)) hupdate
    · cases hupdate

/-- An update starts with nothing done. -/
lemma InStep.between (h : InStep config before site) :
    Between config before after [] false site := by
  refine ⟨h.under, h.settings, h.graph.congr ?_, ?_, fun _ => h.cache⟩
  · intro names _
    rw [entryBetween, if_neg List.not_mem_nil]
  · intro names _ hdone
    exact absurd hdone List.not_mem_nil

/-- When every file that differs is done, the graph is the one of the changed tree. -/
lemma Between.graphOf (h : Between config before after done structural site)
    (hcovers : Covers config before after done) : GraphOf config after site.graph := by
  refine h.graph.congr ?_
  intro names hnames
  rw [entryBetween]
  split
  · rfl
  · rename_i hdone
    refine entryIn_congr ?_
    by_contra hne
    exact hdone (hcovers names hnames hne)

/-- An update that succeeds and is told of every file that differs brings a site in step. -/
lemma InStep.update {paths : List String} (h : InStep config before site)
    (hfolder : after.isFile config.build.content = false)
    (hpaths : ∀ path ∈ paths, IsWatched config path) (hcovers : Covers config before after paths)
    (hupdate : site.update after paths = (.ok changes', site')) : InStep config after site' := by
  rw [Site.update] at hupdate
  split at hupdate
  · rename_i changes updated hrun
    have hstart : Between config before after [] ({} : Changes).structural site := h.between
    have hdone := hstart.updatePaths hpaths hrun
    rw [List.append_nil] at hdone
    have hcovers' : Covers config before after paths.reverse :=
      fun names hnames hne => List.mem_reverse.2 (hcovers names hnames hne)
    have hgraph := hdone.graphOf hcovers'
    have hreadable : Readable config after := by
      refine ⟨hfolder, ?_⟩
      intro names hnames hfile
      -- a path that is done compiled; any other file is what it was
      by_cases hmem : pathOf config names ∈ paths.reverse
      · exact hdone.compiles names hnames hmem hfile
      · have hsame : bytes? before (pathOf config names) = bytes? after (pathOf config names) := by
          by_contra hne
          exact hmem (hcovers' names hnames hne)
        rw [← isFile_congr hsame] at hfile
        rw [← compile_congr hsame]
        exact h.readable.compiles names hnames hfile
    cases hupdate
    split
    · exact ⟨hdone.under, hdone.settings, hgraph, hreadable, Cache.coherent_of_empty rfl rfl⟩
    · rename_i hstructural
      exact ⟨hdone.under, hdone.settings, hgraph, hreadable,
        hdone.cache (Bool.eq_false_iff.2 hstructural)⟩
  · cases hupdate

end Site
end Bindery
