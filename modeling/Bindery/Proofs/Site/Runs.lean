import Bindery.Proofs.Site.Writing
import Mathlib

/-!
# Sites over time

A site is loaded once and then lives through edits of the tree, updates and builds in any order. If
it is told of every edit before it builds, and the content folder and the output folder lie apart
(`Site.Apart`: neither is inside the other, and the path of the content folder makes no detours, as
in every configuration that is accepted, `Config.apart_of_validate`), then each of its builds gives
what a new site would give, and it writes the same (`Site.Watched.build_eq_fresh`). That the output
lies outside of the content is not enough: an output folder that holds the content is cleared
together with it, and what the site has read is put out again
(`Site.cleared_content_is_put_out_again`).
-/

namespace Bindery

namespace Site

/-- The life of a site: the site, the tree it was last brought up to date with, and the tree as it
is now. An edit may change anything; an update has to be told of the content files that differ. -/
inductive Run (config : Config) : Site → Tree → Tree → Prop where
  | loaded {tree : Tree} {site : Site} :
    tree.WellFormed → tree.isFile config.build.content = false →
    (ofConfig config).load tree = .ok site → Run config site tree tree
  | edited {site : Site} {synced now later : Tree} :
    Run config site synced now → later.WellFormed → Run config site synced later
  | updated {site site' : Site} {synced now : Tree} {paths : List String} {changes : Changes} :
    Run config site synced now → now.isFile config.build.content = false →
    (∀ path ∈ paths, IsWatched config path) → Covers config synced now paths →
    site.update now paths = (.ok changes, site') → Run config site' now now
  | built {site : Site} {synced now : Tree} :
    Run config site synced now → Run config (site.build now).2.1 synced (site.build now).2.2

variable {config : Config} {site fresh : Site} {synced now tree : Tree}

/-! ## Steps -/

/-- A build gives the pages if they could be written. -/
lemma build_fst (site : Site) (now : Tree) :
    (site.build now).1 = (write site.config.build now
      (site.resolver.build site.graph.toGraph).1).1.map fun () =>
        (site.resolver.build site.graph.toGraph).1 := rfl

/-- A build leaves the tree that writing leaves. -/
lemma build_tree (site : Site) (now : Tree) :
    (site.build now).2.2 = (write site.config.build now
      (site.resolver.build site.graph.toGraph).1).2 := rfl

/-- A site that is in step writes below the output folder only. -/
lemma InStep.build_keepsFiles (h : InStep config synced site) (hwell : now.WellFormed) :
    now.KeepsFiles (Path.target config.build.output) (site.build now).2.2 := by
  rw [build_tree, h.under]
  refine write_spec hwell ?_
  intro page hpage
  rw [(h.build now).1] at hpage
  exact ModuleGraph.exists_names_of_mem_output hpage

/-- What is written is determined by the pages. -/
lemma write_congr (settings : BuildSettings) (now : Tree) {b b' : Build} (h : b.pages = b'.pages) :
    write settings now b = write settings now b' := by
  rw [write, write, h]

lemma map_pages_congr (done : Except SiteError Unit) {b b' : Build} (h : b.pages = b'.pages) :
    (done.map fun () => b).map Build.pages = (done.map fun () => b').map Build.pages := by
  cases done with
  | error e => rfl
  | ok _ => exact congrArg Except.ok h

/-- What a site puts out and writes is determined by the pages of its build. -/
lemma build_congr {other : Site} (hconfig : site.config = other.config)
    (hpages : (site.resolver.build site.graph.toGraph).1.pages
      = (other.resolver.build other.graph.toGraph).1.pages) (now : Tree) :
    (site.build now).1.map Build.pages = (other.build now).1.map Build.pages ∧
      (site.build now).2.2 = (other.build now).2.2 := by
  constructor
  · rw [build_fst, build_fst, hconfig, write_congr _ _ hpages]
    exact map_pages_congr _ hpages
  · rw [build_tree, build_tree, hconfig, write_congr _ _ hpages]

/-- Two sites in step with one tree put out and write the same. -/
lemma InStep.build_congr (h : InStep config tree site) (hfresh : InStep config tree fresh)
    (now : Tree) :
    (site.resolver.build site.graph.toGraph).1.pages
        = (fresh.resolver.build fresh.graph.toGraph).1.pages ∧
      (site.build now).1.map Build.pages = (fresh.build now).1.map Build.pages ∧
      (site.build now).2.2 = (fresh.build now).2.2 := by
  have hgraph : site.graph = fresh.graph := Holds.eq h.graph hfresh.graph
  have hpages : (site.resolver.build site.graph.toGraph).1.pages
      = (fresh.resolver.build fresh.graph.toGraph).1.pages := by
    rw [(h.build now).1, (hfresh.build now).1, hgraph]
  exact ⟨hpages, Site.build_congr (h.under.trans hfresh.under.symm) hpages now⟩

/-! ## Runs -/

/-- Every step keeps a site in step with the tree of its last update. -/
lemma Run.inStep (h : Run config site synced now) : InStep config synced site ∧ now.WellFormed := by
  induction h with
  | loaded hwell hfolder hload => exact ⟨inStep_of_load hwell hfolder hload, hwell⟩
  | edited _ hwell ih => exact ⟨ih.1, hwell⟩
  | updated _ hfolder hpaths hcovers hupdate ih =>
    exact ⟨ih.1.update hfolder hpaths hcovers hupdate, ih.2⟩
  | built _ ih => exact ⟨(ih.1.build _).2, (ih.1.build_keepsFiles ih.2).wellFormed⟩

/-- A site that is in step with a tree builds what one that is loaded from the tree builds, and it
writes the same. -/
lemma InStep.exists_fresh (h : InStep config tree site) (hwell : tree.WellFormed) :
    ∃ fresh, (ofConfig config).load tree = .ok fresh ∧
      (site.resolver.build site.graph.toGraph).1.pages
        = (fresh.resolver.build fresh.graph.toGraph).1.pages ∧
      (site.build tree).1.map Build.pages = (fresh.build tree).1.map Build.pages ∧
      (site.build tree).2.2 = (fresh.build tree).2.2 := by
  obtain ⟨fresh, hload⟩ := exists_load_eq_ok hwell h.readable
  exact ⟨fresh, hload, h.build_congr (inStep_of_load hwell h.readable.folder hload) tree⟩

/-! ## Sites that are told in time -/

/-- The life of a site that is told of every edit before it builds: the site, the tree that it is up
to date with, the tree as it is now, and every build so far, the last one first, by the site and the
tree as they were before it. An edit may change anything; an update has to be told of the content
files that differ from those of the tree that the site is up to date with, so of none if the edits
were outside of the content. -/
inductive Watched (config : Config) : Site → Tree → Tree → List (Site × Tree) → Prop where
  | loaded {tree : Tree} {site : Site} :
    tree.WellFormed → tree.isFile config.build.content = false →
    (ofConfig config).load tree = .ok site → Watched config site tree tree []
  | edited {site : Site} {synced now later : Tree} {builds : List (Site × Tree)} :
    Watched config site synced now builds → later.WellFormed →
    Watched config site synced later builds
  | updated {site site' : Site} {synced now : Tree} {builds : List (Site × Tree)}
    {paths : List String} {changes : Changes} :
    Watched config site synced now builds → now.isFile config.build.content = false →
    (∀ path ∈ paths, IsWatched config path) → Covers config synced now paths →
    site.update now paths = (.ok changes, site') → Watched config site' now now builds
  | built {site : Site} {tree : Tree} {builds : List (Site × Tree)} :
    Watched config site tree tree builds →
    Watched config (site.build tree).2.1 (site.build tree).2.2 (site.build tree).2.2
      ((site, tree) :: builds)

variable {builds : List (Site × Tree)}

/-- If the folders lie apart, a build keeps a site in step with the tree that it leaves. -/
lemma InStep.build_tree (hapart : Apart config) (h : InStep config tree site)
    (hwell : tree.WellFormed) :
    InStep config (site.build tree).2.2 (site.build tree).2.1 ∧
      (site.build tree).2.2.WellFormed := by
  have hkeeps := h.build_keepsFiles hwell
  have hsame := sameContent_of_keepsFiles hapart hwell h.readable.folder hkeeps
  exact ⟨(h.build tree).2.congr hsame, hkeeps.wellFormed⟩

/-- If the folders lie apart, a site that is told in time is in step with the tree that it is up to
date with, and so it was at every build. -/
lemma Watched.inStep (hapart : Apart config) (h : Watched config site synced now builds) :
    (InStep config synced site ∧ synced.WellFormed ∧ now.WellFormed) ∧
      ∀ build ∈ builds, InStep config build.2 build.1 ∧ build.2.WellFormed := by
  induction h with
  | loaded hwell hfolder hload =>
    exact ⟨⟨inStep_of_load hwell hfolder hload, hwell, hwell⟩, by simp⟩
  | edited _ hwell ih => exact ⟨⟨ih.1.1, ih.1.2.1, hwell⟩, ih.2⟩
  | updated _ hfolder hpaths hcovers hupdate ih =>
    obtain ⟨⟨hstep, -, hnow⟩, hbuilds⟩ := ih
    exact ⟨⟨hstep.update hfolder hpaths hcovers hupdate, hnow, hnow⟩, hbuilds⟩
  | built _ ih =>
    obtain ⟨⟨hstep, hwell, -⟩, hbuilds⟩ := ih
    obtain ⟨hlater, hleft⟩ := hstep.build_tree hapart hwell
    exact ⟨⟨hlater, hleft, hleft⟩, List.forall_mem_cons.2 ⟨⟨hstep, hwell⟩, hbuilds⟩⟩

/-- Let the content folder and the output folder lie apart, neither inside the other, and let a site
be told of every edit before it builds. Then at each of its builds a new site loads from the tree,
both put out the same pages, and they write the same. -/
theorem Watched.build_eq_fresh (hapart : Apart config)
    (h : Watched config site synced now builds) :
    ∀ build ∈ builds, ∃ fresh, (ofConfig config).load build.2 = .ok fresh ∧
      (build.1.resolver.build build.1.graph.toGraph).1.pages
        = (fresh.resolver.build fresh.graph.toGraph).1.pages ∧
      (build.1.build build.2).1.map Build.pages = (fresh.build build.2).1.map Build.pages ∧
      (build.1.build build.2).2.2 = (fresh.build build.2).2.2 := by
  intro build hbuild
  obtain ⟨hstep, hwell⟩ := (h.inStep hapart).2 build hbuild
  exact hstep.exists_fresh hwell

/-! ## A run -/

/-- A configuration with a content folder and an output folder beside it. -/
def sampleConfig : Config := { build := { content := "/c", output := "/o" } }

/-- A tree with one document. -/
def sampleTree (text : String) : Tree :=
  ⟨.folder [("c", .folder [("a.html", .file ⟨Text.toBytes text, 0⟩)])], 1⟩

lemma isName_folder : Path.IsName "c" := ⟨by decide, by decide, by decide, by decide⟩

lemma isName_document : Path.IsName "a.html" := ⟨by decide, by decide, by decide, by decide⟩

lemma wellFormed_sampleTree (text : String) : (sampleTree text).WellFormed :=
  ⟨.single isName_folder (.single isName_document (.file _)), rfl⟩

lemma isSource_sample : IsSource ["a.html"] := by
  refine ⟨by simp, ?_, ?_⟩
  · intro name hname
    rw [List.mem_singleton.1 hname]
    exact isName_document
  · intro name hlast
    cases hlast
    decide

lemma pathOf_sample : pathOf sampleConfig ["a.html"] = "/c/a.html" := by cbv

/-- The document is read under its path. -/
lemma file?_sample (text : String) :
    (sampleTree text).file? "/c/a.html" = some ⟨Text.toBytes text, 0⟩ := by
  have hfolder : ∀ name ∈ ["c"], Path.IsName name := by simpa using isName_folder
  have hdocument : ∀ name ∈ ["a.html"], Path.IsName name := by simpa using isName_document
  have hfile := file?_along (wellFormed_sampleTree text) hfolder hdocument
  rw [show Path.along (Path.ofSteps ["c"]) ["a.html"] = "/c/a.html" by cbv] at hfile
  exact hfile

/-- The only file below the content folder is the document. -/
lemma file?_sample_of_ne (text : String) {names : List String}
    (hnames : ∀ name ∈ names, Path.IsName name) (hne : names ≠ ["a.html"]) :
    (sampleTree text).file? (pathOf sampleConfig names) = none := by
  have hfolder : ∀ name ∈ ["c"], Path.IsName name := by simpa using isName_folder
  have hfile := file?_along (wellFormed_sampleTree text) hfolder hnames
  rw [show Path.ofSteps ["c"] = sampleConfig.build.content by decide] at hfile
  rw [pathOf, hfile]
  rcases names with _ | ⟨name, _ | ⟨next, rest⟩⟩
  · rfl
  · have hname : "a.html" ≠ name := by
      rintro rfl
      exact hne rfl
    simp [FileNode.fileAt, sampleTree, FileNode.get?, FileNode.entries, Sorted.lookup, hname]
  · by_cases hname : "a.html" = name <;>
      simp [FileNode.fileAt, sampleTree, FileNode.get?, FileNode.entries, Sorted.lookup, hname]

/-- The document is read whatever it says. -/
lemma exists_compile_sample (text : String)
    (htext : Text.ofBytes? (Text.toBytes text) = some text) :
    ∃ source, compile sampleConfig (sampleTree text) "/c/a.html" = .ok source := by
  have hid : moduleId? sampleConfig.build.content "/c/a.html" = some "a.html" := by cbv
  have hkind : SourceKind.ofPath "/c/a.html" = .html := by cbv
  have hread : (sampleTree text).readText? "/c/a.html" = some text := by
    rw [Tree.readText?, file?_sample]
    exact htext
  rw [compile, hid]
  dsimp only
  rw [hkind, hread]
  exact ⟨_, rfl⟩

/-- The tree can be loaded whatever the document says. -/
lemma readable_sample (text : String) (htext : Text.ofBytes? (Text.toBytes text) = some text) :
    Readable sampleConfig (sampleTree text) := by
  have hfolder : (sampleTree text).file? (pathOf sampleConfig []) = none :=
    file?_sample_of_ne text (by simp) (by simp)
  refine ⟨by rw [Tree.isFile]; exact congrArg Option.isSome hfolder, ?_⟩
  intro names hnames hfile
  by_cases hne : names = ["a.html"]
  · rw [hne, pathOf_sample]
    exact exists_compile_sample text htext
  · rw [Tree.isFile, file?_sample_of_ne text hnames.isName hne] at hfile
    cases hfile

lemma apart_sample : Apart sampleConfig := by
  refine ⟨["c"], by simpa using isName_folder, by decide, ?_, ?_⟩ <;> decide +kernel

/-- The document is the only file that an edit of it changes, also in a tree in which the output was
written since. -/
lemma covers_sample {text text' : String} {tree : Tree}
    (hsame : SameContent sampleConfig (sampleTree text) tree) :
    Covers sampleConfig tree (sampleTree text') ["/c/a.html"] := by
  intro names hnames hdiffer
  by_cases hne : names = ["a.html"]
  · rw [hne, pathOf_sample]
    exact List.mem_singleton_self _
  · rw [← hsame.files names hnames, bytes?, bytes?, file?_sample_of_ne _ hnames.isName hne,
      file?_sample_of_ne _ hnames.isName hne] at hdiffer
    exact absurd rfl hdiffer

/-- An update that is told of the document succeeds. -/
lemma exists_update_sample (hconfig : site.config = sampleConfig) (text : String)
    (htext : Text.ofBytes? (Text.toBytes text) = some text) :
    ∃ changes site', site.update (sampleTree text) ["/c/a.html"] = (.ok changes, site') := by
  obtain ⟨source, hsource⟩ := exists_compile_sample text htext
  have hid : moduleId? sampleConfig.build.content "/c/a.html" = some "a.html" := by cbv
  have hfile : (sampleTree text).isFile "/c/a.html" = true := by
    rw [Tree.isFile, file?_sample]
    rfl
  rw [update, updatePaths, updatePath, hconfig, hid]
  dsimp only
  rw [hfile, hsource]
  exact ⟨_, _, rfl⟩

/-- A site that is loaded and built, told of an edit of its document, and built again: both builds
give what a new site gives. -/
theorem build_eq_fresh_after_edit :
    ∃ site site' fresh changes, (ofConfig sampleConfig).load (sampleTree "x") = .ok site ∧
      (site.build (sampleTree "x")).2.1.update (sampleTree "y") ["/c/a.html"]
        = (.ok changes, site') ∧
      (ofConfig sampleConfig).load (sampleTree "y") = .ok fresh ∧
      Watched sampleConfig (site'.build (sampleTree "y")).2.1 (site'.build (sampleTree "y")).2.2
        (site'.build (sampleTree "y")).2.2 [(site', sampleTree "y"), (site, sampleTree "x")] ∧
      (site'.build (sampleTree "y")).1.map Build.pages
        = (fresh.build (sampleTree "y")).1.map Build.pages := by
  have hx : Readable sampleConfig (sampleTree "x") := readable_sample "x" (by cbv)
  have hy : Readable sampleConfig (sampleTree "y") := readable_sample "y" (by cbv)
  obtain ⟨site, hload⟩ := exists_load_eq_ok (wellFormed_sampleTree "x") hx
  have hloaded := Watched.loaded (wellFormed_sampleTree "x") hx.folder hload
  have hstep := (hloaded.inStep apart_sample).1.1
  have hsame := sameContent_of_keepsFiles apart_sample (wellFormed_sampleTree "x") hx.folder
    (hstep.build_keepsFiles (wellFormed_sampleTree "x"))
  obtain ⟨changes, site', hupdate⟩ :=
    exists_update_sample (hstep.build (sampleTree "x")).2.under "y" (by cbv)
  have hwatched : ∀ path ∈ ["/c/a.html"], IsWatched sampleConfig path := by
    intro path hpath
    rw [List.mem_singleton.1 hpath]
    exact .inr ⟨["a.html"], isSource_sample, pathOf_sample.symm⟩
  have hrun := ((hloaded.built.edited (wellFormed_sampleTree "y")).updated hy.folder hwatched
    (covers_sample hsame) hupdate).built
  obtain ⟨fresh, hfresh, -, hpages, -⟩ :=
    Watched.build_eq_fresh apart_sample hrun _ List.mem_cons_self
  exact ⟨site, site', fresh, changes, hload, hupdate, hfresh, hrun, hpages⟩

/-! ## Content inside the output -/

/-- An output folder that holds the content folder and is cleared by every build. -/
def nestedConfig : Config := { build := { content := "/s/c", output := "/s", clean := true } }

/-- A tree with one document in that content folder. -/
def nestedTree : Tree :=
  ⟨.folder [("s", .folder [("c", .folder [("a.html", .file ⟨Text.toBytes "A", 0⟩)])])], 1⟩

lemma wellFormed_nestedTree : nestedTree.WellFormed := by
  have hsite : Path.IsName "s" := ⟨by decide, by decide, by decide, by decide⟩
  exact ⟨.single hsite (.single isName_folder (.single isName_document (.file _))), rfl⟩

/-- The urls of the pages that a site puts out. -/
def urls (site : Site) : List String :=
  (site.resolver.build site.graph.toGraph).1.pages.map Prod.fst

/-- A configuration is accepted and its output does not lie in its content, but its content in its
output. The first build of the site clears the content away. The second one, without an edit in
between, puts out the page that the site had read, where a new site finds nothing. -/
theorem cleared_content_is_put_out_again :
    Config.validate nestedTree nestedConfig = .ok () ∧ nestedConfig.build.cachePages = true ∧
    ¬ Path.target nestedConfig.build.content <+: Path.target nestedConfig.build.output ∧
    ∃ site fresh, (ofConfig nestedConfig).load nestedTree = .ok site ∧
      let later := (site.build nestedTree).2
      Watched nestedConfig (later.1.build later.2).2.1 (later.1.build later.2).2.2
        (later.1.build later.2).2.2 [(later.1, later.2), (site, nestedTree)] ∧
      (ofConfig nestedConfig).load later.2 = .ok fresh ∧
      later.1.urls = ["a.html"] ∧ fresh.urls = [] := by
  have hvalid : Config.validate nestedTree nestedConfig = .ok () := by decide +kernel
  have hfolder : nestedTree.isFile nestedConfig.build.content = false := by decide +kernel
  -- the tree that the first build leaves is evaluated once, for both sites
  have hruns : ((ofConfig nestedConfig).load nestedTree >>= fun site =>
      ((ofConfig nestedConfig).load (site.build nestedTree).2.2).map fun fresh =>
        ((site.build nestedTree).2.1.urls, fresh.urls)) = .ok (["a.html"], []) := by cbv
  obtain ⟨site, hload, hruns⟩ := bind_eq_ok.1 hruns
  obtain ⟨fresh, hempty, hurls⟩ := map_eq_ok.1 hruns
  obtain ⟨hlater, hfresh⟩ := Prod.mk.inj hurls
  have hwatched := (Watched.loaded wellFormed_nestedTree hfolder hload).built.built
  exact ⟨hvalid, rfl, by decide +kernel, site, fresh, hload, hwatched, hempty, hlater, hfresh⟩

end Site
end Bindery
