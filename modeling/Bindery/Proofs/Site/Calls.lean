import Bindery.Proofs.Site.Runs

/-!
# Calls in any order

A site is loaded, updated and built in any order, over trees that change in any way. A build puts
out what a new resolver puts out for the graph that the site has then, unless an update failed after
it had changed the structure of the graph and neither a load nor an update has cleared the caches
since (`Site.Calls.build_eq_new`). An update clears them when it has been through all paths, and one
that fails does not come that far (`Site.failed_update_leaves_stale_page`).
-/

namespace Bindery

namespace Site

variable {config : Config} {site site' : Site} {tree : Tree} {changes changes' : Changes}
variable {paths : List String} {stale : Bool}

/-! ## Updates that fail -/

/-- Whether the structure has changed when bringing paths up to date comes to its end, be it that
all paths are done or that one cannot be read. -/
def restructures (tree : Tree) (changes : Changes) (site : Site) : List String → Bool
  | [] => changes.structural
  | path :: rest =>
    match site.updatePath tree changes path with
    | (.ok changes, site) => restructures tree changes site rest
    | (.error _, _) => changes.structural

lemma restructures_of_ok (h : site.updatePaths tree changes paths = (.ok changes', site')) :
    restructures tree changes site paths = changes'.structural := by
  induction paths generalizing changes site with
  | nil =>
    cases h
    rfl
  | cons path rest ih =>
    obtain ⟨outcome, next, hstep⟩ :
        ∃ outcome next, site.updatePath tree changes path = (outcome, next) := ⟨_, _, rfl⟩
    rw [updatePaths, hstep] at h
    rw [restructures, hstep]
    cases outcome with
    | error e => cases h
    | ok changes => exact ih h

/-- A file that is gone is taken out. -/
lemma updatePath_of_gone {path id : String}
    (hid : moduleId? site.config.build.content path = some id) (hgone : tree.isFile path = false) :
    site.updatePath tree changes path
      = (.ok (if site.graph.contains id then { changes with structural := true } else changes),
        { site with graph := site.graph.erase id }) := by
  rw [updatePath, hid]
  dsimp only
  rw [hgone]
  rfl

/-- A file that compiles is entered. -/
lemma updatePath_of_ok {path : String} {source : Source} (hfile : tree.isFile path = true)
    (hcompile : compile site.config tree path = .ok source) :
    site.updatePath tree changes path
      = (.ok ⟨changes.invalidated ++ [source.id], changes.structural ||
          (!site.graph.contains source.id
            || urlOf? site.graph source.id ≠ urlOf? (enter site.graph source) source.id)⟩,
        { site with
          graph := enter site.graph source
          resolver := (site.resolver.invalidate source.id).2 }) := by
  rw [updatePath, moduleId?_of_compile hcompile]
  dsimp only
  rw [hfile, hcompile]
  rfl

/-- A file that cannot be read ends an update. -/
lemma updatePath_of_unreadable {path id : String} {e : SiteError}
    (hid : moduleId? site.config.build.content path = some id) (hfile : tree.isFile path = true)
    (hcompile : compile site.config tree path = .error e) :
    site.updatePath tree changes path = (.error e, site) := by
  rw [updatePath, hid]
  dsimp only
  rw [hfile, hcompile]
  rfl

/-- An error of a path leaves the site as it is. -/
lemma updatePath_of_error {path : String} {e : SiteError}
    (h : site.updatePath tree changes path = (.error e, site')) : site' = site := by
  rw [updatePath] at h
  split at h
  · cases h
  · split at h
    · cases h
    · split at h <;> cases h
      rfl

/-- Bringing paths up to date, to the end or to an error, makes what is kept stale if it changes the
structure. -/
lemma Sound.updatePaths {result : Except SiteError Changes}
    (h : Sound config (stale || changes.structural) site)
    (hupdate : site.updatePaths tree changes paths = (result, site')) :
    Sound config (stale || restructures tree changes site paths) site' := by
  induction paths generalizing changes site with
  | nil =>
    cases hupdate
    exact h
  | cons path rest ih =>
    obtain ⟨outcome, next, hstep⟩ :
        ∃ outcome next, site.updatePath tree changes path = (outcome, next) := ⟨_, _, rfl⟩
    rw [Site.updatePaths, hstep] at hupdate
    rw [restructures, hstep]
    cases outcome with
    | error e =>
      cases hupdate
      rw [updatePath_of_error hstep]
      exact h
    | ok changes => exact ih (h.updatePath hstep) hupdate

/-! ## Calls -/

/-- A site after some calls, and whether what it keeps may be stale. A load that fails leaves the
site as it is, and any load or update that clears the caches makes up for an update that failed. -/
inductive Calls (config : Config) : Site → (stale : Bool) → Prop where
  | new : Calls config (ofConfig config) false
  | loaded {site site' : Site} {stale : Bool} {tree : Tree} :
    Calls config site stale → site.load tree = .ok site' → Calls config site' false
  | built {site : Site} {stale : Bool} (tree : Tree) :
    Calls config site stale → Calls config (site.build tree).2.1 stale
  | updated {site site' : Site} {stale : Bool} {tree : Tree} {paths : List String}
      {changes : Changes} :
    Calls config site stale → site.update tree paths = (.ok changes, site') →
      Calls config site' (stale && !changes.structural)
  | failed {site site' : Site} {stale : Bool} {tree : Tree} {paths : List String} {e : SiteError} :
    Calls config site stale → site.update tree paths = (.error e, site') →
      Calls config site' (stale || site.restructures tree {} paths)

/-- A load leaves nothing that could be stale. -/
lemma Sound.load (h : Sound config stale site) (hload : site.load tree = .ok site') :
    Sound config false site' := by
  rw [Site.load] at hload
  obtain ⟨found, hfound, hload⟩ := bind_eq_ok.1 hload
  cases hload
  have hsources : ∀ source ∈ found, IsCompiled source := by
    intro source hmem
    obtain ⟨path, -, hcompile⟩ := (mem_of_mapM_eq_ok hfound).2 source hmem
    exact isCompiled_of_compile hcompile
  refine ⟨h.settings, ?_, fun _ => Cache.coherent_of_empty rfl rfl⟩
  intro id entry hfind
  obtain ⟨source, hmem, hid, hsource⟩ | ⟨-, hnone⟩ := find?_foldl_enter found
    { publicPath := site.config.build.publicPath } id
  · rw [hsource] at hfind
    exact ⟨source, hsources source hmem, hid, (Option.some.inj hfind).symm⟩
  · rw [hnone] at hfind
    cases hfind

/-- An update that succeeds clears what is stale if the structure has changed. -/
lemma Sound.update (h : Sound config stale site)
    (hupdate : site.update tree paths = (.ok changes, site')) :
    Sound config (stale && !changes.structural) site' := by
  rw [Site.update] at hupdate
  split at hupdate
  · rename_i found updated hpaths
    have hstart : Sound config (stale || ({} : Changes).structural) site := by
      rw [Bool.or_false]
      exact h
    have hdone := hstart.updatePaths hpaths
    rw [restructures_of_ok hpaths] at hdone
    cases hupdate
    split
    · exact ⟨hdone.settings, hdone.compiled, fun _ => Cache.coherent_of_empty rfl rfl⟩
    · rename_i hstructural
      rw [Bool.eq_false_iff.2 hstructural, Bool.or_false] at hdone
      rw [Bool.eq_false_iff.2 hstructural, Bool.not_false, Bool.and_true]
      exact hdone
  · cases hupdate

/-- An update that fails leaves what is stale if the structure has changed until then. -/
lemma Sound.fail (h : Sound config stale site) {e : SiteError}
    (hupdate : site.update tree paths = (.error e, site')) :
    Sound config (stale || site.restructures tree {} paths) site' := by
  rw [Site.update] at hupdate
  split at hupdate
  · cases hupdate
  · rename_i hpaths
    cases hupdate
    have hstart : Sound config (stale || ({} : Changes).structural) site := by
      rw [Bool.or_false]
      exact h
    exact hstart.updatePaths hpaths

/-- Every call keeps a site sound. -/
lemma Calls.sound (h : Calls config site stale) : Sound config stale site := by
  induction h with
  | new => exact ⟨rfl, compiled_empty _, fun _ => Cache.coherent_of_empty rfl rfl⟩
  | loaded _ hload ih => exact ih.load hload
  | built tree _ ih => exact ih.build tree
  | updated _ hupdate ih => exact ih.update hupdate
  | failed _ hupdate ih => exact ih.fail hupdate

/-- After any calls, unless what the site keeps is stale: a build puts out the pages that a new
resolver puts out for the graph of the site, and writes the same. -/
theorem Calls.build_eq_new (h : Calls config site false) :
    let new : Site := { site with resolver := { settings := config.build } }
    (site.resolver.build site.graph.toGraph).1.pages
        = (new.resolver.build new.graph.toGraph).1.pages ∧
      ∀ tree, (site.build tree).1.map Build.pages = (new.build tree).1.map Build.pages ∧
        (site.build tree).2.2 = (new.build tree).2.2 := by
  intro new
  have hsound := h.sound
  have hnew : Sound config false new :=
    ⟨rfl, hsound.compiled, fun _ => Cache.coherent_of_empty rfl rfl⟩
  have hpages : (site.resolver.build site.graph.toGraph).1.pages
      = (new.resolver.build new.graph.toGraph).1.pages := by
    rw [hsound.pages_build, hnew.pages_build]
  have hconfig : site.config = new.config := rfl
  exact ⟨hpages, fun tree => build_congr hconfig hpages tree⟩

/-! ## An update that fails -/

/-- A configuration with a template that every document is put into. -/
def templatedConfig : Config :=
  { sampleConfig with build := { sampleConfig.build with template := some "t.html" } }

/-- A document of fixed text that gives its url. -/
def documentFile (name url text : String) : String × List UInt8 :=
  (name, Text.toBytes ("+++\nurl = \"" ++ url ++ "\"\n+++\n" ++ text))

/-- A document that is no text. -/
def unreadableFile : String × List UInt8 := ("u.html", [255])

/-- A tree with some files in the content folder. -/
def contentTree (files : List (String × List UInt8)) : Tree :=
  ⟨.folder [("c", .folder (files.map fun file => (file.1, .file ⟨file.2, 0⟩)))], 1⟩

/-- A document and its template, which has no page. -/
def templatedTree : Tree :=
  contentTree [documentFile "a.html" "a" "A", documentFile "t.html" "" "T"]

/-- What a document of fixed text is compiled to. -/
def documentSource (name url text : String) (template : Option String) : Source where
  id := name
  resource := "/c/" ++ name
  document := some (.ok {
    id := name, url, template, emit := !url.isEmpty, attributes := [("url", .string url)]
    source := "\"" ++ text ++ "\"", code := .str text, toc := none, isTemplate := false })

/-- The document and the template, compiled. -/
def templatedSources : List Source :=
  [documentSource "a.html" "a" "A" (some "t.html"), documentSource "t.html" "" "T" none]

/-- The site that is loaded from the tree. -/
def templatedSite : Site where
  config := templatedConfig
  graph := templatedSources.foldl enter { publicPath := "/" }
  resolver := { settings := templatedConfig.build }

lemma load_templatedTree : (ofConfig templatedConfig).load templatedTree = .ok templatedSite := by
  have hfound : (sources templatedTree "/c").mapM (compile templatedConfig templatedTree)
      = .ok templatedSources := by cbv
  exact bind_eq_ok.2 ⟨_, hfound, rfl⟩

/-- The site once it was built. -/
def builtSite : Site := (templatedSite.build templatedTree).2.1

lemma calls_builtSite : Calls templatedConfig builtSite false :=
  .built templatedTree (.loaded .new load_templatedTree)

/-- The text of the document has changed, and there is a file that cannot be read. -/
def editedTree : Tree :=
  contentTree [documentFile "a.html" "a" "B", documentFile "t.html" "" "T", unreadableFile]

/-- The changed document, compiled. -/
def editedSource : Source := documentSource "a.html" "a" "B" (some "t.html")

/-- The site once the changed document is entered. -/
def editedSite : Site where
  config := templatedConfig
  graph := enter templatedSite.graph editedSource
  resolver := (builtSite.resolver.invalidate "a.html").2

lemma updatePath_editedTree :
    builtSite.updatePath editedTree {} "/c/a.html" = (.ok ⟨["a.html"], false⟩, editedSite) := by
  have hcompile : compile builtSite.config editedTree "/c/a.html" = .ok editedSource := by
    show compile templatedConfig editedTree "/c/a.html" = .ok editedSource
    cbv
  have hstays : (!builtSite.graph.contains editedSource.id
      || decide (urlOf? builtSite.graph editedSource.id
        ≠ urlOf? (enter builtSite.graph editedSource) editedSource.id)) = false := by
    show (!templatedSite.graph.contains "a.html"
      || decide (urlOf? templatedSite.graph "a.html"
        ≠ urlOf? (enter templatedSite.graph editedSource) "a.html")) = false
    cbv
  rw [updatePath_of_ok (by cbv) hcompile, hstays]
  rfl

/-- The file that cannot be read ends an update. -/
lemma updatePath_unreadable (hconfig : site.config = templatedConfig)
    (hfile : tree.isFile "/c/u.html" = true) (hread : tree.readText? "/c/u.html" = none) :
    site.updatePath tree changes "/c/u.html" = (.error (.unreadable "/c/u.html"), site) := by
  have hid : moduleId? templatedConfig.build.content "/c/u.html" = some "u.html" := by cbv
  have hkind : SourceKind.ofPath "/c/u.html" = .html := by cbv
  have hcompile : compile templatedConfig tree "/c/u.html" = .error (.unreadable "/c/u.html") := by
    rw [compile, hid]
    dsimp only
    rw [hkind, hread]
  rw [← hconfig] at hid hcompile
  exact updatePath_of_unreadable hid hfile hcompile

/-- An update reads the changed document and then fails. Nothing of the structure has changed, and
what was kept of the document is taken back. -/
theorem build_eq_new_after_failed_update :
    builtSite.update editedTree ["/c/a.html", "/c/u.html"]
        = (.error (.unreadable "/c/u.html"), editedSite) ∧
      Calls templatedConfig editedSite false ∧
      (editedSite.resolver.build editedSite.graph.toGraph).1.pages
        = ((Resolver.mk templatedConfig.build {}).build editedSite.graph.toGraph).1.pages := by
  have hfailed : editedSite.updatePath editedTree ⟨["a.html"], false⟩ "/c/u.html"
      = (.error (.unreadable "/c/u.html"), editedSite) :=
    updatePath_unreadable rfl (by cbv) (by cbv)
  have hupdate : builtSite.update editedTree ["/c/a.html", "/c/u.html"]
      = (.error (.unreadable "/c/u.html"), editedSite) := by
    rw [update, updatePaths, updatePath_editedTree]
    dsimp only
    rw [updatePaths, hfailed]
  have hrestructures :
      builtSite.restructures editedTree {} ["/c/a.html", "/c/u.html"] = false := by
    rw [restructures, updatePath_editedTree]
    dsimp only
    rw [restructures, hfailed]
  have hcalls := calls_builtSite.failed hupdate
  rw [hrestructures] at hcalls
  exact ⟨hupdate, hcalls, hcalls.build_eq_new.1⟩

/-- The template is gone, and there is a file that cannot be read. -/
def brokenTree : Tree := contentTree [documentFile "a.html" "a" "A", unreadableFile]

/-- The site once the template is taken out. -/
def brokenSite : Site := { builtSite with graph := templatedSite.graph.erase "t.html" }

lemma updatePath_brokenTree :
    builtSite.updatePath brokenTree {} "/c/t.html" = (.ok ⟨[], true⟩, brokenSite) := by
  have hid : moduleId? builtSite.config.build.content "/c/t.html" = some "t.html" := by
    show moduleId? "/c" "/c/t.html" = some "t.html"
    cbv
  have hcontains : builtSite.graph.contains "t.html" = true := by
    show templatedSite.graph.contains "t.html" = true
    cbv
  rw [updatePath_of_gone hid (by cbv), if_pos hcontains]
  rfl

/-- An update takes the template out and then fails, before the caches are cleared. The next build
puts out the document in the template that is not there any more. A new resolver puts it out without
a template. -/
theorem failed_update_leaves_stale_page :
    (ofConfig templatedConfig).load templatedTree = .ok templatedSite ∧
      (templatedSite.build templatedTree).2.1.update brokenTree ["/c/t.html", "/c/u.html"]
        = (.error (.unreadable "/c/u.html"), brokenSite) ∧
      ((brokenSite.resolver.build brokenSite.graph.toGraph).1.assets.find? "a").map (·.page.html)
        = some "T" ∧
      (((Resolver.mk templatedConfig.build {}).build brokenSite.graph.toGraph).1.assets.find?
        "a").map (·.page.html) = some "A" := by
  refine ⟨load_templatedTree, ?_, by cbv, by cbv⟩
  show builtSite.update brokenTree ["/c/t.html", "/c/u.html"] = _
  have hfailed : brokenSite.updatePath brokenTree ⟨[], true⟩ "/c/u.html"
      = (.error (.unreadable "/c/u.html"), brokenSite) :=
    updatePath_unreadable rfl (by cbv) (by cbv)
  rw [update, updatePaths, updatePath_brokenTree]
  dsimp only
  rw [updatePaths, hfailed]

end Site
end Bindery
