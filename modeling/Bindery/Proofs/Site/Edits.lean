import Bindery.Proofs.Resolver.Edits
import Bindery.Proofs.Site.Sources

/-!
# Edits of one module

The graph of a content folder holds documents and files that are copied. A document that is compiled
again answers the requests for it as before if its url is the same, whatever else changed in it
(`Site.sameBut_enter`), so that such an edit leaves a cache coherent once it was told of the module.
-/

namespace Bindery

namespace Site

variable {config : Config} {names : List String} {graph : SourceGraph} {id : String}

/-! ## Graphs of documents -/

/-- Every entry is what some content file compiles to. -/
def Compiled (graph : SourceGraph) : Prop :=
  ∀ id entry, graph.entries.find? id = some entry →
    ∃ source, IsCompiled source ∧ source.id = id ∧ entry = entryOf source

lemma compiled_empty (publicPath : String) : Compiled { publicPath } := by
  intro id entry hfind
  cases hfind

/-- Entering what a source is compiled to keeps a graph compiled. -/
lemma Compiled.enter {source : Source} (h : Compiled graph) (hsource : IsCompiled source) :
    Compiled (Site.enter graph source) := by
  intro id entry hfind
  rw [find?_enter] at hfind
  split at hfind
  · rename_i hid
    exact ⟨source, hsource, hid, (Option.some.inj hfind).symm⟩
  · exact h id entry hfind

/-- Dropping a module keeps a graph compiled. -/
lemma Compiled.erase (h : Compiled graph) (id : String) : Compiled (graph.erase id) := by
  intro other entry hfind
  have hother : graph.entries.find? other = some entry := by
    rw [SourceGraph.erase, Sorted.find?_erase] at hfind
    split at hfind
    · cases hfind
    · exact hfind
  exact h other entry hother

/-- The entry of a content file is what a source was compiled to. -/
lemma exists_of_entry? {tree : Tree} (hnames : IsSource names) {entry : SourceEntry}
    (h : entryIn config tree names = some entry) :
    ∃ source, IsCompiled source ∧ source.id = idOf names ∧ entry = entryOf source := by
  rw [entryIn] at h
  split at h
  · rw [Option.map_eq_some_iff] at h
    obtain ⟨source, hsource, rfl⟩ := h
    cases hcompile : compile config tree (pathOf config names) with
    | error e =>
      rw [hcompile] at hsource
      cases hsource
    | ok found =>
      rw [hcompile] at hsource
      cases hsource
      exact ⟨source, isCompiled_of_compile hcompile, id_of_compile hnames hcompile, rfl⟩
  · cases h

lemma Holds.compiled {entries : List String → Option SourceEntry}
    (h : Holds config entries graph)
    (hentries : ∀ names entry, IsSource names → entries names = some entry →
      ∃ source, IsCompiled source ∧ source.id = idOf names ∧ entry = entryOf source) :
    Compiled graph := by
  intro id entry hfind
  obtain ⟨names, hnames, rfl⟩ := h.only id entry hfind
  rw [h.found names hnames] at hfind
  exact hentries names entry hnames hfind

/-- A page module of a content folder is a document under its own id. -/
lemma Compiled.pageModule? (h : Compiled graph) {m : PageModule}
    (hm : graph.toGraph.pageModule? id = some m) : ∃ d, m = .ofDocument d ∧ d.id = id := by
  rw [ModuleGraph.pageModule?] at hm
  have hload : graph.toGraph.load id = graph.load id := rfl
  rw [hload, SourceGraph.load] at hm
  cases hfind : graph.entries.find? id with
  | none =>
    rw [hfind] at hm
    cases hm
  | some entry =>
    obtain ⟨source, hsource, hid, rfl⟩ := h id entry hfind
    rw [hfind, entryOf] at hm
    cases hdocument : source.document with
    | none =>
      rw [hdocument] at hm
      cases hm
    | some compiled =>
      rw [hdocument] at hm
      cases compiled with
      | error e => cases hm
      | ok d =>
        cases hm
        exact ⟨d, rfl, by rw [hsource.document d hdocument, hid]⟩

/-- A document is rendered without regard to why a request has no answer. -/
lemma respectful_ofDocument (d : Document) : Respectful (PageModule.ofDocument d).page.render := by
  intro context module resolve other h
  exact ((Expr.eval_agrees h d.code).map Expr.stringify).mapError _ _

lemma Compiled.respects (h : Compiled graph) : graph.toGraph.Respects := by
  constructor
  · intro id m hm
    obtain ⟨d, rfl, -⟩ := h.pageModule? hm
    exact respectful_ofDocument d
  · intro page hpage
    obtain ⟨id, -, hpage⟩ := List.mem_flatMap.1 hpage
    obtain ⟨m, hm, own, hown, hnormalized⟩ := ModuleGraph.exists_of_mem_pagesOf hpage
    obtain ⟨d, rfl, -⟩ := h.pageModule? hm
    -- a document has no pages besides its own
    rw [(Page.eq_of_normalized? hnormalized).2, List.mem_singleton.1 hown]
    exact respectful_ofDocument d

/-- A compiled graph is proper. -/
lemma Compiled.proper (h : Compiled graph) : graph.Proper := by
  intro id m hload
  obtain ⟨d, rfl, hid⟩ := h.pageModule? (SourceGraph.pageModule?_toGraph.2 hload)
  exact PageModule.proper_of_single hid rfl

/-! ## Edits -/

/-- The url of a module is that of its standing. -/
lemma urlOf?_eq (graph : SourceGraph) (id : String) :
    urlOf? graph id = (graph.standing id).url? := by
  rw [urlOf?, SourceGraph.load, SourceGraph.standing]
  rcases graph.entries.find? id with _ | ⟨_, _ | m, _⟩ | _ <;> rfl

/-- The id and the url of a content file determine what others see of it. -/
lemma standingOf_eq {source source' : Source} (h : IsCompiled source) (h' : IsCompiled source')
    (hid : source.id = source'.id)
    (hurl : (SourceGraph.standingOf (some (entryOf source))).url?
      = (SourceGraph.standingOf (some (entryOf source'))).url?) :
    SourceGraph.standingOf (some (entryOf source))
      = SourceGraph.standingOf (some (entryOf source')) := by
  have hkind : source.document = none ↔ source'.document = none := by
    rw [h.kind, h'.kind, hid]
  rw [entryOf, entryOf] at hurl ⊢
  rcases hdocument : source.document with _ | _ | d <;>
    rcases hdocument' : source'.document with _ | _ | d' <;>
    rw [hdocument, hdocument'] at hkind hurl <;>
    simp_all [SourceGraph.standingOf, SourceGraph.Standing.url?]

/-- Entering a document again under the url that it had changes nothing for other modules. -/
lemma sameBut_enter (hgraph : Compiled graph) {source : Source} (hsource : IsCompiled source)
    (hcontains : graph.contains source.id)
    (hurl : urlOf? graph source.id = urlOf? (enter graph source) source.id) :
    graph.toGraph.SameBut source.id (enter graph source).toGraph := by
  refine SourceGraph.sameBut_of_standing (publicPath_enter _ _) ?_ ?_
  · intro other hother
    rw [find?_enter, if_neg (Ne.symm hother)]
  · rw [SourceGraph.contains, Sorted.contains, Option.isSome_iff_exists] at hcontains
    obtain ⟨entry, hentry⟩ := hcontains
    obtain ⟨before, hbefore, hid, rfl⟩ := hgraph _ _ hentry
    rw [urlOf?_eq, urlOf?_eq, SourceGraph.standing, SourceGraph.standing, hentry, find?_enter,
      if_pos rfl] at hurl
    rw [SourceGraph.standing, SourceGraph.standing, hentry, find?_enter, if_pos rfl]
    exact (standingOf_eq hbefore hsource hid hurl).symm

lemma erase_of_not_contains (h : graph.contains id = false) : graph.erase id = graph := by
  have hentries : graph.entries.erase id = graph.entries := by
    apply Sorted.ext_find?
    intro other
    rw [Sorted.find?_erase]
    split
    · rename_i heq
      rw [SourceGraph.contains, Sorted.contains, Option.isSome_eq_false_iff,
        Option.isNone_iff_eq_none] at h
      rw [← heq, h]
    · rfl
  rw [SourceGraph.erase, hentries]

/-! ## What a site keeps -/

variable {site site' : Site} {tree : Tree} {changes changes' : Changes} {stale now : Bool}

/-- A site holds compiled content files, and what it keeps would be rendered again, unless that is
stale. -/
structure Sound (config : Config) (stale : Bool) (site : Site) : Prop where
  settings : site.resolver.settings = config.build
  compiled : Compiled site.graph
  cache : stale = false → site.resolver.cache.Coherent site.graph.toGraph config.build

/-- Taking a module out makes what is kept stale, unless it was not there. -/
lemma Sound.erase (h : Sound config stale site)
    (hnow : now = false → stale = false ∧ site.graph.contains id = false) :
    Sound config now { site with graph := site.graph.erase id } := by
  refine ⟨h.settings, h.compiled.erase id, ?_⟩
  intro hfresh
  obtain ⟨hbefore, hcontains⟩ := hnow hfresh
  dsimp only
  rw [erase_of_not_contains hcontains]
  exact h.cache hbefore

/-- Entering a content file makes what is kept stale, unless it was there under its url and what was
made by it or with it is taken back. -/
lemma Sound.enter (h : Sound config stale site) {source : Source} (hsource : IsCompiled source)
    (hnow : now = false → stale = false ∧ site.graph.contains source.id = true ∧
      urlOf? site.graph source.id = urlOf? (Site.enter site.graph source) source.id) :
    Sound config now
      { site with
        graph := Site.enter site.graph source
        resolver := (site.resolver.invalidate source.id).2 } := by
  have hcompiled := h.compiled.enter hsource
  refine ⟨h.settings, hcompiled, ?_⟩
  -- as long as the structure is the same, so are the answers of the graph
  intro hfresh
  obtain ⟨hbefore, hcontains, hurl⟩ := hnow hfresh
  have hsame := sameBut_enter h.compiled hsource hcontains hurl
  exact (h.cache hbefore).invalidate h.compiled.respects hcompiled.proper.toGraph.owned hsame

/-- Bringing a path up to date makes what is kept stale if it changes the structure. -/
lemma Sound.updatePath {path : String} (h : Sound config (stale || changes.structural) site)
    (hupdate : site.updatePath tree changes path = (.ok changes', site')) :
    Sound config (stale || changes'.structural) site' := by
  rw [Site.updatePath] at hupdate
  split at hupdate
  · -- the path is not in the content folder
    cases hupdate
    exact h
  · rename_i id hid
    split at hupdate
    · -- the file is gone
      cases hupdate
      refine h.erase ?_
      intro hfresh
      split at hfresh
      · rw [Bool.or_true] at hfresh
        cases hfresh
      · rename_i hcontains
        exact ⟨hfresh, Bool.eq_false_iff.2 hcontains⟩
    · split at hupdate
      · cases hupdate
      · rename_i source hcompile
        cases hupdate
        have hsource : id = source.id := by
          rw [moduleId?_of_compile hcompile] at hid
          exact (Option.some.inj hid).symm
        rw [hsource]
        refine h.enter (isCompiled_of_compile hcompile) ?_
        intro hfresh
        dsimp only at hfresh
        rw [Bool.or_eq_false_iff, Bool.or_eq_false_iff, Bool.or_eq_false_iff, Bool.not_eq_false',
          decide_eq_false_iff_not, ne_eq, not_not] at hfresh
        obtain ⟨hstale, hstructural, hcontains, hurl⟩ := hfresh
        exact ⟨Bool.or_eq_false_iff.2 ⟨hstale, hstructural⟩, hcontains, hurl⟩

/-- A build puts out the pages of the graph if nothing that is kept is stale. -/
lemma Sound.pages_build (h : Sound config false site) :
    (site.resolver.build site.graph.toGraph).1.pages
      = (site.graph.toGraph.output config.build).entries := by
  have hcache := h.cache rfl
  rw [← h.settings] at hcache ⊢
  exact (Resolver.build_spec h.compiled.proper.toGraph.keyed hcache).1

/-- A build keeps a site sound. -/
lemma Sound.build (h : Sound config stale site) (tree : Tree) :
    Sound config stale (site.build tree).2.1 := by
  refine ⟨h.settings, h.compiled, ?_⟩
  intro hfresh
  have hcache := h.cache hfresh
  rw [← h.settings] at hcache ⊢
  exact (Resolver.build_spec h.compiled.proper.toGraph.keyed hcache).2.2

end Site
end Bindery
