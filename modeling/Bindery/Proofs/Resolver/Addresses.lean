import Bindery.Proofs.Resolver.Assets
import Bindery.Proofs.Resolver.Histories
import Bindery.Proofs.Site.Sources
import Mathlib

/-!
# The address of a page

A page is put out under its normalized url, and its neighbors in a table of contents are looked up
by the public url that belongs to it. A request for the module of the page leads to the url as the
module gives it, which is the same one just if that is normalized (`Resolver.resolve_own_page`). The
url of a compiled document is.
-/

namespace Bindery

/-! ## Plain paths -/

namespace Link

/-- A path that is written out: names with `/` between them. -/
def IsPlain (path : String) : Prop :=
  ∃ names, names ≠ [] ∧ (∀ name ∈ names, Path.IsName name) ∧ path = "/".intercalate names

variable {names : List String} {module id url key : String}

lemma walk_names_append (h : ∀ name ∈ names, Path.IsName name) (place rest : List String) :
    walk place (names ++ rest) = walk (names.reverse ++ place) rest := by
  induction names generalizing place with
  | nil => rfl
  | cons name names ih =>
    obtain ⟨hname, hnames⟩ := List.forall_mem_cons.1 h
    rw [List.cons_append, walk_enter ⟨hname.ne_empty, hname.ne_dot, hname.ne_dots⟩, ih hnames,
      List.reverse_cons, List.append_assoc, List.singleton_append]

/-- Names joined by slashes are not empty, if there are any. -/
lemma intercalate_ne_empty (hne : names ≠ []) (h : ∀ name ∈ names, Path.IsName name) :
    "/".intercalate names ≠ "" := by
  intro hempty
  have hnames := segments_intercalate hne fun name hname => (h name hname).not_mem
  rw [hempty, segments_of_not_mem (by simp)] at hnames
  exact (h "" (hnames ▸ List.mem_singleton_self "")).ne_empty rfl

/-- A request from the root walks the path that it names. -/
lemma resolve_rooted :
    resolve module ("/" ++ id) = some key ↔
      ∃ place, place ≠ [] ∧ walk [] (segments id) = some place ∧
        key = "/".intercalate place.reverse := by
  have hstart : ("/" ++ id).startsWith "/" := by
    rw [String.startsWith_string_iff, String.toList_append]
    exact List.prefix_append _ _
  have hsegments : segments ("/" ++ id) = "" :: segments id := by
    have hempty := segments_append "" id
    rw [String.empty_append] at hempty
    exact hempty
  have hwalk : walk [] ("" :: segments id) = walk [] (segments id) := by
    rw [walk, if_pos (by simp)]
  rw [resolve, if_pos hstart, hsegments, hwalk]
  cases walk [] (segments id) with
  | none => simp
  | some place => cases place <;> simp [eq_comm]

/-- A request leads to a plain path. -/
lemma isPlain_of_resolve (h : resolve module ("/" ++ id) = some key) : IsPlain key := by
  obtain ⟨place, hne, hwalk, rfl⟩ := resolve_rooted.1 h
  have hnames := isName_of_mem_walk (by simp) (fun s hs => not_mem_of_mem_segments hs) hwalk
  exact ⟨place.reverse, by simpa using hne, fun name hname => hnames name (by simpa using hname),
    rfl⟩

/-- A request from the root leads to the path that it names if and only if that is plain. -/
lemma resolve_rooted_iff : resolve module ("/" ++ id) = some id ↔ IsPlain id := by
  constructor
  · exact isPlain_of_resolve
  · rintro ⟨names, hne, hnames, rfl⟩
    have hwalk : walk [] names = some names.reverse := by
      simpa [walk] using walk_names_append hnames [] []
    refine resolve_rooted.2 ⟨names.reverse, by simpa using hne, ?_, by rw [List.reverse_reverse]⟩
    rw [segments_intercalate hne fun name hname => (hnames name hname).not_mem, hwalk]

lemma normalize_eq (h : normalize url = some key) : resolve "" ("/" ++ url) = some key := by
  rw [normalize] at h
  split at h
  · cases h
  · exact h

/-- A plain url is normalized. -/
lemma IsPlain.eq_of_normalize (hurl : IsPlain url) (h : normalize url = some key) : url = key := by
  have hresolve := normalize_eq h
  rw [resolve_rooted_iff.2 hurl] at hresolve
  exact Option.some.inj hresolve

end Link

/-! ## The urls of documents -/

namespace Document

open Link

variable {id url : String}

lemma isName_html {stem : List Char} (h : '/' ∉ stem) :
    Path.IsName (String.ofList stem ++ ".html") := by
  -- the extension makes it longer than the texts that are no names
  have hlength : 5 ≤ (String.ofList stem ++ ".html").length := by
    rw [String.length_append]
    exact Nat.le_add_left 5 _
  have hne : ∀ {text : String}, text.length < 5 → String.ofList stem ++ ".html" ≠ text := by
    rintro text hshort rfl
    exact absurd hlength (Nat.not_le.2 hshort)
  refine ⟨hne (by decide), hne (by decide), hne (by decide), ?_⟩
  rw [String.toList_append, String.toList_ofList, List.mem_append, not_or]
  exact ⟨h, by decide⟩

/-- The url of a document that does not give one, with the name of the file in another extension. -/
lemma defaultUrl_eq (id : String) :
    ∃ stem, (∀ c ∈ stem, c ∈ ((segments id).getLast?.getD "").toList) ∧
      let folder := "/".intercalate (segments id).dropLast
      let page := String.ofList stem ++ ".html"
      defaultUrl id = if folder.isEmpty then page else folder ++ "/" ++ page := by
  let file := ((segments id).getLast?.getD "").toList
  cases hcut : file.reverse.dropWhile (· ≠ '.') with
  | nil => exact ⟨file, fun _ hc => hc, by rw [defaultUrl, hcut]⟩
  | cons dot name =>
    refine ⟨name.reverse, ?_, by rw [defaultUrl, hcut]⟩
    intro c hc
    have hmem : c ∈ file.reverse.dropWhile (· ≠ '.') := by
      rw [hcut]
      exact List.mem_cons_of_mem _ (List.mem_reverse.1 hc)
    exact List.mem_reverse.1 ((List.dropWhile_sublist _).mem hmem)

/-- A document with a plain id has a plain url, if it does not give one. -/
lemma isPlain_defaultUrl (h : IsPlain id) : IsPlain (defaultUrl id) := by
  obtain ⟨names, hne, hnames, rfl⟩ := h
  obtain ⟨stem, hstem, hurl⟩ := defaultUrl_eq ("/".intercalate names)
  rw [segments_intercalate hne fun name hname => (hnames name hname).not_mem] at hstem hurl
  have hlast : '/' ∉ stem := by
    intro hmem
    have hfile := hstem _ hmem
    rw [List.getLast?_eq_some_getLast hne] at hfile
    exact (hnames _ (List.getLast_mem hne)).not_mem hfile
  have hpage := isName_html hlast
  have hfolder : ∀ name ∈ names.dropLast, Path.IsName name :=
    fun name hname => hnames name ((List.dropLast_sublist names).mem hname)
  refine ⟨names.dropLast ++ [String.ofList stem ++ ".html"], by simp, ?_, ?_⟩
  · intro name hname
    rcases List.mem_append.1 hname with hname | hname
    · exact hfolder name hname
    · rw [List.mem_singleton.1 hname]
      exact hpage
  · by_cases htop : names.dropLast = []
    · rw [hurl, htop]
      rfl
    · have hnonempty := intercalate_ne_empty htop hfolder
      rw [hurl, String.intercalate_append_of_ne_nil htop (by simp),
        if_neg (by simpa using hnonempty), String.intercalate_singleton, String.append_assoc]

lemma isPlain_urlOf {attributes : List (String × Value)} (hid : IsPlain id)
    (h : urlOf id attributes = .ok url) : url = "" ∨ IsPlain url := by
  rw [urlOf] at h
  split at h
  · cases h
    exact .inr (isPlain_defaultUrl hid)
  · split at h
    · cases h
      exact .inl rfl
    · split at h
      · rename_i hnormalize
        cases h
        exact .inr (isPlain_of_resolve (normalize_eq hnormalize))
      · cases h
  · cases h

/-- The url of a compiled document with a plain id is plain, unless it is empty. -/
lemma isPlain_url {options : DocumentOptions} {source : String} {d : Document} (hid : IsPlain id)
    (h : compile options id source = .ok d) : d.url = "" ∨ IsPlain d.url := by
  rw [compile] at h
  split at h
  swap
  · cases h
  obtain ⟨⟨front, body⟩, -, h⟩ := bind_eq_ok.1 h
  obtain ⟨attributes, -, h⟩ := bind_eq_ok.1 h
  obtain ⟨source, -, h⟩ := bind_eq_ok.1 h
  obtain ⟨code, -, h⟩ := bind_eq_ok.1 h
  obtain ⟨url, hurl, h⟩ := bind_eq_ok.1 h
  obtain ⟨template, -, h⟩ := bind_eq_ok.1 h
  obtain ⟨toc, -, h⟩ := bind_eq_ok.1 h
  cases h
  exact isPlain_urlOf hid hurl

end Document

/-! ## Addresses in a build -/

/-- The pages that a page sees around itself are those around its public url. -/
lemma Job.lookup_contextOf (job : Job) (page : Page) (attributes : List (String × Value))
    (toc : Toc) :
    let context := job.contextOf page attributes (some toc)
    let around := toc.neighbors (job.settings.publicUrl page.url)
    Value.lookup "previous" context = around.1.map TocEntry.toValue ∧
      Value.lookup "next" context = around.2.map TocEntry.toValue := by
  dsimp only
  rw [contextOf]
  dsimp only [Option.map_some, Option.getD_some]
  rw [tocContext]
  generalize toc.neighbors (job.settings.publicUrl page.url) = around
  obtain ⟨before, after⟩ := around
  cases before <;> cases after <;> exact ⟨rfl, rfl⟩

lemma SourceGraph.exists_of_load {g : SourceGraph} {id : String} {m : PageModule}
    (h : g.load id = .ok (some m)) :
    ∃ resource dependencies,
      g.entries.find? id = some (.module resource (.ok m) dependencies) := by
  rw [load] at h
  split at h <;> cases h
  rename_i hentry
  exact ⟨_, _, hentry⟩

/-- What a request from the root for a module of a content folder leads to. -/
lemma SourceGraph.resolve_module {g : SourceGraph} {id : String} {m : PageModule}
    (hm : g.load id = .ok (some m)) (hid : Link.IsPlain id) (module : String) :
    g.resolve module ("/" ++ id) = .ok (g.publicPath ++ m.page.url) := by
  obtain ⟨resource, dependencies, hentry⟩ := exists_of_load hm
  rw [resolve, Link.resolve_rooted_iff.2 hid]
  dsimp only
  rw [hentry]

namespace Resolver

open SourceGraph

/-- The own page of a module of a content folder is put out under its normalized url, and the pages
around it are looked up by the public url that belongs to this. A request from the root leads to the
module just if its id is plain, and then to the url as the module gives it; this is where the page
is put out if and only if the url is normalized. It is for a compiled document. -/
theorem resolve_own_page (r : Resolver) {g : SourceGraph}
    (hpath : g.publicPath = r.settings.publicPath) {id : String} {m : PageModule} {page : Page}
    (hm : g.load id = .ok (some m)) (htemplate : m.isTemplate = false) (hemit : m.page.emit = true)
    (hpage : m.page.normalized? = some page) :
    page ∈ g.toGraph.pages ∧ page.url ∈ (r.build g.toGraph).1.assets.keys ∧
      (∀ attributes toc,
        let context := (g.toGraph.job r.settings).contextOf page attributes (some toc)
        let around := toc.neighbors (r.settings.publicUrl page.url)
        Value.lookup "previous" context = around.1.map TocEntry.toValue ∧
          Value.lookup "next" context = around.2.map TocEntry.toValue) ∧
      (∀ module, (Link.resolve module ("/" ++ id) = some id ↔ Link.IsPlain id) ∧
        (Link.IsPlain id →
          g.resolve module ("/" ++ id) = .ok (r.settings.publicPath ++ m.page.url) ∧
            (g.resolve module ("/" ++ id) = .ok (r.settings.publicUrl page.url) ↔
              m.page.url = page.url))) ∧
      ∀ options source d, Link.IsPlain id → Document.compile options id source = .ok d →
        m = .ofDocument d → m.page.url = page.url := by
  have hmodule : id ∈ g.modules := by
    obtain ⟨resource, dependencies, hentry⟩ := exists_of_load hm
    rw [SourceGraph.modules, Sorted.mem_keys_iff, hentry]
    rfl
  have hmem : page ∈ g.toGraph.pages := by
    refine List.mem_flatMap.2 ⟨id, hmodule, ModuleGraph.mem_pagesOf.2 ⟨m, ?_, m.page, ?_, hpage⟩⟩
    · exact pageModule?_toGraph.2 hm
    · exact PageModule.mem_outputs.2 ⟨htemplate, .inl ⟨rfl, hemit⟩⟩
  have hurl : m.page.url ≠ "" ∧ Link.normalize m.page.url = some page.url :=
    Page.exists_normalized?_url.1 ⟨page, hpage, rfl⟩
  refine ⟨hmem, (mem_keys_build r _ _).2 ⟨page, hmem, rfl⟩,
    Job.lookup_contextOf (g.toGraph.job r.settings) page, fun module => ⟨?_, fun hid => ?_⟩, ?_⟩
  · exact Link.resolve_rooted_iff
  · have hresolve := SourceGraph.resolve_module hm hid module
    rw [hpath] at hresolve
    refine ⟨hresolve, ?_⟩
    rw [hresolve, BuildSettings.publicUrl, Except.ok.injEq, String.append_right_inj]
  · intro options source d hid hd hdocument
    have hown : m.page.url = d.url := by rw [hdocument]; rfl
    rcases Document.isPlain_url hid hd with hempty | hplain
    · exact absurd (hown.trans hempty) hurl.1
    · exact Link.IsPlain.eq_of_normalize (hown ▸ hplain) hurl.2

/-- A request for a page with a normalized url leads to where the page is put out. -/
theorem resolve_own_page_normalized :
    ∃ m page, sampleGraph.load "a.md" = .ok (some m) ∧ m.isTemplate = false ∧
      m.page.emit = true ∧ m.page.normalized? = some page ∧ Link.IsPlain "a.md" ∧
      page.url ∈ ((Resolver.mk {} {}).build sampleGraph.toGraph).1.assets.keys ∧
      ∀ module, sampleGraph.resolve module "/a.md" = .ok (({} : BuildSettings).publicUrl page.url) := by
  let m := samplePage "a.md" "a" "A" (some "t.md") none
  have hm : sampleGraph.load "a.md" = .ok (some m) := by rfl
  have hpage : m.page.normalized? = some m.page := by
    have hurl : Link.normalize "a" = some "a" := by cbv
    show (if "a".isEmpty then none else (Link.normalize "a").map _) = _
    rw [hurl]
    rfl
  have hname : Path.IsName "a.md" := ⟨by decide, by decide, by decide, by decide⟩
  have hid : Link.IsPlain "a.md" :=
    ⟨["a.md"], by simp, fun name h => List.mem_singleton.1 h ▸ hname, rfl⟩
  obtain ⟨-, hkey, -, hresolve, -⟩ :=
    resolve_own_page (Resolver.mk {} {}) (g := sampleGraph) rfl hm rfl rfl hpage
  exact ⟨m, m.page, hm, rfl, rfl, hpage, hid, hkey,
    fun module => ((hresolve module).2 hid).2.2 rfl⟩

/-- A page that gives its url with a step that leads nowhere. -/
def dotted : SourceGraph :=
  (Edit.module "a.md" "content/a.md" (samplePage "a.md" "./a" "A" none none)).apply ⟨"/", .empty⟩

/-- The page is put out without the step. The request for it has the step, and is not the public url
by which its neighbors are looked up. -/
theorem dotted_url_is_not_normalized :
    let settings : BuildSettings := {}
    let b := ((Resolver.mk settings {}).build dotted.toGraph).1
    dotted.publicPath = settings.publicPath ∧ b.assets.keys = ["a"] ∧
      settings.publicUrl "a" = "/a" ∧ dotted.resolve "b.md" ("/" ++ "a.md") = .ok "/./a" :=
  ⟨by cbv, by cbv, by cbv, by cbv⟩

end Resolver
end Bindery
