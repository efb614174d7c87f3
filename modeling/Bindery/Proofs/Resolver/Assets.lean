import Bindery.Proofs.Path
import Bindery.Proofs.Resolver.Warnings

/-!
# What a build puts pages under

The urls under which a build puts out pages are those of the pages that are discovered, whatever is
in the cache and whatever fails. They lead below the output folder, and every discovered page adds
an asset or a warning that it overwrites one (`Resolver.build_assets`).
-/

namespace Bindery

/-! ## Warnings that a page is overwritten -/

/-- Whether a problem is that a page overwrites another one. -/
def Problem.isOverwrite : Problem → Bool
  | .overwrites _ => true
  | _ => false

/-- The warnings that a page overwrites another one. -/
def Diagnostics.overwrites (d : Diagnostics) : List Diagnostic :=
  d.warnings.filter (·.problem.isOverwrite)

/-- No page overwrites another one before it is put out. -/
lemma ModuleGraph.overwrites_urlWarnings (g : ModuleGraph) (pages : List Page) :
    (pages.flatMap g.urlWarnings).filter (·.problem.isOverwrite) = [] := by
  rw [List.filter_flatMap, List.flatMap_eq_nil_iff]
  intro page _
  rw [urlWarnings]
  split <;> rfl

/-- A page without a title overwrites no other one. -/
lemma Job.overwrites_titleWarnings (job : Job) (pages : List RenderedPage) :
    (pages.flatMap job.titleWarnings).filter (·.problem.isOverwrite) = [] := by
  rw [List.filter_flatMap, List.flatMap_eq_nil_iff]
  intro page _
  rw [titleWarnings]
  split <;> rfl

/-! ## The urls of a build -/

namespace Resolver

variable {job : Job} {known : String → Option Toc} {s : Session} {built : Sorted Asset × Session}

lemma overwrites_asset (h : s.Knows job known) (page : Page) :
    (job.asset s page).2.diagnostics.overwrites = s.diagnostics.overwrites := by
  have htitles := job.overwrites_titleWarnings
    ((job.rendered s.cache [page]).map (job.pageWith known))
  rw [List.flatMap_map] at htitles
  rw [Diagnostics.overwrites, asset_warnings h, List.filter_append, htitles, List.append_nil]
  rfl

lemma overwrites_discover (g : ModuleGraph) (s : Session) :
    (discover g s).2.diagnostics.overwrites = s.diagnostics.overwrites := by
  rw [Diagnostics.overwrites, discover_warnings, List.filter_append, g.overwrites_urlWarnings,
    List.append_nil]
  rfl

/-- A page that is put out has its url as a key, and makes either a new asset or a warning. -/
lemma addAsset_overwrites (h : built.2.Knows job known) (page : Page) :
    (∀ url, url ∈ (addAsset job built page).1.keys ↔ url = page.url ∨ url ∈ built.1.keys) ∧
      (addAsset job built page).1.size + (addAsset job built page).2.diagnostics.overwrites.length
        = built.1.size + built.2.diagnostics.overwrites.length + 1 := by
  rw [addAsset_eq]
  refine ⟨fun url => Sorted.mem_keys_insert, ?_⟩
  have hwarned : ((job.asset built.2 page).2.caution
        (overwriteWarnings job built.1 page)).diagnostics.overwrites.length
      = built.2.diagnostics.overwrites.length
        + ((overwriteWarnings job built.1 page).filter (·.problem.isOverwrite)).length := by
    rw [← overwrites_asset h page, Diagnostics.overwrites, Diagnostics.overwrites,
      ← List.length_append, ← List.filter_append]
    rfl
  rw [hwarned, Sorted.size_insert, overwriteWarnings]
  by_cases hthere : built.1.contains page.url = true
  · rw [if_pos hthere, if_pos hthere]
    exact (Nat.add_assoc _ _ _).symm
  · rw [if_neg hthere, if_neg hthere, List.filter_nil, List.length_nil]
    omega

lemma addAssets_overwrites (built : Sorted Asset × Session) (h : built.2.Knows job known)
    (pages : List Page) :
    (∀ url, url ∈ (pages.foldl (addAsset job) built).1.keys ↔
        url ∈ built.1.keys ∨ ∃ page ∈ pages, page.url = url) ∧
      (pages.foldl (addAsset job) built).1.size
          + (pages.foldl (addAsset job) built).2.diagnostics.overwrites.length
        = built.1.size + built.2.diagnostics.overwrites.length + pages.length := by
  induction pages generalizing built with
  | nil => simp
  | cons page rest ih =>
    obtain ⟨hkeys, hcount⟩ := addAsset_overwrites h page
    obtain ⟨hrestKeys, hrestCount⟩ := ih _ (addAsset_adds h page).1
    rw [List.foldl_cons]
    constructor
    · intro url
      rw [hrestKeys, hkeys, List.exists_mem_cons_iff, eq_comm (a := url)]
      tauto
    · rw [hrestCount, hcount, List.length_cons]
      omega

/-- The assets of a build, and the warnings that a page overwrites one of them. -/
lemma build_overwrites (r : Resolver) (g : ModuleGraph) :
    (∀ url, url ∈ (r.build g).1.assets.keys ↔ ∃ page ∈ g.pages, page.url = url) ∧
      (r.build g).1.assets.size + (r.build g).1.diagnostics.overwrites.length
        = g.pages.length := by
  let job : Job := g.job r.settings
  let start : Sorted Asset × Session := (.empty, (discover g { cache := r.cache }).2)
  have hstart : start.2.Knows job (job.tocsFrom r.cache) :=
    discover_knows (Session.knows_start job r.cache)
  -- a build starts with no asset and no such warning
  have hnone : start.2.diagnostics.overwrites = [] := overwrites_discover g _
  obtain ⟨hkeys, hcount⟩ := addAssets_overwrites start hstart g.pages
  rw [hnone] at hcount
  rw [build_eq]
  refine ⟨fun url => (hkeys url).trans (or_iff_right List.not_mem_nil), hcount.trans ?_⟩
  exact Nat.zero_add _

/-- A build puts out pages under the urls of the pages of the graph. -/
lemma mem_keys_build (r : Resolver) (g : ModuleGraph) (url : String) :
    url ∈ (r.build g).1.assets.keys ↔ ∃ page ∈ g.pages, page.url = url :=
  (build_overwrites r g).1 url

end Resolver

lemma Page.exists_normalized?_url {own : Page} {url : String} :
    (∃ page, own.normalized? = some page ∧ page.url = url) ↔
      own.url ≠ "" ∧ Link.normalize own.url = some url := by
  rw [Page.normalized?]
  by_cases hempty : own.url = ""
  · simp [hempty]
  · cases Link.normalize own.url <;> simp [hempty]

/-- A template puts out nothing; another module its own page, if that is emitted, and those that it
makes. -/
lemma PageModule.mem_outputs {m : PageModule} {page : Page} :
    page ∈ m.outputs ↔
      m.isTemplate = false ∧ (page = m.page ∧ m.page.emit ∨ page ∈ m.renderPages) := by
  rw [outputs]
  cases m.isTemplate <;> cases m.page.emit <;> simp

/-- The urls of the pages of a graph, by what its modules load to. -/
lemma ModuleGraph.exists_mem_pages_url {g : ModuleGraph} {url : String} :
    (∃ page ∈ g.pages, page.url = url) ↔
      ∃ id ∈ g.modules, ∃ m, g.load id = .ok (some m) ∧ m.isTemplate = false ∧
        ∃ page, (page = m.page ∧ m.page.emit ∨ page ∈ m.renderPages) ∧ page.url ≠ "" ∧
          Link.normalize page.url = some url := by
  constructor
  · rintro ⟨page, hpage, hurl⟩
    obtain ⟨id, hid, hpage⟩ := List.mem_flatMap.1 hpage
    obtain ⟨m, hm, own, hown, hnormalized⟩ := mem_pagesOf.1 hpage
    obtain ⟨htemplate, hown⟩ := PageModule.mem_outputs.1 hown
    exact ⟨id, hid, m, pageModule?_eq_some.1 hm, htemplate, own, hown,
      Page.exists_normalized?_url.1 ⟨page, hnormalized, hurl⟩⟩
  · rintro ⟨id, hid, m, hm, htemplate, own, hown, hurl⟩
    obtain ⟨page, hnormalized, hurl⟩ := Page.exists_normalized?_url.2 hurl
    refine ⟨page, List.mem_flatMap.2 ⟨id, hid, mem_pagesOf.2 ?_⟩, hurl⟩
    exact ⟨m, pageModule?_eq_some.2 hm, own, PageModule.mem_outputs.2 ⟨htemplate, hown⟩,
      hnormalized⟩

namespace Resolver

/-- Whatever a resolver has kept and whatever fails: a build puts out pages under the normalized
urls of the pages that are discovered and no others. Such a url is a path of names, so that joined
to an output folder it leads below it. As many pages are discovered as there are assets and warnings
that a page overwrites one. -/
theorem build_assets (r : Resolver) (g : ModuleGraph) :
    let b := (r.build g).1
    (∀ url, url ∈ b.assets.keys ↔
      ∃ id ∈ g.modules, ∃ m, g.load id = .ok (some m) ∧ m.isTemplate = false ∧
        ∃ page, (page = m.page ∧ m.page.emit ∨ page ∈ m.renderPages) ∧ page.url ≠ "" ∧
          Link.normalize page.url = some url) ∧
      (∀ url ∈ b.assets.keys, ∃ names, names ≠ [] ∧
        (∀ name ∈ names, Path.IsName name ∧ '\\' ∉ name.toList) ∧
        url = "/".intercalate names ∧
        ∀ output, Path.target (Path.join output url) = Path.target output ++ names) ∧
      (discover g { cache := r.cache }).1.length
        = b.assets.size + b.diagnostics.overwrites.length := by
  rw [discover_fst]
  intro b
  have hurls : ∀ url, url ∈ b.assets.keys ↔ ∃ page ∈ g.pages, page.url = url := mem_keys_build r g
  have hcount := (build_overwrites r g).2
  refine ⟨fun url => (hurls url).trans ModuleGraph.exists_mem_pages_url, ?_, hcount.symm⟩
  intro url hurl
  rw [hurls, ModuleGraph.exists_mem_pages_url] at hurl
  obtain ⟨-, -, -, -, -, page, -, -, hnormalize⟩ := hurl
  obtain ⟨names, hne, hnames, rfl⟩ := Link.exists_plain_names_of_normalize hnormalize
  exact ⟨names, hne, hnames, rfl,
    fun output => Path.target_join (fun name hname => (hnames name hname).1) output⟩

end Resolver
end Bindery
