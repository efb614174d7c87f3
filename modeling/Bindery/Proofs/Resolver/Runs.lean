import Bindery.Proofs.Resolver.Histories
import Bindery.Proofs.Resolver.Memo
import Bindery.Proofs.Resolver.Urls

/-!
# Tables of contents over the life of a resolver

A resolver builds one graph after another, and is told to take back what it keeps. What is kept
stays through all that does not take it back, what is not kept stays so until a build asks for it,
and without a cache nothing is kept (`Resolver.isSome_toc?_after`, `Resolver.toc?_after_eq_none`,
`Resolver.tocs_after_eq_nil`). So in every build of every run a table of contents is rendered at
most once, and not at all while an earlier rendering is kept (`Resolver.tocs_rendered_once`).
-/

namespace Bindery

lemma Cache.isSome_toc?_iff {c : Cache} {id : String} :
    (c.toc? id).isSome ↔ ∃ toc, (id, toc) ∈ c.tocs := by
  rw [Option.isSome_iff_exists]
  constructor
  · rintro ⟨toc, h⟩
    exact ⟨toc, mem_of_find?_key h⟩
  · rintro ⟨toc, h⟩
    rw [← Option.isSome_iff_exists, toc?, Option.isSome_map, List.find?_isSome]
    exact ⟨_, h, decide_eq_true rfl⟩

namespace Resolver

open SourceGraph

/-- What is done with a resolver. -/
inductive Action where
  | build (g : ModuleGraph)
  | invalidate (id : String)
  | clear

/-- What becomes of a resolver by one action. -/
def Action.apply (r : Resolver) : Action → Resolver
  | .build g => (r.build g).2
  | .invalidate id => (r.invalidate id).2
  | .clear => r.clear

/-- What becomes of a resolver by several actions. -/
def after (r : Resolver) (actions : List Action) : Resolver := actions.foldl Action.apply r

variable {r : Resolver} {g : ModuleGraph} {id : String} {a : Action} {actions : List Action}

lemma settings_after (r : Resolver) (actions : List Action) :
    (r.after actions).settings = r.settings := by
  induction actions generalizing r with
  | nil => rfl
  | cons a rest ih =>
    refine (ih (a.apply r)).trans ?_
    cases a with
    | build g => exact congrArg (·.2.settings) (build_eq r g)
    | invalidate id => rfl
    | clear => rfl

/-! ## What is kept -/

/-- What is kept stays, but for what takes it back. -/
lemma isSome_toc?_apply (hinvalidate : a ≠ .invalidate id) (hclear : a ≠ .clear)
    (h : (r.cache.toc? id).isSome) : ((a.apply r).cache.toc? id).isSome := by
  cases a with
  | build g =>
    rw [Action.apply, Cache.toc?_of_append (cache_tocs_build r g), Option.isSome_or, h]
    rfl
  | invalidate other =>
    obtain ⟨toc, hmem⟩ := Cache.isSome_toc?_iff.1 h
    have hne : id ≠ other := fun heq => hinvalidate (congrArg Action.invalidate heq.symm)
    exact Cache.isSome_toc?_iff.2 ⟨toc, Cache.mem_tocs_invalidate.2 ⟨hmem, hne⟩⟩
  | clear => exact absurd rfl hclear

lemma isSome_toc?_after (hinvalidate : .invalidate id ∉ actions) (hclear : .clear ∉ actions)
    (h : (r.cache.toc? id).isSome) : ((r.after actions).cache.toc? id).isSome := by
  induction actions generalizing r with
  | nil => exact h
  | cons a rest ih =>
    rw [List.mem_cons, not_or] at hinvalidate hclear
    exact ih hinvalidate.2 hclear.2
      (isSome_toc?_apply (Ne.symm hinvalidate.1) (Ne.symm hclear.1) h)

/-- What is not kept is not kept after an action, but for a build that asks for it. -/
lemma toc?_apply_eq_none (hbuild : ∀ g, a = .build g → ¬ (r.log g).Names id)
    (h : r.cache.toc? id = none) : (a.apply r).cache.toc? id = none := by
  cases a with
  | build g => exact (toc?_build_of_not_names (hbuild g rfl)).trans h
  | invalidate other =>
    rw [← Option.not_isSome_iff_eq_none, Cache.isSome_toc?_iff] at h ⊢
    rintro ⟨toc, hmem⟩
    exact h ⟨toc, (Cache.mem_tocs_invalidate.1 hmem).1⟩
  | clear => rfl

lemma toc?_after_eq_none
    (hbuild : ∀ earlier g rest, actions = earlier ++ .build g :: rest →
      ¬ ((r.after earlier).log g).Names id)
    (h : r.cache.toc? id = none) : (r.after actions).cache.toc? id = none := by
  induction actions generalizing r with
  | nil => exact h
  | cons a rest ih =>
    -- the builds behind the first action, and the first action itself
    apply ih
    · intro earlier g later heq
      exact hbuild (a :: earlier) g later (congrArg (a :: ·) heq)
    · exact toc?_apply_eq_none (fun g heq => hbuild [] g rest (congrArg (· :: rest) heq)) h

/-- Without a cache nothing is kept. -/
lemma tocs_after_eq_nil (hoff : r.settings.cachePages = false) (h : r.cache.tocs = []) :
    (r.after actions).cache.tocs = [] := by
  induction actions generalizing r with
  | nil => exact h
  | cons a rest ih =>
    have hsettings : (a.apply r).settings = r.settings := settings_after r [a]
    refine ih (hsettings ▸ hoff) ?_
    cases a with
    | build g =>
      rw [Action.apply, cache_tocs_build, h, hoff]
      rfl
    | invalidate id => exact congrArg (List.filter _) h
    | clear => rfl

/-! ## What is rendered -/

/-- What a build had of a table of contents is not rendered again while it is kept. -/
lemma not_mem_tocIds_after (hon : r.settings.cachePages = true) (hnames : (r.log g).Names id)
    (hknown : ((g.job r.settings).tocsFrom r.cache id).isSome)
    (hinvalidate : .invalidate id ∉ actions) (hclear : .clear ∉ actions) (g' : ModuleGraph) :
    id ∉ (((r.build g).2.after actions).log g').tocIds := by
  rw [← toc?_build_of_names hon hnames] at hknown
  have hkept := isSome_toc?_after hinvalidate hclear hknown
  intro hmem
  obtain ⟨-, hmissing, -⟩ := mem_tocIds_log.1 hmem
  rw [hmissing] at hkept
  exact Bool.false_ne_true hkept

/-- A table of contents that failed in a build is rendered in the next one that asks for it, if its
module is a page there. -/
lemma mem_tocIds_after (hfailed : (g.job r.settings).tocsFrom r.cache id = none)
    (hbuild : ∀ earlier other rest, actions = earlier ++ .build other :: rest →
      ¬ (((r.build g).2.after earlier).log other).Names id) {g' : ModuleGraph}
    (hnames : (((r.build g).2.after actions).log g').Names id)
    (hloads : (g'.pageModule? id).isSome) :
    id ∈ (((r.build g).2.after actions).log g').tocIds :=
  mem_tocIds_log.2 ⟨hnames, toc?_after_eq_none hbuild (toc?_build_eq_none hfailed), hloads⟩

/-- Without a cache every table of contents that a page names and that loads is rendered. -/
lemma mem_tocIds_of_off (hoff : r.settings.cachePages = false) (hnone : r.cache.tocs = [])
    {page : Page} (hpage : page ∈ g.pages) (hid : id ∈ page.toc)
    (hloads : (g.pageModule? id).isSome) : id ∈ (r.log g).tocIds := by
  have hkeys : r.settings.cachePages = true → g.Distinct := by
    rw [hoff]
    exact fun hon => absurd hon Bool.false_ne_true
  have hrendered : page ∈ (g.job r.settings).rendered r.cache g.pages := by
    refine List.mem_filter.2 ⟨hpage, ?_⟩
    rw [Job.serves, ModuleGraph.job, hoff]
    rfl
  refine mem_tocIds_log.2 ⟨(names_log_iff hkeys).2 ⟨page, hrendered, hid⟩, ?_, hloads⟩
  rw [Cache.toc?, hnone]
  rfl

/-- In every build of every run a table of contents is rendered at most once, namely if a page that
is rendered names it, none is kept and its module is a page; the build is the same whether this is
written down or not. The pages that are rendered are those that are not kept, where no two are kept
under one key. They all see what came of a table of contents, and the hook is called for those that
came out. With a cache, one that a build had is not rendered again until it is taken back. One that
failed is rendered again in the next build that asks for it. Without a cache every build renders all
that the pages name. -/
theorem tocs_rendered_once (settings : BuildSettings) (before : List Action) (g : ModuleGraph) :
    let r := (Resolver.mk settings {}).after before
    let log := r.log g
    let known := (g.job settings).tocsFrom r.cache
    ((r.buildBy Job.logging g).run {}).1 = r.build g ∧
    log.tocIds.Nodup ∧
    (∀ id, id ∈ log.tocIds ↔
      log.Names id ∧ r.cache.toc? id = none ∧ (g.pageModule? id).isSome) ∧
    ((settings.cachePages = true → g.Distinct) →
      log.pages.map Prod.fst = (g.job settings).rendered r.cache g.pages) ∧
    (∀ id result, (id, result) ∈ log.tocs → result.toOption = known id) ∧
    (∀ page context, (page, context) ∈ log.pages → context =
      (g.job settings).contextOf page (Job.attributesOf page) (page.toc.bind known)) ∧
    (r.build g).1.tocs = log.tocs.filterMap (·.2.toOption) ∧
    (settings.cachePages = true → ∀ id, log.Names id → (known id).isSome →
      ∀ later g', .invalidate id ∉ later → .clear ∉ later →
        id ∉ (((r.build g).2.after later).log g').tocIds) ∧
    (∀ id, known id = none → ∀ later g',
      (∀ earlier other rest, later = earlier ++ .build other :: rest →
        ¬ (((r.build g).2.after earlier).log other).Names id) →
      (((r.build g).2.after later).log g').Names id → (g'.pageModule? id).isSome →
        id ∈ (((r.build g).2.after later).log g').tocIds) ∧
    (settings.cachePages = false → ∀ page ∈ g.pages, ∀ id ∈ page.toc,
      (g.pageModule? id).isSome → id ∈ log.tocIds) := by
  intro r log known
  have hsettings : r.settings = settings := settings_after _ before
  have hknown : (g.job r.settings).tocsFrom r.cache = known := by rw [hsettings]
  refine ⟨?_, nodup_tocIds_log r g, fun id => mem_tocIds_log, ?_, ?_, ?_, tocs_build r g,
    ?_, ?_, ?_⟩
  · exact congrArg Prod.fst (run_buildBy r g)
  · intro hkeys
    rw [← hsettings] at hkeys ⊢
    exact pages_log hkeys
  · intro id result hmem
    rw [toOption_of_mem_log hmem, hknown]
  · intro page context hmem
    rw [context_of_mem_log hmem, hknown, hsettings]
  · intro hon id hnames hsome later g' hinvalidate hclear
    rw [← hsettings] at hon
    exact not_mem_tocIds_after hon hnames (hknown ▸ hsome) hinvalidate hclear g'
  · intro id hnone later g' hbuild hnames hloads
    exact mem_tocIds_after (hknown ▸ hnone) hbuild hnames hloads
  · intro hoff page hpage id hid hloads
    have hempty : r.cache.tocs = [] := tocs_after_eq_nil hoff rfl
    rw [← hsettings] at hoff
    exact mem_tocIds_of_off hoff hempty hpage hid hloads

/-- A page and its table of contents are built twice: with a cache the second build does not render
the table of contents again, without one it does. -/
theorem tocs_rendered_once_twice :
    let g := sampleGraph.toGraph
    let r : Resolver := ⟨{}, {}⟩
    let off : Resolver := ⟨{ cachePages := false }, {}⟩
    "t.md" ∈ (r.log g).tocIds ∧ "t.md" ∉ ((r.build g).2.log g).tocIds ∧
      "t.md" ∈ ((off.build g).2.log g).tocIds := by
  intro g r off
  have hproper : sampleGraph.Proper := by
    apply Edit.proper_apply_module _ (proper_samplePage _ _ _ _ _)
    exact Edit.proper_apply_module (proper_empty _) (proper_samplePage _ _ _ _ _)
  let m := samplePage "a.md" "a" "A" (some "t.md") none
  have hname : Path.IsName "a" := ⟨by decide, by decide, by decide, by decide⟩
  have hplain : Link.IsPlain "a" :=
    ⟨["a"], by simp, fun name h => List.mem_singleton.1 h ▸ hname, rfl⟩
  have hurl : Link.normalize "a" = some "a" := by
    rw [hplain.normalize_eq (by decide), if_neg (by decide)]
  have hnormalized : m.page.normalized? = some m.page := by
    rw [Page.normalized?, if_neg (by decide)]
    exact congrArg (Option.map _) hurl
  have hpage : m.page ∈ g.pages := List.mem_flatMap.2 ⟨"a.md", List.mem_cons_self,
    ModuleGraph.mem_pagesOf.2 ⟨m, rfl, m.page, List.mem_singleton_self _, hnormalized⟩⟩
  have hnames : (r.log g).Names "t.md" :=
    (names_log_iff fun _ => hproper.toGraph.distinct).2
      ⟨m.page, List.mem_filter.2 ⟨hpage, rfl⟩, rfl⟩
  have hsome : ((g.job {}).tocsFrom {} "t.md").isSome := by rfl
  obtain ⟨-, -, hasked, -, -, -, -, hkept, -, -⟩ := tocs_rendered_once {} [] g
  obtain ⟨-, -, -, -, -, -, -, -, -, hfresh⟩ :=
    tocs_rendered_once { cachePages := false } [.build g] g
  exact ⟨(hasked "t.md").2 ⟨hnames, rfl, rfl⟩,
    hkept rfl "t.md" hnames hsome [] g List.not_mem_nil List.not_mem_nil,
    hfresh rfl m.page hpage "t.md" rfl rfl⟩

end Resolver
end Bindery
