import Bindery.Proofs.Resolver.Histories
import Bindery.Proofs.Resolver.Reports
import Mathlib

/-!
# What a build leaves unreported

A new resolver renders every page and so reports everything that a graph has to report. A resolver
that keeps pages renders fewer. The pages that it keeps are clean, but a page is also kept if the
failure of its template to load was reported for another page before: once that page does not need
the template any more, the failure goes unreported. These templates are all that is left out
(`Resolver.History.errors_perm`).
-/

namespace Bindery

/-! ## Cached pages stay clean -/

namespace Job

open ModuleGraph

variable {g g' : ModuleGraph} {settings : BuildSettings} {ids : List String} {id : String}
variable {job : Job} {page : Page}

lemma bodyErrors_eq_nil_iff {context : List (String × Value)} :
    job.bodyErrors page context = []
      ↔ (page.render (job.scope context page.module)).toOption.isSome := by
  rw [bodyErrors]
  cases page.render (job.scope context page.module) <;> simp [Except.toOption]

lemma templateErrors_eq_nil_iff {context : List (String × Value)} {t : Titled} :
    job.templateErrors page context t = []
      ↔ ∀ id ∈ page.template, ∀ m, job.graph.pageModule? id = some m →
        (m.page.render (job.scope (templateContext context t) id)).toOption.isSome := by
  rw [templateErrors, List.flatMap_eq_nil_iff]
  simp only [Option.mem_toList, List.flatMap_eq_nil_iff]
  refine forall_congr' fun id => imp_congr_right fun _ => forall_congr' fun m =>
    imp_congr_right fun _ => ?_
  cases m.page.render (job.scope (templateContext context t) id) <;> simp [Except.toOption]

/-- A clean page that was not made with the edited module stays clean. -/
lemma IsClean.unmoved (hclean : (Job.mk g settings ids).IsClean page) (h : Unmoved id g g')
    (hpage : page ∈ g.pages) (hmodule : page.module ≠ id)
    (hdependencies : id ∉ dependenciesOf page) :
    (Job.mk g' settings ids).IsClean page := by
  obtain ⟨herrors, htocs⟩ := hclean
  have hsteady := h.pages page hpage hmodule
  rw [pageErrors, List.append_eq_nil_iff, bodyErrors_eq_nil_iff, templateErrors_eq_nil_iff]
    at herrors
  obtain ⟨hbody, htemplate⟩ := herrors
  constructor
  · rw [pageErrors, List.append_eq_nil_iff, bodyErrors_eq_nil_iff, templateErrors_eq_nil_iff,
      toc_unmoved h hdependencies]
    constructor
    · rw [← render_steady hsteady]
      exact hbody
    · intro template htemplates m hm
      have hne : template ≠ id := by
        rintro rfl
        exact hdependencies (List.mem_append_right _ (Option.mem_toList.2 htemplates))
      have hm' : g.pageModule? template = some m := by
        rw [← h.pageModule? hne]
        exact hm
      rw [← render_steady (h.templates template m hne hm'), bodyOf_unmoved hsteady]
      exact htemplate template htemplates m hm'
  · intro toc htoc
    have hne : toc ≠ id := by
      rintro rfl
      exact hdependencies (List.mem_append_left _ (Option.mem_toList.2 htoc))
    rw [tocOf_unmoved h hne]
    exact htocs toc htoc

end Job

namespace Cache

variable {g g' : ModuleGraph} {settings : BuildSettings} {c c' : Cache} {id : String}

lemma clean_of_empty (hpages : c.pages = []) : c.Clean g settings := by
  intro key entry hmem
  rw [hpages] at hmem
  exact absurd hmem List.not_mem_nil

lemma Clean.mono (h : c.Clean g settings) (hpages : c'.pages ⊆ c.pages) : c'.Clean g settings :=
  fun key entry hmem => h key entry (hpages hmem)

/-- What is left of a clean cache, once everything made by an edited module or with it was taken
back, is clean after the edit. -/
lemma Clean.invalidate_of_unmoved (hclean : c.Clean g settings) (hc : c.Coherent g settings)
    (howned : g'.Owned) (h : g.Unmoved id g') : (c.invalidate id).Clean g' settings := by
  intro key entry hmem ids page hpage hkey
  obtain ⟨hmem, hmodule, hunused⟩ := mem_pages_invalidate.1 hmem
  have hne : page.module ≠ id := by
    rw [← hkey] at hmodule
    exact hmodule
  have hbefore := h.mem_pages howned hpage hne
  obtain ⟨-, hdependencies⟩ := hc.pages key entry hmem ids page hbefore hkey
  rw [hdependencies] at hunused
  exact (hclean key entry hmem ids page hbefore hkey).unmoved h hbefore hne hunused

end Cache

namespace Resolver

open SourceGraph

/-- Everything that a resolver does not have to take back yet is clean. -/
lemma History.clean {allowed : SourceGraph → Edit → Prop} {settings : BuildSettings} {r : Resolver}
    {g : SourceGraph} {untold : Untold}
    (hallowed : ∀ g edit, g.Proper → allowed g edit →
      g.toGraph.Unmoved edit.id (edit.apply g).toGraph)
    (h : History allowed settings r g untold) (hother : untold.other = false) :
    (r.cache.without untold.modules).Clean g.toGraph settings := by
  induction h with
  | start => exact Cache.clean_of_empty rfl
  | edit edit hbefore hedit hg ih =>
    have hclean := ih hother
    have hcoherent := hbefore.coherent hallowed hother
    exact hclean.invalidate_of_unmoved hcoherent hg.toGraph.owned
      (hallowed _ edit hbefore.proper hedit)
  | replace => exact absurd hother Bool.noConfusion
  | invalidate id _ ih =>
    have hclean := ih hother
    exact hclean.mono Cache.pages_invalidate_without_subset
  | clear => exact Cache.clean_of_empty rfl
  | @build r g hbefore ih =>
    have hcoherent : r.cache.Coherent g.toGraph r.settings := by
      rw [hbefore.settings_eq]
      exact hbefore.coherent hallowed rfl
    have hclean : r.cache.Clean g.toGraph r.settings := by
      rw [hbefore.settings_eq]
      exact ih rfl
    have hbuilt := (build_reports hbefore.proper.toGraph hcoherent hclean).2
    rw [hbefore.settings_eq] at hbuilt
    exact hbuilt

/-! ## Rendering fewer pages -/

/-- The templates that are not there for pages from the cache, and that nothing else in the build
has asked for. -/
def unreported (r : Resolver) (g : ModuleGraph) : List String :=
  (g.pages.flatMap fun page => page.template.toList).dedup.filter fun id =>
    (g.pageModule? id).isNone && id ∉ g.neededFor (r.rendered g)

/-- Errors of pages without errors do not count. -/
lemma flatMap_filter_of_nil {α β : Type} {l : List α} {p : α → Bool} {f : α → List β}
    (h : ∀ a ∈ l, p a = false → f a = []) : (l.filter p).flatMap f = l.flatMap f := by
  induction l with
  | nil => rfl
  | cons a rest ih =>
    have hrest := ih fun b hb => h b (List.mem_cons_of_mem _ hb)
    rw [List.flatMap_cons, ← hrest]
    cases hp : p a with
    | true => rw [List.filter_cons_of_pos hp, List.flatMap_cons]
    | false =>
      rw [List.filter_cons_of_neg (by rw [hp]; exact Bool.false_ne_true),
        h a List.mem_cons_self hp, List.nil_append]

variable {r : Resolver} {g : ModuleGraph}

/-- What is needed for all pages is needed for those that are rendered, or is a template that goes
unreported if it does not load. -/
lemma neededFor_perm
    (hclean : ∀ page ∈ g.pages, page ∈ r.rendered g ∨ (g.job r.settings).IsClean page) :
    ((g.neededFor g.pages).dedup.filter fun id => (g.pageModule? id).isNone).Perm
      (((g.neededFor (r.rendered g)).dedup.filter fun id => (g.pageModule? id).isNone)
        ++ r.unreported g) := by
  have hnodup : (((g.neededFor (r.rendered g)).dedup.filter fun id => (g.pageModule? id).isNone)
      ++ r.unreported g).Nodup := by
    refine List.nodup_append.2 ⟨(List.nodup_dedup _).filter _, (List.nodup_dedup _).filter _, ?_⟩
    intro id hid other hother heq
    rw [List.mem_filter, List.mem_dedup] at hid
    rw [unreported, List.mem_filter] at hother
    have hnot := hother.2
    rw [Bool.and_eq_true, decide_eq_true_eq, ← heq] at hnot
    exact hnot.2 hid.1
  rw [List.perm_ext_iff_of_nodup ((List.nodup_dedup _).filter _) hnodup]
  intro id
  rw [List.mem_append, unreported, List.mem_filter, List.mem_filter, List.mem_filter]
  simp only [List.mem_dedup, Bool.and_eq_true, decide_eq_true_eq]
  constructor
  · rintro ⟨hneeded, hnone⟩
    by_cases hmem : id ∈ g.neededFor (r.rendered g)
    · exact .inl ⟨hmem, hnone⟩
    · refine .inr ⟨?_, hnone, hmem⟩
      rcases List.mem_append.1 hneeded with hfails | hdependency
      · exact absurd (List.mem_append_left _ hfails) hmem
      · obtain ⟨page, hpage, hid⟩ := List.mem_flatMap.1 hdependency
        rcases hclean page hpage with hrendered | hcleaned
        · exact absurd (List.mem_append_right _ (List.mem_flatMap.2 ⟨page, hrendered, hid⟩)) hmem
        · rcases List.mem_append.1 hid with htoc | htemplate
          · -- the table of contents of a clean page is there
            have htocOf := hcleaned.2 id (Option.mem_toList.1 htoc)
            have hmissing : g.pageModule? id = none := Option.isNone_iff_eq_none.1 hnone
            have htocOf : ((g.pageModule? id).bind _).isSome := htocOf
            rw [hmissing] at htocOf
            cases htocOf
          · exact List.mem_flatMap.2 ⟨page, hpage, htemplate⟩
  · rintro (⟨hneeded, hnone⟩ | ⟨htemplate, hnone, -⟩)
    · refine ⟨?_, hnone⟩
      rcases List.mem_append.1 hneeded with hfails | hdependency
      · exact List.mem_append_left _ hfails
      · obtain ⟨page, hpage, hid⟩ := List.mem_flatMap.1 hdependency
        exact List.mem_append_right _
          (List.mem_flatMap.2 ⟨page, (List.mem_filter.1 hpage).1, hid⟩)
    · obtain ⟨page, hpage, hid⟩ := List.mem_flatMap.1 htemplate
      exact ⟨List.mem_append_right _
        (List.mem_flatMap.2 ⟨page, hpage, List.mem_append_right _ hid⟩), hnone⟩

/-- The tables of contents of clean pages have nothing to report. -/
lemma tocErrors_perm
    (hclean : ∀ page ∈ g.pages, page ∈ r.rendered g ∨ (g.job r.settings).IsClean page) :
    ((g.pages.flatMap fun page => page.toc.toList).dedup.flatMap
        (g.job r.settings).tocErrors).Perm
      (((r.rendered g).flatMap fun page => page.toc.toList).dedup.flatMap
        (g.job r.settings).tocErrors) := by
  let tocs := (r.rendered g).flatMap fun page => page.toc.toList
  have hrest : ∀ id ∈ (g.pages.flatMap fun page => page.toc.toList).dedup,
      decide (id ∈ tocs) = false → (g.job r.settings).tocErrors id = [] := by
    intro id hid hnot
    rw [List.mem_dedup] at hid
    obtain ⟨page, hpage, htoc⟩ := List.mem_flatMap.1 hid
    rcases hclean page hpage with hrendered | hcleaned
    · exact absurd (List.mem_flatMap.2 ⟨page, hrendered, htoc⟩) (of_decide_eq_false hnot)
    · exact Job.tocErrors_of_isSome (hcleaned.2 id (Option.mem_toList.1 htoc))
  rw [← flatMap_filter_of_nil hrest]
  refine .flatMap_right _ ?_
  rw [List.perm_ext_iff_of_nodup ((List.nodup_dedup _).filter _) (List.nodup_dedup _)]
  intro id
  rw [List.mem_filter, List.mem_dedup, List.mem_dedup, decide_eq_true_eq]
  refine and_iff_right_of_imp ?_
  intro hid
  obtain ⟨page, hpage, htoc⟩ := List.mem_flatMap.1 hid
  exact List.mem_flatMap.2 ⟨page, (List.mem_filter.1 hpage).1, htoc⟩

/-- Where the pages from the cache are clean, rendering them too adds the unreported templates to
the report, and nothing else. -/
lemma reports_perm
    (hclean : ∀ page ∈ g.pages, page ∈ r.rendered g ∨ (g.job r.settings).IsClean page) :
    (g.reports r.settings g.pages).Perm
      (g.reports r.settings (r.rendered g) ++ (r.unreported g).flatMap g.loadErrors) := by
  have hpages : (r.rendered g).flatMap (g.job r.settings).pageErrors
      = g.pages.flatMap (g.job r.settings).pageErrors := by
    refine flatMap_filter_of_nil ?_
    intro page hpage hserved
    rcases hclean page hpage with hrendered | hcleaned
    · rw [(List.mem_filter.1 hrendered).2] at hserved
      cases hserved
    · exact hcleaned.1
  have hneeded := (neededFor_perm hclean).flatMap_right g.loadErrors
  rw [List.flatMap_append] at hneeded
  have htocs := tocErrors_perm hclean
  rw [List.perm_iff_count] at hneeded htocs ⊢
  intro d
  have hneeded := hneeded d
  have htocs := htocs d
  rw [ModuleGraph.reports, ModuleGraph.reports, hpages]
  simp only [List.count_append] at hneeded htocs ⊢
  omega

/-- An unreported template would be reported once. -/
lemma length_unreported :
    ((r.unreported g).flatMap g.loadErrors).length = (r.unreported g).length := by
  have hone : ∀ id ∈ r.unreported g, (g.loadErrors id).length = 1 := by
    intro id hid
    rw [unreported, List.mem_filter, Bool.and_eq_true] at hid
    have hmissing := Option.isNone_iff_eq_none.1 hid.2.1
    cases hobstacle : g.obstacle? id with
    | none =>
      have hpage := ModuleGraph.obstacle?_eq_none_iff.1 hobstacle
      rw [hmissing] at hpage
      cases hpage
    | some reason =>
      rw [ModuleGraph.loadErrors_of_obstacle hobstacle]
      rfl
  rw [List.length_flatMap, List.map_congr_left hone]
  simp

/-- Where every template is a document of the graph, be it one that fails to compile, nothing goes
unreported: such a failure is reported before anything is rendered. -/
lemma unreported_eq_nil {g : SourceGraph}
    (h : ∀ page ∈ g.toGraph.pages, ∀ id ∈ page.template,
      g.standing id ≠ .absent ∧ g.standing id ≠ .copied) : r.unreported g.toGraph = [] := by
  rw [unreported, List.filter_eq_nil_iff]
  intro id hid hmissing
  rw [List.mem_dedup] at hid
  obtain ⟨page, hpage, htemplate⟩ := List.mem_flatMap.1 hid
  obtain ⟨hfound, hdocument⟩ := h page hpage id (Option.mem_toList.1 htemplate)
  rw [Bool.and_eq_true, decide_eq_true_eq] at hmissing
  obtain ⟨hnone, hneeded⟩ := hmissing
  have hmem : id ∈ g.toGraph.modules := by
    refine Sorted.mem_keys_iff.2 ?_
    rw [standing] at hfound
    cases hfind : g.entries.find? id with
    | none =>
      rw [hfind] at hfound
      exact absurd rfl hfound
    | some entry => rfl
  have hfails : g.toGraph.fails id = false := by
    rw [Bool.eq_false_iff]
    intro hfails
    exact hneeded (List.mem_append_left _ (List.mem_filter.2 ⟨hmem, hfails⟩))
  have hload : g.load id = .ok none := by
    have hnone : g.toGraph.pageModule? id = none := Option.isNone_iff_eq_none.1 hnone
    rw [ModuleGraph.pageModule?] at hnone
    rw [ModuleGraph.fails] at hfails
    show g.toGraph.load id = _
    cases hload : g.toGraph.load id with
    | ok m =>
      rw [hload] at hnone
      rw [show m = none from hnone]
    | error reason =>
      rw [hload] at hfails
      cases hfails
  -- what loads as no page without a failure is a file that is copied
  rw [load] at hload
  split at hload <;> rename_i hfind
  · cases hload
  · cases hload
  · exact hdocument (by rw [standing, hfind, standingOf])
  · cases hload

/-- A resolver that was told of every edit in time reports what a new resolver reports, but for the
unreported templates. So the reports are the same exactly if there are none of these, and they are
if every template that a page names is a document of the graph. An edit must not change how a
request of another module is answered. -/
theorem History.errors_perm {settings : BuildSettings} {r : Resolver} {g : SourceGraph}
    (h : History Edit.Unasked settings r g {}) :
    let errors := (r.build g.toGraph).1.diagnostics.errors
    let new := ((Resolver.mk settings {}).build g.toGraph).1.diagnostics.errors
    new.Perm (errors ++ (r.unreported g.toGraph).flatMap g.toGraph.loadErrors) ∧
      (errors.Perm new ↔ r.unreported g.toGraph = []) ∧
      ((∀ page ∈ g.toGraph.pages, ∀ id ∈ page.template,
        g.standing id ≠ .absent ∧ g.standing id ≠ .copied) → errors.Perm new) := by
  intro errors new
  have hproper := h.proper.toGraph
  have hallowed : ∀ g edit, g.Proper → Edit.Unasked g edit →
      g.toGraph.Unmoved edit.id (edit.apply g).toGraph := fun _ _ hg hedit => hedit.unmoved hg
  have hcoherent : r.cache.Coherent g.toGraph r.settings := by
    rw [h.settings_eq]
    exact h.coherent hallowed rfl
  have hclean : r.cache.Clean g.toGraph r.settings := by
    rw [h.settings_eq]
    exact h.clean hallowed rfl
  -- a new resolver renders every page
  have hall : (Resolver.mk settings {}).rendered g.toGraph = g.toGraph.pages := by
    apply List.filter_eq_self.2
    intro page _
    simp [Job.serves, Cache.page?]
  have hnew : new.Perm (g.toGraph.reports settings g.toGraph.pages) := by
    have hreports := (build_reports (r := ⟨settings, {}⟩) hproper
      (Cache.coherent_of_empty rfl rfl) (Cache.clean_of_empty rfl)).1
    rw [hall] at hreports
    exact hreports
  -- a page that is not rendered comes from the cache, where it is clean
  have hserved : ∀ page ∈ g.toGraph.pages, page ∈ r.rendered g.toGraph ∨
      (g.toGraph.job r.settings).IsClean page := by
    intro page hpage
    by_cases hmem : (g.toGraph.job r.settings).serves r.cache page = true
    · right
      rw [Job.serves, Bool.and_eq_true, Option.isSome_iff_exists] at hmem
      obtain ⟨-, entry, hentry⟩ := hmem
      exact hclean _ entry (mem_of_find?_key hentry) _ page hpage rfl
    · left
      exact List.mem_filter.2 ⟨hpage, by simpa using hmem⟩
  have hperm : new.Perm (errors ++ (r.unreported g.toGraph).flatMap g.toGraph.loadErrors) := by
    have hreports := reports_perm hserved
    have herrors := (build_reports hproper hcoherent hclean).1
    rw [h.settings_eq] at hreports herrors
    exact hnew.trans (hreports.trans (herrors.symm.append_right _))
  have hiff : errors.Perm new ↔ r.unreported g.toGraph = [] := by
    constructor
    · intro hsame
      have hlength := (hsame.trans hperm).length_eq
      rw [List.length_append, length_unreported] at hlength
      exact List.length_eq_zero_iff.1 (by omega)
    · intro hnone
      rw [hnone, List.flatMap_nil, List.append_nil] at hperm
      exact hperm.symm
  exact ⟨hperm, hiff, fun htemplates => hiff.2 (unreported_eq_nil htemplates)⟩

/-! ## A missing template -/

/-- Two pages with a template that is not there. -/
def templateless : SourceGraph :=
  (Edit.module "b.md" "b.md" (samplePage "b.md" "b" "" none (some "t.md"))).apply
    ((Edit.module "a.md" "a.md" (samplePage "a.md" "a" "" none (some "t.md"))).apply
      ⟨"/", .empty⟩)

lemma proper_templateless : templateless.Proper := by
  apply Edit.proper_apply_module _ (proper_samplePage _ _ _ _ _)
  exact Edit.proper_apply_module (proper_empty _) (proper_samplePage _ _ _ _ _)

/-- The first of the pages does without the template. -/
def dropTemplate : Edit := .module "a.md" "a.md" (samplePage "a.md" "a" "" none none)

/-- The pages ask for nothing, so no edit changes an answer. -/
lemma unasked_dropTemplate : dropTemplate.Unasked templateless := by
  have hload : ∀ id m, templateless.load id = .ok (some m) →
      ∃ url, m = samplePage id url "" none (some "t.md") := by
    intro id m hload
    rw [templateless, Edit.load_apply_module, Edit.load_apply_module] at hload
    split at hload
    · rename_i heq
      rw [Except.ok.injEq, Option.some.injEq] at hload
      exact ⟨"b", by rw [← hload, heq]⟩
    · split at hload
      · rename_i heq
        rw [Except.ok.injEq, Option.some.injEq] at hload
        exact ⟨"a", by rw [← hload, heq]⟩
      · cases hload
  refine ⟨fun _ _ => False, ?_, fun _ _ _ hasked => hasked.elim⟩
  intro id m hm page hpage context resolve other _
  obtain ⟨url, rfl⟩ := hload id m (pageModule?_toGraph.1 hm)
  rw [List.mem_singleton.1 hpage]
  rfl

lemma history_dropTemplate :
    History Edit.Unasked {} (((Resolver.mk {} {}).build templateless.toGraph).2.invalidate "a.md").2
      (dropTemplate.apply templateless) {} := by
  have hbuilt : History Edit.Unasked {} _ templateless {} := .build (.start _ proper_templateless)
  have hedited : (dropTemplate.apply templateless).Proper :=
    Edit.proper_apply_module proper_templateless (proper_samplePage _ _ _ _ _)
  exact (hbuilt.edit dropTemplate unasked_dropTemplate hedited).invalidate "a.md"

/-- What is reported after an edit is what a new resolver reports but for the missing template. -/
theorem errors_perm_missing_template :
    let told := ((Resolver.mk {} {}).build templateless.toGraph).2.invalidate "a.md"
    let edited := dropTemplate.apply templateless
    History Edit.Unasked {} told.2 edited {} ∧
      (((Resolver.mk {} {}).build edited.toGraph).1.diagnostics.errors).Perm
        ((told.2.build edited.toGraph).1.diagnostics.errors
          ++ (told.2.unreported edited.toGraph).flatMap edited.toGraph.loadErrors) :=
  ⟨history_dropTemplate, (History.errors_perm history_dropTemplate).1⟩

/-- The resolver kept the second page when the failure was put down to the first one, so that it
reports nothing once the first one was edited. A new resolver reports that the template is not
there. -/
theorem missing_template_goes_unreported :
    let told := ((Resolver.mk {} {}).build templateless.toGraph).2.invalidate "a.md"
    let edited := dropTemplate.apply templateless
    History Edit.Unasked {} told.2 edited {} ∧
      (told.2.build edited.toGraph).1.diagnostics.errors = [] ∧
      ((Resolver.mk {} {}).build edited.toGraph).1.diagnostics.errors
        = [⟨"t.md", "t.md", .unloadable "t.md" "Module \x60t.md\x60 not found"⟩] :=
  ⟨history_dropTemplate, by cbv, by cbv⟩

end Resolver
end Bindery
