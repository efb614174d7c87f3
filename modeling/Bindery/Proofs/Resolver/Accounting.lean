import Bindery.Proofs.Resolver.Unreported

/-!
# Each failure is reported once

A new resolver renders every page of a graph in which no two pages share a module and a url. What it
reports is one error for each thing that fails: for a module that has to load and does not, for a
url that leads out of the output, for a table of contents, for the body of a page, and for the
template around a page. It makes no difference how many pages need what fails
(`Resolver.new_errors_perm`).
-/

namespace Bindery

/-- Why something failed. -/
def fault? {ε α : Type} : Except ε α → Option ε
  | .ok _ => none
  | .error e => some e

namespace ModuleGraph

variable (g : ModuleGraph)

/-- The error of a module that does not load as a page. -/
def loadError? (id : String) : Option Diagnostic :=
  (g.obstacle? id).map fun reason => g.report id (.unloadable id reason)

/-- The error of a page whose url cannot be normalized. A page without a url has none. -/
def urlError? (page : Page) : Option Diagnostic :=
  if page.url = "" ∨ (Link.normalize page.url).isSome then none
  else some (g.report page.module (.outsideOutput page.url))

/-- The errors of modules that do not load are one for each of them. -/
lemma flatMap_loadErrors (ids : List String) :
    (ids.filter fun id => (g.pageModule? id).isNone).flatMap g.loadErrors
      = ids.filterMap g.loadError? := by
  rw [List.filterMap_eq_flatMap_toList]
  refine Resolver.flatMap_filter_of_nil ?_
  intro id _ hpage
  have hpage : (g.pageModule? id).isSome := by simpa using hpage
  rw [loadErrors, obstacle?_eq_none_iff.2 hpage]
  rfl

lemma allUrlErrors_eq : g.allUrlErrors = g.candidates.filterMap g.urlError? := by
  rw [allUrlErrors, candidates, List.filterMap_eq_flatMap_toList, List.flatMap_assoc]
  refine List.flatMap_congr fun id _ => List.flatMap_congr fun page _ => ?_
  rw [urlErrors, urlError?]
  by_cases hempty : page.url = ""
  · simp [hempty]
  · cases Link.normalize page.url <;> simp [hempty]

end ModuleGraph

namespace Job

variable (job : Job)

/-- The error of a module that loads as a page, but fails as a table of contents. -/
def tocError? (id : String) : Option Diagnostic :=
  (job.graph.pageModule? id).bind fun m =>
    (fault? (job.renderToc id m.page)).map (job.graph.report id)

/-- What a page is rendered with. -/
def pageContext (page : Page) : List (String × Value) :=
  job.contextOf page (attributesOf page) (page.toc.bind job.tocOf)

/-- The error of a page whose body fails. -/
def bodyError? (page : Page) : Option Diagnostic :=
  (fault? (page.render (job.scope (job.pageContext page) page.module))).map fun reason =>
    job.graph.report page.module (.renderFailed page.url reason)

/-- The error of a template that loads as a page, but fails around a page. -/
def templateError? (page : Page) : Option Diagnostic :=
  let context := job.pageContext page
  let t := job.titled page (attributesOf page) (job.bodyOf page context)
  page.template.bind fun id => (job.graph.pageModule? id).bind fun m =>
    (fault? (m.page.render (job.scope (templateContext context t) id))).map fun reason =>
      job.graph.report id (.templateFailed page.url reason)

lemma tocErrors_eq (id : String) : job.tocErrors id = (job.tocError? id).toList := by
  rw [tocErrors, tocError?]
  cases job.graph.pageModule? id with
  | none => rfl
  | some m =>
    dsimp only [Option.bind_some]
    cases job.renderToc id m.page <;> rfl

/-- The errors of a page are that of its body and that of its template. -/
lemma pageErrors_eq (page : Page) :
    job.pageErrors page = (job.bodyError? page).toList ++ (job.templateError? page).toList := by
  rw [pageErrors, bodyError?, templateError?, ← pageContext]
  congr 1
  · rw [bodyErrors]
    cases page.render (job.scope (job.pageContext page) page.module) <;> rfl
  · rw [templateErrors]
    cases page.template with
    | none => rfl
    | some id =>
      rw [Option.toList_some, List.flatMap_singleton, Option.bind_some]
      cases job.graph.pageModule? id with
      | none => rfl
      | some m =>
        rw [Option.toList_some, List.flatMap_singleton, Option.bind_some]
        cases m.page.render _ <;> rfl

/-- The errors of pages are those of their bodies and those of their templates. -/
lemma flatMap_pageErrors_perm (pages : List Page) :
    (pages.flatMap job.pageErrors).Perm
      (pages.filterMap job.bodyError? ++ pages.filterMap job.templateError?) := by
  rw [List.filterMap_eq_flatMap_toList, List.filterMap_eq_flatMap_toList,
    List.flatMap_congr fun page _ => job.pageErrors_eq page]
  exact (List.flatMap_append_perm pages _ _).symm

end Job

namespace Resolver

open SourceGraph

/-- A new resolver renders every page. -/
lemma rendered_new (settings : BuildSettings) (g : ModuleGraph) :
    (Resolver.mk settings {}).rendered g = g.pages := by
  refine List.filter_eq_self.2 ?_
  intro page _
  simp [Job.serves, Cache.page?]

/-- What a new resolver reports is one error for each module that has to load as a page and does
not, for each page with a url that leads out of the output, for each table of contents that some
page names and that fails, for each page whose body fails, and for each page whose template fails
around it. -/
theorem new_errors_perm (settings : BuildSettings) {g : ModuleGraph} (hdistinct : g.Distinct) :
    ((Resolver.mk settings {}).build g).1.diagnostics.errors.Perm
      ((g.neededFor g.pages).dedup.filterMap g.loadError?
        ++ g.candidates.filterMap g.urlError?
        ++ (g.pages.filterMap Page.toc).dedup.filterMap (g.job settings).tocError?
        ++ g.pages.filterMap (g.job settings).bodyError?
        ++ g.pages.filterMap (g.job settings).templateError?) := by
  have hreports := (build_reports_of_distinct (r := ⟨settings, {}⟩) hdistinct
    (Cache.coherent_of_empty rfl rfl) (Cache.clean_of_empty rfl)).1
  rw [rendered_new, ModuleGraph.reports, g.flatMap_loadErrors, g.allUrlErrors_eq,
    ← List.filterMap_eq_flatMap_toList Page.toc,
    List.flatMap_congr fun id _ => (g.job settings).tocErrors_eq id,
    ← List.filterMap_eq_flatMap_toList] at hreports
  refine hreports.trans ?_
  have hpages := (g.job settings).flatMap_pageErrors_perm g.pages
  rw [List.perm_iff_count] at hpages ⊢
  intro d
  have hpages := hpages d
  simp only [List.count_append] at hpages ⊢
  omega

/-- The template that is not there is reported once, though two pages name it. -/
theorem new_errors_perm_shared_template :
    templateless.toGraph.Distinct ∧
      ((Resolver.mk {} {}).build templateless.toGraph).1.diagnostics.errors.Perm
        [⟨"t.md", "t.md", .unloadable "t.md" "Module \x60t.md\x60 not found"⟩] := by
  have hdistinct := proper_templateless.toGraph.distinct
  refine ⟨hdistinct, (new_errors_perm {} hdistinct).trans (.of_eq ?_)⟩
  cbv

end Resolver
end Bindery
