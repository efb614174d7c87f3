import Bindery.Proofs.Resolver.Output

/-!
# What goes wrong in a graph

The errors of modules and pages as functions of the graph and the settings, without a session and a
cache: of a module that does not load, of a url, of a table of contents, of the body of a page and
of the template around it.
-/

namespace Bindery

/-! ## The errors of a graph -/

namespace ModuleGraph

/-- A problem that is put down to a module. -/
def report (g : ModuleGraph) (module : String) (p : Problem) : Diagnostic :=
  ⟨module, g.resource module, p⟩

/-- Why a module is no page. -/
def obstacle? (g : ModuleGraph) (id : String) : Option String :=
  match g.load id with
  | .ok (some _) => none
  | .ok none => some (Problem.quoted id ++ " is not a page module")
  | .error reason => some reason

/-- What is reported of a module that has to be a page. -/
def loadErrors (g : ModuleGraph) (id : String) : List Diagnostic :=
  ((g.obstacle? id).map fun reason => g.report id (.unloadable id reason)).toList

/-- The pages of the modules that load, with the urls that they ask for. -/
def candidates (g : ModuleGraph) : List Page :=
  g.modules.flatMap fun id => ((g.pageModule? id).map PageModule.outputs).getD []

/-- What is reported of the url of a page. -/
def urlErrors (g : ModuleGraph) (page : Page) : List Diagnostic :=
  if page.url.isEmpty || (Link.normalize page.url).isSome then []
  else [g.report page.module (.outsideOutput page.url)]

/-- What is reported of the urls of the pages that a graph puts out. -/
def allUrlErrors (g : ModuleGraph) : List Diagnostic :=
  g.modules.flatMap fun id =>
    (((g.pageModule? id).map PageModule.outputs).getD []).flatMap g.urlErrors

/-- Whether a module fails to load. A file that is copied does not. -/
def fails (g : ModuleGraph) (id : String) : Bool :=
  match g.load id with
  | .ok _ => false
  | .error _ => true

variable {g : ModuleGraph} {id : String}

/-- Nothing stands in the way of a module exactly if it is a page. -/
lemma obstacle?_eq_none_iff : g.obstacle? id = none ↔ (g.pageModule? id).isSome := by
  rw [obstacle?, pageModule?]
  split <;> rename_i hload <;> simp_all

/-- A module in whose way something stands is reported with that reason. -/
lemma loadErrors_of_obstacle {reason : String} (h : g.obstacle? id = some reason) :
    g.loadErrors id = [g.report id (.unloadable id reason)] := by
  rw [loadErrors, h]
  rfl

/-- A module in whose way something stands is no page. -/
lemma pageModule?_of_obstacle {reason : String} (h : g.obstacle? id = some reason) :
    g.pageModule? id = none := by
  by_contra hne
  rw [obstacle?_eq_none_iff.2 (Option.isSome_iff_ne_none.2 hne)] at h
  cases h

end ModuleGraph

namespace Job

/-- What is reported when the table of contents of a module is rendered. -/
def tocErrors (job : Job) (id : String) : List Diagnostic :=
  match job.graph.pageModule? id with
  | none => []
  | some m =>
    match job.renderToc id m.page with
    | .ok _ => []
    | .error p => [job.graph.report id p]

/-- What is reported when the body of a page is rendered. -/
def bodyErrors (job : Job) (page : Page) (context : List (String × Value)) : List Diagnostic :=
  match page.render (job.scope context page.module) with
  | .ok _ => []
  | .error reason => [job.graph.report page.module (.renderFailed page.url reason)]

/-- What is reported when a page goes into its template, if that loads. -/
def templateErrors (job : Job) (page : Page) (context : List (String × Value)) (t : Titled) :
    List Diagnostic :=
  page.template.toList.flatMap fun id => (job.graph.pageModule? id).toList.flatMap fun m =>
    match m.page.render (job.scope (templateContext context t) id) with
    | .ok _ => []
    | .error reason => [job.graph.report id (.templateFailed page.url reason)]

/-- What is reported of a page alone. -/
def pageErrors (job : Job) (page : Page) : List Diagnostic :=
  let context := job.contextOf page (attributesOf page) (page.toc.bind job.tocOf)
  let t := job.titled page (attributesOf page) (job.bodyOf page context)
  job.bodyErrors page context ++ job.templateErrors page context t

/-- Nothing goes wrong with a page itself, and its table of contents is there. -/
def IsClean (job : Job) (page : Page) : Prop :=
  job.pageErrors page = [] ∧ ∀ id ∈ page.toc, (job.tocOf id).isSome

/-- The errors of a page are the same under one key, whatever the tables of contents are. -/
lemma pageErrors_congr {g : ModuleGraph} {settings : BuildSettings} {ids ids' : List String}
    {page : Page} (h : (Job.mk g settings ids).keyOf page = (Job.mk g settings ids').keyOf page) :
    (Job.mk g settings ids).pageErrors page = (Job.mk g settings ids').pageErrors page := by
  have hcontains : ids.contains page.module = ids'.contains page.module := by
    rw [keyOf, keyOf, PageKey.mk.injEq] at h
    exact h.2.2
  rw [pageErrors, pageErrors]
  rw [titled_congr hcontains]
  rfl

/-- A table of contents that is rendered reports no error. -/
lemma tocErrors_of_isSome {job : Job} {id : String} (h : (job.tocOf id).isSome) :
    job.tocErrors id = [] := by
  rw [tocOf] at h
  rw [tocErrors]
  cases hm : job.graph.pageModule? id with
  | none => rfl
  | some m =>
    rw [hm, Option.bind_some] at h
    cases hrender : job.renderToc id m.page with
    | ok toc => simp [hrender]
    | error p =>
      rw [hrender] at h
      cases h

end Job

end Bindery
